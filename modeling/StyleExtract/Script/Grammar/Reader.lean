import StyleExtract.Script.Dialect
import StyleExtract.Script.Scan.Token
import StyleExtract.Script.Tree

/-!
# Reading by grammar rules

A rule reads tokens from a cursor in a context and either fails or gives a result. A fault that a
rule could read past (an *early error*) fails as well, except in the speculative readings of
typed files, where early errors are overlooked.

## Main definitions

* `Script.Cursor` — a place in a text, with the token that stands there.
* `Script.Context` — what surrounds the place.
* `Script.Rule` — a rule.
* `Script.attempt` — a speculative reading.
* `Script.iterate` — repetition.

## Design

A rule only moves forward: the place behind what it has read comes with the proof that the text from
there on is the end of the text at the place where it started. So whatever a rule reads, however
deeply it is nested, stands in the text.

Repetitions are bounded by the length of the text: every round but the last consumes a character.
-/

namespace StyleExtract.Script

open Text (Span)

/-! ## Places -/

/-- A place in a text, with the token that stands there. -/
structure Cursor where
  /-- The token. -/
  token : Token
  /-- Its first byte. -/
  start : Nat
  /-- The byte after it. -/
  stop : Nat
  /-- Whether a line break stands before it. -/
  lineBreak : Bool
  /-- The text from the token on. -/
  here : List Char
  /-- The text after the token. -/
  rest : List Char
  /-- The byte after the token before it. -/
  last : Nat
  /-- The token stands before the rest. -/
  rest_suffix : rest <:+ here
  /-- The token is the one that stands here. -/
  scanned : token = .invalid ∨ ∃ fuel, token = (scanToken fuel here).token

/-- The cursor at the first token of a text that starts at a byte. -/
def Cursor.ofText (fuel : Nat) (pos : Nat) (cs : List Char) : Cursor :=
  match skipGap .between cs with
  | none => ⟨.invalid, pos, pos, false, [], [], pos, List.suffix_rfl, .inl rfl⟩
  | some g =>
    let t := scanToken fuel g.rest
    let start := pos + g.size
    ⟨t.token, start, start + t.size, g.lineBreak, g.rest, t.rest, pos,
      scanToken_rest_suffix fuel g.rest, .inr ⟨fuel, rfl⟩⟩

/-- The cursor at the next token. -/
def Cursor.next (fuel : Nat) (c : Cursor) : Cursor :=
  Cursor.ofText fuel c.stop c.rest

/-- A cursor in a text is somewhere in this text. -/
theorem Cursor.here_ofText_suffix (fuel pos : Nat) (cs : List Char) :
    (ofText fuel pos cs).here <:+ cs := by
  unfold ofText
  split
  · exact List.nil_suffix
  · next g h => exact skipGap_rest_suffix h

/-- The next token is behind this one. -/
theorem Cursor.here_next_suffix (fuel : Nat) (c : Cursor) : (c.next fuel).here <:+ c.here :=
  (here_ofText_suffix fuel c.stop c.rest).trans c.rest_suffix

/-- The ends of a text. -/
abbrev Tail (cs : List Char) := { rest : List Char // rest <:+ cs }

/-- The places from a place on. -/
abbrev Cursor.Onward (c : Cursor) := { c' : Cursor // c'.here <:+ c.here }

/-- The place itself. -/
def Cursor.stay (c : Cursor) : c.Onward := ⟨c, List.suffix_rfl⟩

/-- What surrounds a place. -/
structure Context where
  /-- The dialect. -/
  dialect : Dialect
  /-- The number of characters of the text. -/
  size : Nat
  /-- Whether early errors are overlooked. -/
  lenient : Bool := false
  /-- In the body or parameters of a function. -/
  inFunction : Bool := false
  /-- In a function that is not an arrow function, or in a class field. -/
  hasReceiver : Bool := false
  /-- In an asynchronous function. -/
  inAsync : Bool := false
  /-- In a generator. -/
  inGenerator : Bool := false
  /-- In the parameters of a function, where nothing can be awaited or handed out. -/
  inParameters : Bool := false
  /-- In a method or class, where members of the parent can be used. -/
  hasParent : Bool := false
  /-- In a static block or a field of a class, where nothing can be awaited. -/
  inField : Bool := false
  /-- Where a loop or switch can be left. -/
  breakable : Bool := false
  /-- Where a loop can be continued. -/
  continuable : Bool := false
  /-- The labels around. -/
  labels : List String := []
  /-- Whether `in` is an operator. -/
  allowIn : Bool := true
  /-- In a branch of a conditional expression. -/
  inConditional : Bool := false
  /-- Where a colon of a conditional expression has to follow. -/
  colonAhead : Bool := false
  /-- Where `extends` does not start a conditional type. -/
  plainTypes : Bool := false
  /-- In an ambient declaration. -/
  ambient : Bool := false
  /-- The byte at which the current expression starts; only there an arrow function may. -/
  arrowStart : Nat := 0

/-! ## Rules -/

/-- A rule: in a context, from a place on, it reads something and gives the place behind it. -/
def Rule (α : Type) : Type := Context → (c : Cursor) → Option (α × c.Onward)

instance : Monad Rule where
  pure a := fun _ c => some (a, c.stay)
  bind rule next := fun ctx c =>
    match rule ctx c with
    | none => none
    | some (a, mid) =>
      match next a ctx mid.1 with
      | none => none
      | some (b, behind) => some (b, ⟨behind.1, behind.2.trans mid.2⟩)

instance : MonadReaderOf Context Rule where
  read := fun ctx c => some (ctx, c.stay)

/-! ## Failing and trying -/

/-- No reading. -/
def fail {α : Type} : Rule α := fun _ _ => none

/-- An early error. -/
def earlyError : Rule Unit := do
  if !(← read).lenient then fail

/-- An early error where a condition holds. -/
def earlyErrorIf (b : Bool) : Rule Unit := do
  if b then earlyError

/-- A speculative reading: if it fails the cursor stays where it is. -/
def attempt {α : Type} (rule : Rule α) : Rule (Option α) := fun ctx c =>
  match rule { ctx with lenient := true } c with
  | some (a, behind) => some (some a, behind)
  | none => some (none, c.stay)

/-- Whether a rule would read, without reading. -/
def wouldRead {α : Type} (rule : Rule α) : Rule Bool := fun ctx c =>
  some ((rule { ctx with lenient := true } c).isSome, c.stay)

/-- Reads with another context. -/
def within {α : Type} (f : Context → Context) (rule : Rule α) : Rule α := fun ctx c =>
  rule (f ctx) c

/-- Repeats a step until it gives a result. -/
def iterateFuel {σ ρ : Type} (step : σ → Rule (σ ⊕ ρ)) : Nat → σ → Rule ρ
  | 0, _ => fail
  | fuel + 1, s => do
    match ← step s with
    | .inl s => iterateFuel step fuel s
    | .inr r => pure r

/-- Repeats a step until it gives a result; every step but the last reads something. -/
def iterate {σ ρ : Type} (s : σ) (step : σ → Rule (σ ⊕ ρ)) : Rule ρ := do
  iterateFuel step ((← read).size + 2) s

/-! ## Tokens -/

/-- The cursor. -/
def cursor : Rule Cursor := fun _ c => some (c, c.stay)

/-- Whether the file is typed. -/
def isTyped : Rule Bool := return (← read).dialect.typed

/-- Whether the file may hold markup. -/
def hasMarkup : Rule Bool := return (← read).dialect.markup

/-- The first byte of the current token. -/
def position : Rule Nat := return (← cursor).start

/-- The place from a byte to the end of the last token. -/
def spanFrom (start : Nat) : Rule Span := return ⟨start, (← cursor).last⟩

/-- The next token's cursor, without going there. -/
def ahead : Rule Cursor := return (← cursor).next (← read).size

/-- Goes to the next token. -/
def advance : Rule Unit := fun ctx c => some ((), ⟨c.next ctx.size, c.here_next_suffix ctx.size⟩)

/-- Reads characters instead of tokens: `scan` gives a result, the number of bytes from the start of
the current token, and the text to go on at. -/
def resume {α : Type} (scan : (c : Cursor) → Option (α × Nat × Tail c.here)) : Rule α :=
  fun ctx c =>
    match scan c with
    | none => none
    | some (a, size, rest) =>
      some (a, ⟨.ofText ctx.size (c.start + size) rest.1,
        (Cursor.here_ofText_suffix ctx.size (c.start + size) rest.1).trans rest.2⟩)

/-- Whether a token is the given punctuator. -/
def Token.isPunct (mark : String) : Token → Bool
  | .punct m => m == mark
  | _ => false

/-- Whether a token is the given word, not escaped. -/
def Token.isWord (w : String) : Token → Bool
  | .word name false => name == w
  | _ => false

/-- Whether a token is any word. -/
def Token.isName : Token → Bool
  | .word _ _ => true
  | _ => false

/-- Whether a token is a string literal. -/
def Token.isText : Token → Bool
  | .text _ => true
  | _ => false

/-- Whether a token is a number literal. -/
def Token.isNumber : Token → Bool
  | .number _ => true
  | _ => false

/-- Whether a token is a private name. -/
def Token.isPrivate : Token → Bool
  | .privateName _ => true
  | _ => false

/-- Whether a token is the end. -/
def Token.isFinish : Token → Bool
  | .finish => true
  | _ => false

/-- Whether the current token is a punctuator. -/
def atPunct (mark : String) : Rule Bool := return (← cursor).token.isPunct mark

/-- Whether the current token is a word. -/
def atWord (w : String) : Rule Bool := return (← cursor).token.isWord w

/-- Whether the current token is one of some words. -/
def atOneOf (ws : List String) : Rule Bool := do
  let t := (← cursor).token
  return ws.any t.isWord

/-- Whether the next token is a punctuator. -/
def aheadPunct (mark : String) : Rule Bool := return (← ahead).token.isPunct mark

/-- Whether the next token is a word. -/
def aheadWord (w : String) : Rule Bool := return (← ahead).token.isWord w

/-- Reads a punctuator if it stands here. -/
def eat (mark : String) : Rule Bool := do
  if ← atPunct mark then
    advance
    return true
  return false

/-- Reads a word if it stands here. -/
def eatWord (w : String) : Rule Bool := do
  if ← atWord w then
    advance
    return true
  return false

/-- Reads a punctuator. -/
def expect (mark : String) : Rule Unit := do
  if !(← eat mark) then fail

/-- Reads a word. -/
def expectWord (w : String) : Rule Unit := do
  if !(← eatWord w) then fail

/-- Whether a statement could end here: at a semicolon, a closing brace, a line break or the end. -/
def canEndStatement : Rule Bool := do
  let c ← cursor
  return c.lineBreak || c.token.isPunct ";" || c.token.isPunct "\x7d" || c.token.isFinish

/-- The end of a statement. -/
def semicolon : Rule Unit := do
  if !(← eat ";") then
    if !(← canEndStatement) then fail

/-- Items with commas between them up to a closing mark, which is read, too; a comma may stand
before it. -/
def commaList (close : String) (item : Rule Unit) : Rule Unit :=
  iterate () fun _ => do
    if ← eat close then return .inr ()
    item
    if ← eat close then return .inr ()
    expect ","
    return .inl ()

/-- A literal part of a template behind the current token. -/
def templateChunk : Rule Chunk := do
  let fuel := (← read).size
  resume fun c =>
    match h : scanChunk fuel c.rest with
    | none => none
    | some chunk => some (chunk, c.stop - c.start + chunk.size,
        ⟨chunk.rest, (scanChunk_rest_suffix h).trans c.rest_suffix⟩)

/-! ## Names -/

/-- Words that are never names of variables. -/
def keywords : List String :=
  ["break", "case", "catch", "class", "const", "continue", "debugger", "default", "delete", "do",
    "else", "export", "extends", "finally", "for", "function", "if", "import", "in", "instanceof",
    "new", "return", "super", "switch", "this", "throw", "try", "typeof", "var", "void", "while",
    "with", "null", "true", "false"]

/-- Words that modules do not allow as names of variables. -/
def strictWords : List String :=
  ["enum", "implements", "interface", "let", "package", "private", "protected", "public",
    "static", "yield"]

/-- Whether a word can be no variable of a module. -/
def isReserved (w : String) : Bool :=
  keywords.contains w || strictWords.contains w || w == "await"

/-- Any word, as the name of a property. -/
def propertyName : Rule String := do
  match (← cursor).token with
  | .word name escaped =>
    if escaped && isReserved name then fail
    advance
    return name
  | _ => fail

/-- The name of a variable that is referred to. -/
def referenceName : Rule String := do
  match (← cursor).token with
  | .word name escaped =>
    if escaped && isReserved name then fail
    if keywords.contains name && !(name == "this" && (← isTyped)) then fail
    if name == "await" && !(← read).ambient then fail
    earlyErrorIf (strictWords.contains name)
    advance
    return name
  | _ => fail

/-- The name of a variable that is declared. -/
def bindingName : Rule String := do
  let name ← referenceName
  earlyErrorIf (name == "eval" || name == "arguments")
  return name

/-- Whether a token can start the name of a variable. -/
def Token.isBindable : Token → Bool
  | .word name escaped => !escaped && !keywords.contains name
  | _ => false

/-- A string literal. -/
def textLiteral : Rule String := do
  match (← cursor).token with
  | .text s =>
    advance
    return s
  | _ => fail

end StyleExtract.Script
