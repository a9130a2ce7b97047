import StyleExtract.Script.Grammar.Classes

/-!
# Arrays, objects, templates and regular expressions

## Main definitions

* `Script.arguments` — the arguments of a call.
* `Script.arrayLiteral`, `Script.objectLiteral` — arrays and objects, which may turn out to be
  patterns.
* `Script.templateParts` — the parts of a template.
* `Script.regularExpression` — a regular expression.
-/

namespace StyleExtract.Script

open Text (Span)

/-- Reads where no surrounding construct restricts what an expression is. -/
def unrestricted {α : Type} (rule : Rule α) : Rule α :=
  within (fun c => { c with allowIn := true, inConditional := false, colonAhead := false }) rule

/-- The arguments of a call behind their parenthesis. -/
def callArguments (r : Rules) : Rule (List Argument) := unrestricted do
  iterate ([] : List Argument) fun args => do
    if ← eat ")" then return .inr args.reverse
    let spread ← eat "..."
    let value ← r.value
    let args := Argument.mk spread value :: args
    if ← eat ")" then return .inr args.reverse
    expect ","
    return .inl args

/-! ## Arrays -/

/-- The elements of an array so far, and whether they could be a pattern. -/
structure ArrayDraft where
  items : List (Option Argument) := []
  /-- Nothing stands behind what is spread. -/
  extensible : Bool := true
  target : Bool := true
  param : Bool := true
  pending : Bool := false

/-- The draft with one more element. -/
def ArrayDraft.add (d : ArrayDraft) (spread : Bool) (n : Node) : ArrayDraft :=
  { items := some (.mk spread n.expr) :: d.items
    extensible := d.extensible && !spread
    target := d.target && d.extensible && (if spread then n.target else n.element)
    param := d.param && d.extensible && (if spread then n.param else n.paramElement)
    pending := d.pending || n.pending }

/-- The draft when a comma follows: a pattern has none behind what is spread. -/
def ArrayDraft.comma (d : ArrayDraft) : ArrayDraft :=
  { d with target := d.target && d.extensible, param := d.param && d.extensible }

/-- An array behind its bracket, which may turn out to be a pattern. -/
def arrayLiteral (r : Rules) (start : Nat) : Rule Node := do
  let d ← unrestricted <| iterate ({} : ArrayDraft) fun d => do
    if ← eat "]" then return .inr d
    if ← eat "," then return .inl { d with items := none :: d.items }
    let spread ← eat "..."
    let n ← r.assign
    let d := d.add spread n
    if ← eat "]" then return .inr d
    expect ","
    return .inl d.comma
  let expr := Expr.array (← spanFrom start) d.items.reverse
  return { expr, target := d.target, element := d.target, param := d.param,
           paramElement := d.param, pending := d.pending }

/-! ## Objects -/

/-- The properties of an object so far, and whether they could be a pattern. -/
structure ObjectDraft where
  properties : List Property := []
  /-- Nothing stands behind what is spread. -/
  extensible : Bool := true
  target : Bool := true
  param : Bool := true
  pending : Bool := false

/-- The draft with a property that may be part of a pattern. -/
def ObjectDraft.add (d : ObjectDraft) (p : Property) (target param pending : Bool) :
    ObjectDraft :=
  { properties := p :: d.properties
    extensible := d.extensible
    target := d.target && d.extensible && target
    param := d.param && d.extensible && param
    pending := d.pending || pending }

/-- The draft when a comma follows: a pattern has none behind what is spread. -/
def ObjectDraft.comma (d : ObjectDraft) : ObjectDraft :=
  { d with target := d.target && d.extensible, param := d.param && d.extensible }

/-- Whether a name may be declared and assigned to in a module. -/
def isAssignableName (name : String) : Bool := name != "eval" && name != "arguments"

/-- Whether an expression is a plain name. -/
def Expr.isIdent : Expr → Bool
  | .ident _ _ => true
  | _ => false

/-- One property of an object. -/
def objectProperty (r : Rules) (d : ObjectDraft) : Rule ObjectDraft := do
  if ← eat "..." then
    let n ← r.assign
    let d := d.add (.spread n.expr) n.simple (n.param && n.expr.isIdent) n.pending
    return { d with extensible := false }
  let marks ← methodMarks
  let first ← cursor
  let key ← propertyKey r
  if (← atPunct "(") || ((← isTyped) && (← atPunct "<")) then
    let hasBody ← methodRest r marks false
    if !hasBody then fail
    return d.add .method false false false
  if marks.any then fail
  if ← eat ":" then
    let n ← r.assign
    return d.add (.keyValue key n.expr) n.element n.paramElement n.pending
  match first.token with
  | .word name _ =>
    if keywords.contains name || name == "await" then fail
    earlyErrorIf (strictWords.contains name)
    let ok := isAssignableName name
    if ← eat "=" then
      let _ ← r.value
      return d.add (.shorthand name) ok ok true
    return d.add (.shorthand name) ok ok false
  | _ => fail

/-- An object behind its brace, which may turn out to be a pattern. -/
def objectLiteral (r : Rules) (start : Nat) : Rule Node := do
  let d ← unrestricted <| iterate ({} : ObjectDraft) fun d => do
    if ← eat "\x7d" then return .inr d
    let d ← objectProperty r d
    if ← eat "\x7d" then return .inr d
    expect ","
    return .inl d.comma
  let expr := Expr.object (← spanFrom start) d.properties.reverse
  return { expr, target := d.target, element := d.target, param := d.param,
           paramElement := d.param, pending := d.pending }

/-! ## Templates and regular expressions -/

/-- The parts of a template, of which the backtick is the current token: the cooked texts of the
literal parts and the holes between them. -/
def templateParts (r : Rules) : Rule (List (Option String) × List Expr) :=
  iterate (([], []) : List (Option String) × List Expr) fun (texts, holes) => do
    let chunk ← templateChunk
    let texts := chunk.cooked.map String.ofList :: texts
    if chunk.hole then
      let hole ← unrestricted r.expression
      if !(← atPunct "\x7d") then fail
      return .inl (texts, hole :: holes)
    return .inr (texts.reverse, holes.reverse)

/-- The flags of regular expressions. -/
def patternFlags : List Char := ['d', 'g', 'i', 'm', 's', 'u', 'v', 'y']

/-- Whether no element stands twice in a list. -/
def allDistinct : List Char → Bool
  | [] => true
  | c :: cs => !cs.contains c && allDistinct cs

/-- A regular expression, of which the slash is the first character of the current token. -/
def regularExpression : Rule Unit := do
  let flags ← resume fun c =>
    match h : scanPattern false (c.here.drop 1) with
    | none => none
    | some (size, rest) =>
      let flags := rest.takeWhile Text.isIdentifierPart
      some (flags, 1 + size + Text.bytes flags, ⟨rest.dropWhile Text.isIdentifierPart,
        (List.dropWhile_suffix _).trans ((scanPattern_snd_suffix h).trans (List.drop_suffix 1 c.here))⟩)
  earlyErrorIf !(flags.all patternFlags.contains && allDistinct flags)

end StyleExtract.Script
