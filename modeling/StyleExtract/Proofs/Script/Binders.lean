import Mathlib.Tactic.Common
import StyleExtract.Proofs.Script.StatementsReadBack

/-!
# Names that a text binds

Readers for the two places where generated code binds names that come from elsewhere: the parameter
of a function, which takes properties out of its argument, and the declaration of an import. As the
readers for terms, they know the tokens and the grammar of the language and nothing of how the texts
are put together.

## Main definitions

* `Script.readHead?` — what a function takes its argument as.
* `Script.Pattern`, `Script.readParameter?` — the names that the parameter of a function binds.
* `Script.NamedImport`, `Script.readImport?` — the names that an import binds.
* `Script.readBareImport?` — the module of an import that binds no names.

## Main results

* `Script.readHead?_text` — what a function takes its argument as is read back.
* `Script.Program.readParameter?_text` — so are the names that a generated function binds.
* `Script.NamedImport.readImport?_text` — so is the declaration of an import.
* `Script.readBareImport?_text` — so is one without names.

## Design

The reader of parameters takes any word for a name, reserved or not. What it finds can then be asked
whether it is a `Script.IsBindingName`. Of what stands in for a missing property only texts are in
the part of the language that is read, and of what stands in for a missing argument only the object
without properties.
-/

namespace StyleExtract.Script

/-! ## Names that may be bound -/

/-- A word of generated code is the name of an identifier. -/
lemma IsWord.isIdentifierName {s : String} (h : IsWord s) : IsIdentifierName s := by
  unfold IsWord at h
  unfold IsIdentifierName
  cases hchars : s.toList with
  | nil => simp [hchars, headTail] at h
  | cons c cs =>
    simp only [hchars, headTail, Bool.and_eq_true, List.all_eq_true] at h ⊢
    exact ⟨(start_of_isNameChar h.1).1, fun d hd => (isIdentifierPart_of_isNameChar (h.2 d hd)).1⟩

/-- A variable may be bound unless it is one of the two names that strict code may not assign. -/
lemma IsVariable.isBindingName_iff {s : String} (h : IsVariable s) :
    IsBindingName s ↔ s ≠ "eval" ∧ s ≠ "arguments" :=
  ⟨fun hs => hs.2.2, fun hs => ⟨h.1.isIdentifierName, h.2, hs⟩⟩

/-! ## Readers -/

section Parts

variable {α : Type} (part : List Char → Option (α × List Char))

/-- Parts with commas between them, up to and with a closing brace. -/
def readParts : ℕ → List Char → Option (List α × List Char)
  | 0, _ => none
  | fuel + 1, cs => do
    let (a, rest) ← part cs
    match skipMark? "\x7d" rest with
    | some rest => some ([a], rest)
    | none => do
      let rest ← skipMark? "," rest
      let (as, rest) ← readParts fuel rest
      some (a :: as, rest)

/-- Parts between braces with commas between them. -/
def readBraced (cs : List Char) : Option (List α × List Char) := do
  let rest ← skipMark? "\x7b" cs
  readParts part (rest.length + 1) rest

end Parts

/-- What stands in for a missing value, if there is such a thing. -/
def readDefault? (cs : List Char) : Option (Option Term × List Char) :=
  match skipMark? "=" cs with
  | some rest => (readTerm (rest.length + 1) rest).map fun (t, rest) => (some t, rest)
  | none => some (none, cs)

/-- A parameter with nothing or a text that stands in for its property. -/
def Parameter.ofDefault? (x : String) : Option Term → Option Parameter
  | none => some ⟨x, none⟩
  | some (.quoted s) => some ⟨x, some s⟩
  | some _ => none

/-- A part of a pattern between braces. -/
inductive PatternPart where
  /-- A name for the property of that name. -/
  | property (p : Parameter)
  /-- A name for the other properties. -/
  | others (x : String)

/-- A part of a pattern. -/
def readPatternPart? (cs : List Char) : Option (PatternPart × List Char) :=
  match skipMark? "..." cs with
  | some rest => (readWord? rest).map fun (x, rest) => (.others x, rest)
  | none => do
    let (x, rest) ← readWord? cs
    let (default?, rest) ← readDefault? rest
    (Parameter.ofDefault? x default?).map fun p => (.property p, rest)

/-- The parameters of a pattern and the name for the other properties, behind which nothing may
stand. -/
def splitParts? : List PatternPart → Option (List Parameter × Option String)
  | [] => some ([], none)
  | [.others x] => some ([], some x)
  | .others _ :: _ => none
  | .property p :: parts => (splitParts? parts).map fun (ps, others) => (p :: ps, others)

/-- A pattern: a name for the argument, or names for its properties. -/
def readPattern? (cs : List Char) : Option (Head × List Char) :=
  match readWord? cs with
  | some (x, rest) => some (.whole x, rest)
  | none => do
    let (parts, rest) ← readBraced readPatternPart? cs
    (splitParts? parts).map fun (ps, others) => (.properties ps others, rest)

/-- Whether something stands in for a missing argument as a function asks for it. -/
def Head.allows : Head → Option Term → Bool
  | .whole _, some (.object .nil) => true
  | .properties _ none, some (.object .nil) => true
  | .properties _ (some _), none => true
  | _, _ => false

/-- Whether the next token stands on another line. -/
def opensLine (cs : List Char) : Bool :=
  match skipGap .between cs with
  | some gap => gap.lineBreak
  | none => true

/-- **What a function takes its argument as**, up to and with the arrow, which stands on the same
line. -/
def readHead? (cs : List Char) : Option (Head × List Char) := do
  let rest ← skipMark? "(" cs
  let (h, rest) ← readPattern? rest
  let (default?, rest) ← readDefault? rest
  let rest ← skipMark? ")" rest
  if h.allows default? && !opensLine rest then (skipMark? "=>" rest).map (h, ·) else none

/-- **The names that a parameter binds.** -/
structure Pattern where
  /-- The names for single properties, or the one for the argument itself. -/
  names : List String
  /-- The name for the other properties. -/
  rest? : Option String
  deriving DecidableEq

/-- All names of a pattern. -/
def Pattern.all (p : Pattern) : List String := p.names ++ p.rest?.toList

/-- The names that a function takes its argument as. -/
def Head.pattern : Head → Pattern
  | .whole x => ⟨[x], none⟩
  | .properties ps others => ⟨ps.map Parameter.name, others⟩

/-- The text behind `Object.assign(`, if a text begins with that. -/
def skipAssign? (cs : List Char) : Option (List Char) :=
  match skipWord? "Object" cs with
  | some rest => do
    let rest ← skipMark? "." rest
    let rest ← skipWord? "assign" rest
    skipMark? "(" rest
  | none => some cs

/-- **The names that the one parameter of a function binds.** The function may be the first argument
of `Object.assign`. -/
def readParameter? (s : String) : Option Pattern := do
  let rest ← skipAssign? s.toList
  (readHead? rest).map fun (h, _) => h.pattern

/-- **A declaration that imports names.** -/
structure NamedImport where
  /-- What is imported, each with the name that it is bound to. -/
  names : List (String × String)
  /-- The module. -/
  source : String
  deriving DecidableEq

/-- The names that an import binds. -/
def NamedImport.locals (i : NamedImport) : List String := i.names.map Prod.snd

/-- What is imported and the name that it is bound to. -/
def readSpecifier? (cs : List Char) : Option ((String × String) × List Char) := do
  let (exported, rest) ← readWord? cs
  let rest ← skipWord? "as" rest
  let (x, rest) ← readVariable? rest
  some ((exported, x), rest)

/-- **The declaration of an import that a text is.** -/
def readImport? (s : String) : Option NamedImport := do
  let rest ← skipWord? "import" s.toList
  let (names, rest) ← readBraced readSpecifier? rest
  let rest ← skipWord? "from" rest
  match next? rest with
  | some (.text source, rest) => do
    let rest ← skipMark? ";" rest
    if isFinished rest then some ⟨names, source⟩ else none
  | _ => none

/-- **The module of an import that binds no names**, if a text is one. -/
def readBareImport? (s : String) : Option String := do
  let rest ← skipWord? "import" s.toList
  match next? rest with
  | some (.text source, rest) => do
    let rest ← skipMark? ";" rest
    if isFinished rest then some source else none
  | _ => none

/-! ## Reading back parts -/

/-- What follows a part: the closing brace or a comma. -/
def EndsPart (cs : List Char) : Prop :=
  (∃ rest, cs = ' ' :: '\x7d' :: rest) ∨ ∃ rest, cs = ',' :: ' ' :: rest

/-- What follows a part ends a term. -/
lemma EndsPart.ends {cs : List Char} (h : EndsPart cs) : Ends 0 cs := by
  rcases h with ⟨rest, rfl⟩ | ⟨rest, rfl⟩
  · exact ends_brace rest
  · exact ends_comma _

/-- What follows a part ends a word. -/
lemma EndsPart.endsWord {cs : List Char} (h : EndsPart cs) : EndsWord cs := h.ends.stops.endsWord

section Parts

variable {α : Type} {part : List Char → Option (α × List Char)} {parts : List (String × α)}

/-- **Parts are read back**, each from its own text, with the brace that closes them.

**Proof sketch.** By induction on the parts. What follows the first is the closing brace, or a comma
with the others behind it. -/
theorem readParts_text (hspace : ∀ cs, part (' ' :: cs) = part cs)
    (hparts : ∀ p ∈ parts, ∀ tail, EndsPart tail → part (p.1.toList ++ tail) = some (p.2, tail))
    (hne : parts ≠ []) (cs : List Char) {fuel : ℕ}
    (hfuel : (Text.join ", " (parts.map Prod.fst)).toList.length < fuel) :
    readParts part fuel ((Text.join ", " (parts.map Prod.fst)).toList ++ ' ' :: '\x7d' :: cs) =
      some (parts.map Prod.snd, cs) := by
  obtain ⟨fuel, rfl⟩ := Nat.exists_eq_add_one_of_ne_zero (Nat.ne_zero_of_lt hfuel)
  induction parts generalizing fuel with
  | nil => exact absurd rfl hne
  | cons p parts ih =>
    obtain ⟨hp, hparts⟩ := List.forall_mem_cons.mp hparts
    cases parts with
    | nil =>
      have hread := hp (' ' :: '\x7d' :: cs) (.inl ⟨cs, rfl⟩)
      have hclose : skipMark? "\x7d" (' ' :: '\x7d' :: cs) = some cs := rfl
      simp only [readParts, List.map_cons, List.map_nil, Text.join, hread, hclose,
        Option.bind_eq_bind, Option.bind_some]
    | cons q parts =>
      have hchars : (Text.join ", " ((p :: q :: parts).map Prod.fst)).toList =
          p.1.toList ++ ',' :: ' ' :: (Text.join ", " ((q :: parts).map Prod.fst)).toList := by
        simp [Text.join]
      rw [hchars] at hfuel ⊢
      have hlength : (Text.join ", " ((q :: parts).map Prod.fst)).toList.length < fuel := by
        simp only [List.length_append, List.length_cons] at hfuel
        omega
      obtain ⟨fuel, rfl⟩ := Nat.exists_eq_add_one_of_ne_zero (Nat.ne_zero_of_lt hlength)
      have hread := fun r : List Char => hp (',' :: ' ' :: r) (.inr ⟨r, rfl⟩)
      have hmore := ih hparts (List.cons_ne_nil q parts) fuel hlength
      have hblank : ∀ r : List Char, readParts part (fuel + 1) (' ' :: r) =
          readParts part (fuel + 1) r := fun r => by simp only [readParts, hspace]
      have hcomma : ∀ r : List Char, skipMark? "," (',' :: ' ' :: r) = some (' ' :: r) :=
        fun _ => rfl
      have hbrace : ∀ r : List Char, skipMark? "\x7d" (',' :: ' ' :: r) = none := fun _ => rfl
      rw [List.append_assoc, List.cons_append, List.cons_append, readParts]
      simp only [hread, hbrace, hcomma, hblank, hmore, Option.bind_eq_bind, Option.bind_some]
      rfl

/-- Parts between braces are read back.

**Proof sketch.** The opening brace and the blank behind it are taken off, and the parts are read
one after the other up to the closing brace. The fuel is the length of the text, which is more than
that of the parts. -/
lemma readBraced_text (hspace : ∀ cs, part (' ' :: cs) = part cs)
    (hparts : ∀ p ∈ parts, ∀ tail, EndsPart tail → part (p.1.toList ++ tail) = some (p.2, tail))
    (hne : parts ≠ []) (cs : List Char) :
    readBraced part ((braced (Text.join ", " (parts.map Prod.fst))).toList ++ cs) =
      some (parts.map Prod.snd, cs) := by
  have hchars : (braced (Text.join ", " (parts.map Prod.fst))).toList ++ cs =
      '\x7b' :: ' ' ::
        ((Text.join ", " (parts.map Prod.fst)).toList ++ ' ' :: '\x7d' :: cs) := by
    simp [braced]
  have hopen : ∀ r : List Char, skipMark? "\x7b" ('\x7b' :: ' ' :: r) = some (' ' :: r) :=
    fun _ => rfl
  have hblank : ∀ (fuel : ℕ) (r : List Char), readParts part (fuel + 1) (' ' :: r) =
      readParts part (fuel + 1) r := fun fuel r => by simp only [readParts, hspace]
  simp only [hchars, readBraced, hopen, Option.bind_eq_bind, Option.bind_some, hblank]
  refine readParts_text hspace hparts hne cs ?_
  simp only [List.length_cons, List.length_append]
  omega

end Parts

/-! ## Reading back parameters -/

/-- What follows a part does not stand in for anything. -/
lemma EndsPart.readDefault?_eq {cs : List Char} (h : EndsPart cs) :
    readDefault? cs = some (none, cs) := by
  rcases h with ⟨rest, rfl⟩ | ⟨rest, rfl⟩ <;> rfl

/-- A text that stands in is read back. -/
lemma readDefault?_quoted (s : String) {cs : List Char} (hcs : Ends 0 cs) :
    readDefault? (' ' :: '=' :: ' ' :: ((Text.scriptQuote s).toList ++ cs)) =
      some (some (.quoted s), cs) := by
  have hequals : ∀ r : List Char, skipMark? "=" (' ' :: '=' :: ' ' :: r) = some (' ' :: r) :=
    fun _ => rfl
  have hlength : (Term.quoted s).text.toList.length <
      (' ' :: ((Text.scriptQuote s).toList ++ cs)).length + 1 := by
    simp only [Term.text, List.length_cons, List.length_append]
    omega
  have hread := readTerm_text (t := .quoted s) trivial hcs hlength
  rw [Term.text] at hread
  simp only [readDefault?, hequals, readTerm_space, hread, Option.map_some]

@[simp] lemma readPatternPart?_space (cs : List Char) :
    readPatternPart? (' ' :: cs) = readPatternPart? cs := by
  simp [readPatternPart?, readWord?, skipMark?]

/-- A name for the other properties is read back. -/
lemma readPatternPart?_others {x : String} (hx : IsWord x) {cs : List Char} (hcs : EndsPart cs) :
    readPatternPart? (("..." ++ x).toList ++ cs) = some (.others x, cs) := by
  have hdots : skipMark? "..." (("..." ++ x).toList ++ cs) = some (x.toList ++ cs) := by
    rw [String.toList_append]
    rfl
  simp only [readPatternPart?, hdots, readWord?_text hx hcs.endsWord, Option.map_some]

/-- A name for a property is read back, with what stands in for the property. -/
lemma readPatternPart?_text {p : Parameter} (hp : IsWord p.name) {cs : List Char}
    (hcs : EndsPart cs) : readPatternPart? (p.text.toList ++ cs) = some (.property p, cs) := by
  obtain ⟨tail, hchars, hends, hdefault⟩ : ∃ tail, p.text.toList ++ cs = p.name.toList ++ tail ∧
      EndsWord tail ∧ readDefault? tail = some (p.default.map .quoted, cs) := by
    obtain ⟨name, default⟩ := p
    cases default with
    | none => exact ⟨cs, rfl, hcs.endsWord, hcs.readDefault?_eq⟩
    | some s =>
      refine ⟨' ' :: '=' :: ' ' :: ((Text.scriptQuote s).toList ++ cs), by simp [Parameter.text],
        (stops_space _).endsWord, readDefault?_quoted s hcs.ends⟩
  have hparameter : Parameter.ofDefault? p.name (p.default.map .quoted) = some p := by
    obtain ⟨name, default⟩ := p
    cases default <;> rfl
  simp only [hchars, readPatternPart?, skipMark?_word hp _ hends, readWord?_text hp hends, hdefault,
    hparameter, Option.bind_eq_bind, Option.bind_some, Option.map_some]

/-- Parameters and then perhaps a name for the other properties are split again. -/
lemma splitParts?_append (ps : List Parameter) (others : Option String) :
    splitParts? (ps.map .property ++ others.toList.map .others) = some (ps, others) := by
  induction ps with
  | nil => cases others <;> rfl
  | cons p ps ih => simp [splitParts?, ih]

/-- **What is read back of what a function takes its argument as**: names that are words, of which
there is at least one. -/
def Head.IsReadable : Head → Prop
  | .whole x => IsWord x
  | .properties ps others => (∀ p ∈ ps, IsWord p.name) ∧ (∀ x ∈ others, IsWord x) ∧
      (ps ≠ [] ∨ others ≠ none)

section Pattern

variable {ps : List Parameter} {others : Option String}

/-- A pattern of properties is read back.

**Proof sketch.** The properties and the name of the others are brought into one list of parts, each
with the text that it is written as. The reader of lists in braces reads one part after the other
(`readBraced_text`), and the parts are taken apart again at the end. -/
lemma readPattern?_properties (h : (Head.properties ps others).IsReadable) (cs : List Char) :
    readPattern? ((braced (Text.join ", "
      (ps.map Parameter.text ++ others.toList.map ("..." ++ ·)))).toList ++ cs) =
        some (.properties ps others, cs) := by
  obtain ⟨hps, hothers, hne⟩ := h
  obtain ⟨parts, hdef⟩ : ∃ parts, parts = ps.map (fun p => (p.text, PatternPart.property p)) ++
    others.toList.map fun x => ("..." ++ x, PatternPart.others x) := ⟨_, rfl⟩
  have htexts : ps.map Parameter.text ++ others.toList.map ("..." ++ ·) = parts.map Prod.fst := by
    simp [hdef, Function.comp_def]
  have hvalues : parts.map Prod.snd = ps.map .property ++ others.toList.map .others := by
    simp [hdef, Function.comp_def]
  have hnonempty : parts ≠ [] := by
    subst hdef
    rcases hne with hne | hne <;> cases others <;> simp_all
  have hparts : ∀ p ∈ parts, ∀ tail, EndsPart tail →
      readPatternPart? (p.1.toList ++ tail) = some (p.2, tail) := by
    intro p hp tail htail
    rw [hdef] at hp
    rcases List.mem_append.mp hp with hp | hp
    · obtain ⟨q, hq, rfl⟩ := List.mem_map.mp hp
      exact readPatternPart?_text (hps q hq) htail
    · obtain ⟨x, hx, rfl⟩ := List.mem_map.mp hp
      exact readPatternPart?_others (hothers x (Option.mem_toList.mp hx)) htail
  have hread := readBraced_text readPatternPart?_space hparts hnonempty cs
  -- the text starts with a brace, so there is no name for the argument itself
  have hword : readWord? ((braced (Text.join ", " (parts.map Prod.fst))).toList ++ cs) = none := by
    simp only [braced, String.toList_append]
    rfl
  rw [htexts]
  simp only [readPattern?, hword, hread, hvalues, splitParts?_append, Option.bind_eq_bind,
    Option.bind_some, Option.map_some]

end Pattern

/-- What a function takes its argument as is read back, up to what stands in for a missing
argument.

**Proof sketch.** One case for each way to take the argument. Where the whole argument or only
properties are taken, an empty object stands in for a missing argument and is read as a term. Where
the other properties are taken too, nothing stands in. -/
lemma readPattern?_head {h : Head} (hh : h.IsReadable) (cs : List Char) :
    ∃ tail default?, readPattern? (h.text.toList ++ ')' :: cs) = some (h, tail) ∧
      readDefault? tail = some (default?, ')' :: cs) ∧ h.allows default? = true := by
  have hempty : readDefault? (' ' :: '=' :: ' ' :: '\x7b' :: '\x7d' :: ')' :: cs) =
      some (some (.object .nil), ')' :: cs) := by
    have hequals : skipMark? "=" (' ' :: '=' :: ' ' :: '\x7b' :: '\x7d' :: ')' :: cs) =
        some (' ' :: '\x7b' :: '\x7d' :: ')' :: cs) := rfl
    have hprimary : ∀ nested, readPrimary nested ('\x7b' :: '\x7d' :: ')' :: cs) =
        some (.object .nil, ')' :: cs) := fun _ => rfl
    simp only [readDefault?, hequals, readTerm_space,
      readTerm_of_readPrimary (hprimary _) (ends_parenthesis cs), Option.map_some]
  match h, hh with
  | .whole x, hx =>
    have hchars : (Head.whole x).text.toList ++ ')' :: cs =
        x.toList ++ ' ' :: '=' :: ' ' :: '\x7b' :: '\x7d' :: ')' :: cs := by simp [Head.text]
    refine ⟨_, _, ?_, hempty, rfl⟩
    rw [hchars, readPattern?, readWord?_text hx (stops_space _).endsWord]
  | .properties ps none, hps =>
    have hchars : (Head.properties ps none).text.toList ++ ')' :: cs =
        (braced (Text.join ", " (ps.map Parameter.text ++
          (none : Option String).toList.map ("..." ++ ·)))).toList ++
            ' ' :: '=' :: ' ' :: '\x7b' :: '\x7d' :: ')' :: cs := by
      simp [Head.text]
    refine ⟨_, _, ?_, hempty, rfl⟩
    rw [hchars, readPattern?_properties hps]
  | .properties ps (some x), hps =>
    exact ⟨_, none, readPattern?_properties hps _, rfl, rfl⟩

/-- **What a function takes its argument as is read back**, with the arrow behind it. -/
theorem readHead?_text {h : Head} (hh : h.IsReadable) (cs : List Char) :
    readHead? ('(' :: (h.text.toList ++ ')' :: ' ' :: '=' :: '>' :: ' ' :: cs)) =
      some (h, ' ' :: cs) := by
  obtain ⟨tail, default?, hpattern, hdefault, hallows⟩ :=
    readPattern?_head hh (' ' :: '=' :: '>' :: ' ' :: cs)
  have hopen : ∀ r : List Char, skipMark? "(" ('(' :: r) = some r := fun _ => rfl
  have hclose : ∀ r : List Char, skipMark? ")" (')' :: r) = some r := fun _ => rfl
  have hline : ∀ r : List Char, opensLine (' ' :: '=' :: r) = false := fun _ => rfl
  have harrow : ∀ r : List Char, skipMark? "=>" (' ' :: '=' :: '>' :: ' ' :: r) = some (' ' :: r) :=
    fun _ => rfl
  simp [readHead?, hopen, hpattern, hdefault, hclose, hallows, hline, harrow]

/-- The names that a generated function binds are read back from its text. -/
lemma Resolver.readHead?_text {f : Resolver} (hf : f.head.IsReadable) (cs : List Char) :
    readHead? (f.text.toList ++ cs) = some (f.head, ' ' :: (f.block.toList ++ cs)) := by
  have hchars : f.text.toList ++ cs =
      '(' :: (f.head.text.toList ++ ')' :: ' ' :: '=' :: '>' :: ' ' :: (f.block.toList ++ cs)) := by
    simp [text]
  rw [hchars]
  exact Script.readHead?_text hf _

/-- The text of a program that is given properties. -/
lemma Program.toList_text_some (table : Option (String × Term)) (f : Resolver) (e : Entries) :
    (text ⟨table, f, some e⟩).toList = "/*#__PURE__*/Object.assign(".toList ++ (f.text.toList ++
      ',' :: ' ' :: ((Term.object e).text.toList ++ [')'])) := by
  simp only [text, pureMark, String.toList_append, List.append_assoc]
  rfl

/-- A text that starts with a parenthesis does not start with `Object.assign`. -/
lemma Resolver.skipWord?_text (f : Resolver) (word : String) (cs : List Char) :
    skipWord? word (f.text.toList ++ cs) = none := by
  simp only [text, String.toList_append]
  rfl

/-- **The names that a generated function binds are read back**, whether or not the function is
given properties of its own.

**Proof sketch.** If the function is given properties, it is the first argument of a call, which is
taken off first. Otherwise the text starts with the head of the function. -/
theorem Program.readParameter?_text {p : Program} (hp : p.resolver.head.IsReadable) :
    readParameter? p.text = some p.resolver.head.pattern := by
  obtain ⟨table, f, exposed⟩ := p
  cases exposed with
  | none =>
    have hassign : skipAssign? f.text.toList = some f.text.toList := by
      have hword := f.skipWord?_text "Object" []
      rw [List.append_nil] at hword
      rw [skipAssign?, hword]
    have hread := Resolver.readHead?_text hp []
    rw [List.append_nil] at hread
    simp only [readParameter?, text, hassign, hread, Option.bind_eq_bind, Option.bind_some,
      Option.map_some]
  | some e =>
    have hassign : ∀ r : List Char, skipAssign? ("/*#__PURE__*/Object.assign(".toList ++ r) =
        some r := fun _ => rfl
    simp only [readParameter?, toList_text_some, hassign, Resolver.readHead?_text hp,
      Option.bind_eq_bind, Option.bind_some, Option.map_some]

/-! ## Reading back imports -/

namespace NamedImport

/-- The text of the declaration of an import. -/
def text (i : NamedImport) : String :=
  "import " ++ braced (Text.join ", " (i.names.map fun n => n.1 ++ " as " ++ n.2)) ++ " from " ++
    Text.scriptQuote i.source ++ ";"

/-- An import with a name at least, of what has a name, as a variable. -/
structure WellFormed (i : NamedImport) : Prop where
  /-- There is something that is imported. -/
  nonempty : i.names ≠ []
  /-- What is imported has a name. -/
  exported : ∀ n ∈ i.names, IsWord n.1
  /-- It is bound to a variable. -/
  bound : ∀ n ∈ i.names, IsVariable n.2

end NamedImport

@[simp] lemma readSpecifier?_space (cs : List Char) :
    readSpecifier? (' ' :: cs) = readSpecifier? cs := by
  simp [readSpecifier?, readWord?]

/-- What is imported is read back with the name that it is bound to. -/
lemma readSpecifier?_text {exported x : String} (hexported : IsWord exported) (hx : IsVariable x)
    {cs : List Char} (hcs : EndsWord cs) :
    readSpecifier? ((exported ++ " as " ++ x).toList ++ cs) = some ((exported, x), cs) := by
  have hchars : (exported ++ " as " ++ x).toList ++ cs =
      exported.toList ++ ' ' :: ("as".toList ++ ' ' :: (x.toList ++ cs)) := by simp
  have has : skipWord? "as" (' ' :: ("as".toList ++ ' ' :: (x.toList ++ cs))) =
      some (' ' :: (x.toList ++ cs)) := by
    have hword := skipWord?_word (w := "as") (by decide) (stops_space (x.toList ++ cs)).endsWord
    simpa only [skipWord?, next?_space] using hword
  have hname : readVariable? (' ' :: (x.toList ++ cs)) = some (x, cs) := by
    have hread := readVariable?_text hx hcs
    simpa only [readVariable?, next?_space] using hread
  simp only [hchars, readSpecifier?, readWord?_text hexported (stops_space _).endsWord, has, hname,
    Option.bind_eq_bind, Option.bind_some]

/-- **The declaration of an import is read back**, whatever the name of the module.

**Proof sketch.** The text is the word, the list of names in braces, another word, the quoted source
and a semicolon. Each is read by the rule for its kind, whatever follows. -/
theorem NamedImport.readImport?_text {i : NamedImport} (hi : i.WellFormed) :
    readImport? i.text = some i := by
  have htexts : i.names.map (fun n => n.1 ++ " as " ++ n.2) =
      (i.names.map fun n => (n.1 ++ " as " ++ n.2, n)).map Prod.fst := by
    simp [Function.comp_def]
  have hnames : (i.names.map fun n => (n.1 ++ " as " ++ n.2, n)).map Prod.snd = i.names := by
    simp [Function.comp_def]
  have hparts : ∀ p ∈ i.names.map fun n => (n.1 ++ " as " ++ n.2, n), ∀ tail, EndsPart tail →
      readSpecifier? (p.1.toList ++ tail) = some (p.2, tail) := by
    intro p hp tail htail
    obtain ⟨n, hn, rfl⟩ := List.mem_map.mp hp
    exact readSpecifier?_text (hi.exported n hn) (hi.bound n hn) htail.endsWord
  have hbraced := readBraced_text readSpecifier?_space hparts (by simpa using hi.nonempty)
  rw [← htexts, hnames] at hbraced
  have hblank : ∀ cs : List Char, readBraced readSpecifier? (' ' :: cs) =
      readBraced readSpecifier? cs := fun cs => by simp [readBraced, skipMark?]
  have hchars : i.text.toList = "import".toList ++ ' ' ::
      ((braced (Text.join ", " (i.names.map fun n => n.1 ++ " as " ++ n.2))).toList ++
        ' ' :: ("from".toList ++ ' ' :: ((Text.scriptQuote i.source).toList ++ [';']))) := by
    simp [text]
  have himport : ∀ r : List Char, skipWord? "import" ("import".toList ++ ' ' :: r) =
      some (' ' :: r) := fun r => skipWord?_word (by decide) (stops_space r).endsWord
  have hfrom : ∀ r : List Char, skipWord? "from" (' ' :: ("from".toList ++ ' ' :: r)) =
      some (' ' :: r) := by
    intro r
    have hword := skipWord?_word (w := "from") (by decide) (stops_space r).endsWord
    simpa only [skipWord?, next?_space] using hword
  have hend : skipMark? ";" [';'] = some [] := rfl
  have hfinished : isFinished [] = true := rfl
  simp only [hchars, readImport?, himport, hblank, hbraced, hfrom, next?_space, next?_scriptQuote,
    hend, hfinished, if_true, Option.bind_eq_bind, Option.bind_some]

/-- **An import without names is read back**, whatever the name of the module. -/
theorem readBareImport?_text (source : String) :
    readBareImport? ("import " ++ Text.scriptQuote source ++ ";\n") = some source := by
  have hchars : ("import " ++ Text.scriptQuote source ++ ";\n").toList =
      "import".toList ++ ' ' :: ((Text.scriptQuote source).toList ++ [';', '\n']) := by
    simp
  have himport : ∀ r : List Char, skipWord? "import" ("import".toList ++ ' ' :: r) =
      some (' ' :: r) := fun r => skipWord?_word (by decide) (stops_space r).endsWord
  have hend : skipMark? ";" [';', '\n'] = some ['\n'] := rfl
  have hfinished : isFinished ['\n'] = true := rfl
  simp only [hchars, readBareImport?, himport, next?_space, next?_scriptQuote, hend, hfinished,
    if_true, Option.bind_eq_bind, Option.bind_some]

end StyleExtract.Script
