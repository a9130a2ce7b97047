import Mathlib.Tactic.Common
import StyleExtract.Proofs.Script.Evaluation
import StyleExtract.Proofs.Script.Tokens

/-!
# A reader for generated scripts

A reader for the part of the script language in which generated code is written: terms with their
operators, statements, and the declaration of a constant. It knows nothing of how such texts are put
together, only the tokens and the grammar of the language, and it fails on everything that is not in
this part. That terms and statements are read back from their text is in
`StyleExtract.Proofs.Script.TermsReadBack` and `StyleExtract.Proofs.Script.StatementsReadBack`.

## Main definitions

* `Script.readTerm` — terms, by how strongly their operators bind.
* `Script.readEntries` — the entries of object literals.
* `Script.readStatement`, `Script.readLines` — statements.
* `Script.readDeclaration?`, `Script.readBody?` — whole texts.
* `Script.Term.IsReadable`, `Script.Statement.IsReadable` — what is read back.

## Main results

* `Script.readVariable?_text`, `Script.readNumeral?_text`, `Script.readLabel?_text` — what is a
  single token is read back, and what follows is left.

## Design

A reader takes the characters from some place on and gives those behind what it has read, so that a
text is read back whatever stands behind it, as long as this cannot go on with its last token or
term. The printer writes no parentheses of its own accord: a term is read back where each operand
binds at least as strongly as its place asks (`Term.strength`), and this is what `Term.IsReadable`
says. Operators of one strength are joined to the left, so a reader for them gathers what it has
read in an accumulator (`readMore`). Fuel bounds how deeply brackets are nested; the length of the
text is always enough.
-/

namespace StyleExtract.Script

/-! ## Readers -/

/-- The text behind a mark. -/
def skipMark? (mark : String) (cs : List Char) : Option (List Char) :=
  match next? cs with
  | some (.punct m, rest) => if m = mark then some rest else none
  | _ => none

/-- The text behind a word. -/
def skipWord? (word : String) (cs : List Char) : Option (List Char) :=
  match next? cs with
  | some (.word w, rest) => if w = word then some rest else none
  | _ => none

/-- A word, reserved or not. -/
def readWord? (cs : List Char) : Option (String × List Char) :=
  match next? cs with
  | some (.word w, rest) => some (w, rest)
  | _ => none

/-- The name of a variable. -/
def readVariable? (cs : List Char) : Option (String × List Char) :=
  match next? cs with
  | some (.word w, rest) => if isReserved w then none else some (w, rest)
  | _ => none

/-- The name of an entry. -/
def readLabel? (cs : List Char) : Option (Label × List Char) :=
  match next? cs with
  | some (.word w, rest) => some (.plain w, rest)
  | some (.text s, rest) => some (.quoted s, rest)
  | _ => none

/-- The term that a word is. -/
def wordTerm? (w : String) : Option Term :=
  if w = "null" then some .null
  else if w = "true" then some (.bool true)
  else if w = "false" then some (.bool false)
  else if isReserved w then none
  else some (.name w)

/-- A numeral. -/
def readNumeral? (cs : List Char) : Option (Term × List Char) :=
  match next? cs with
  | some (.number ds, rest) => (ScalarKey.natOfDigits? ds).map fun n => (.numeral n, rest)
  | _ => none

/-- An operator in front of its operand: the type of a variable, or the sign of a numeral. -/
def readSigned? (cs : List Char) : Option (Term × List Char) :=
  match skipWord? "typeof" cs with
  | some rest => (readVariable? rest).map fun (x, rest) => (.typeOf x, rest)
  | none => do
    let rest ← skipMark? "-" cs
    (readNumeral? rest).map fun (t, rest) => (.negated t, rest)

section Joined

variable (mark : String) (make : Term → Term → Term)
  (part : List Char → Option (Term × List Char))

/-- More parts, each behind the mark of an operator, joined to what has been read. -/
def readMore : ℕ → Term → List Char → Option (Term × List Char)
  | 0, _, _ => none
  | n + 1, a, cs =>
    match skipMark? mark cs with
    | some rest => do
      let (b, rest) ← part rest
      readMore n (make a b) rest
    | none => some (a, cs)

/-- Parts with the mark of an operator between them, joined to the left. -/
def readJoined (cs : List Char) : Option (Term × List Char) := do
  let (a, rest) ← part cs
  readMore mark make part (rest.length + 1) a rest

end Joined

section Nested

variable (nested : List Char → Option (Term × List Char))

/-- An entry of an object literal, as what it adds to those behind it. -/
def readProperty? (cs : List Char) : Option ((Entries → Entries) × List Char) :=
  match skipMark? "..." cs with
  | some rest => (nested rest).map fun (t, rest) => (.spread t, rest)
  | none => do
    let (label, rest) ← readLabel? cs
    let rest ← skipMark? ":" rest
    (nested rest).map fun (t, rest) => (.cons label t, rest)

/-- The entries of an object literal, up to and with its closing brace. -/
def readEntries : ℕ → List Char → Option (Entries × List Char)
  | 0, _ => none
  | n + 1, cs =>
    match skipMark? "\x7d" cs with
    | some rest => some (.nil, rest)
    | none => do
      let (add, rest) ← readProperty? nested cs
      match skipMark? "\x7d" rest with
      | some rest => some (add .nil, rest)
      | none => do
        let rest ← skipMark? "," rest
        let (entries, rest) ← readEntries n rest
        some (add entries, rest)

/-- A term without operators: a word, a text, a numeral, an object literal, or a term in
parentheses. -/
def readPrimary (cs : List Char) : Option (Term × List Char) :=
  match next? cs with
  | some (.word w, rest) => (wordTerm? w).map (·, rest)
  | some (.text s, rest) => some (.quoted s, rest)
  | some (.number _, _) => readNumeral? cs
  | some (.punct m, rest) =>
    if m = "\x7b" then
      (readEntries nested (rest.length + 1) rest).map fun (es, rest) => (.object es, rest)
    else if m = "(" then do
      let (t, rest) ← nested rest
      let rest ← skipMark? ")" rest
      some (.group t, rest)
    else none
  | none => none

/-- The arguments of a call, up to and with the closing parenthesis. -/
def readArguments? (f : Term) (cs : List Char) : Option (Term × List Char) := do
  let (a, rest) ← nested cs
  match skipMark? ")" rest with
  | some rest => some (.call f a, rest)
  | none => do
    let rest ← skipMark? "," rest
    let (b, rest) ← nested rest
    let rest ← skipMark? ")" rest
    some (.call₂ f a b, rest)

/-- One property or call behind a term. -/
def readSuffix? (t : Term) (cs : List Char) : Option (Term × List Char) :=
  match next? cs with
  | some (.punct m, rest) =>
    if m = "." then (readWord? rest).map fun (x, rest) => (.member t x, rest)
    else if m = "[" then do
      let (k, rest) ← nested rest
      let rest ← skipMark? "]" rest
      some (.index t k, rest)
    else if m = "(" then readArguments? nested t rest
    else none
  | _ => none

/-- All properties and calls behind a term. -/
def readSuffixes : ℕ → Term → List Char → Option (Term × List Char)
  | 0, _, _ => none
  | n + 1, t, cs =>
    match readSuffix? nested t cs with
    | some (t, rest) => readSuffixes n t rest
    | none => some (t, cs)

/-- A term without operators, with the properties and calls behind it. -/
def readPlace (cs : List Char) : Option (Term × List Char) := do
  let (t, rest) ← readPrimary nested cs
  readSuffixes nested (rest.length + 1) t rest

/-- A term without an operator between two others. -/
def readUnary (cs : List Char) : Option (Term × List Char) :=
  match readPlace nested cs with
  | some r => some r
  | none => readSigned? cs

/-- Comparisons. -/
def readSame : List Char → Option (Term × List Char) := readJoined "===" .same (readUnary nested)

/-- Choices with `&&`. -/
def readBoth : List Char → Option (Term × List Char) := readJoined "&&" .both (readSame nested)

/-- Choices with `||`. -/
def readEither : List Char → Option (Term × List Char) := readJoined "||" .either (readBoth nested)

end Nested

/-- **A term**, with as many brackets around each other as there is fuel. -/
def readTerm : ℕ → List Char → Option (Term × List Char)
  | 0, _ => none
  | fuel + 1, cs => readEither (readTerm fuel) cs

/-- A name and its value, up to and with the semicolon, behind the keyword that declares it. -/
def readBinding? (fuel : ℕ) (cs : List Char) : Option ((String × Term) × List Char) := do
  let (x, rest) ← readVariable? cs
  let rest ← skipMark? "=" rest
  let (t, rest) ← readTerm fuel rest
  let rest ← skipMark? ";" rest
  some ((x, t), rest)

/-- A statement: a branch, with or without an `else`, or an addition to a variable. -/
def readStatement : ℕ → List Char → Option (Statement × List Char)
  | 0, _ => none
  | fuel + 1, cs =>
    match skipWord? "if" cs with
    | some rest => do
      let rest ← skipMark? "(" rest
      let (test, rest) ← readTerm fuel rest
      let rest ← skipMark? ")" rest
      let (yes, rest) ← readStatement fuel rest
      match skipWord? "else" rest with
      | some rest => do
        let (no, rest) ← readStatement fuel rest
        some (.choose test yes no, rest)
      | none => some (.when test yes, rest)
    | none => do
      let (x, rest) ← readVariable? cs
      let rest ← skipMark? "+=" rest
      let (t, rest) ← readTerm fuel rest
      let rest ← skipMark? ";" rest
      some (.append x t, rest)

/-- A declaration or a statement: a branch may not be a declaration. -/
def readLine? (fuel : ℕ) (cs : List Char) : Option (Statement × List Char) :=
  match skipWord? "let" cs with
  | some rest => (readBinding? fuel rest).map fun (d, rest) => (.declare d.1 d.2, rest)
  | none => readStatement fuel cs

/-- The declarations and statements at the beginning of a text, and what follows them. -/
def readLines : ℕ → List Char → List Statement × List Char
  | 0, cs => ([], cs)
  | fuel + 1, cs =>
    match readLine? fuel cs with
    | some (s, rest) => (s :: (readLines fuel rest).1, (readLines fuel rest).2)
    | none => ([], cs)

/-- **The statements of a text.** -/
def readBody? (s : String) : Option (List Statement) :=
  let (body, rest) := readLines (s.toList.length + 1) s.toList
  if isFinished rest then some body else none

/-- **The name and the value of a text that declares a constant.** -/
def readDeclaration? (s : String) : Option (String × Term) := do
  let rest ← skipWord? "const" s.toList
  let (d, rest) ← readBinding? (s.toList.length + 1) rest
  if isFinished rest then some d else none

/-! ## What is read back -/

/-- The name of a variable. -/
def IsVariable (x : String) : Prop := IsWord x ∧ isReserved x = false

/-- A name of an entry that is read back: between quotes any text, else a word. -/
def Label.IsReadable : Label → Prop
  | .plain s => IsWord s
  | .quoted _ => True

/-- **How strongly the outermost operator of a term binds**, from a choice with `||` up to what
properties and calls may stand behind. -/
def Term.strength : Term → ℕ
  | .either .. => 0
  | .both .. => 1
  | .same .. => 2
  | .typeOf _ | .negated _ => 3
  | .null | .bool _ | .numeral _ | .quoted _ | .object _ => 4
  | .name _ | .group _ | .member .. | .index .. | .call .. | .call₂ .. => 5

mutual

/-- **A term that is read back**: no operand binds less strongly than its place asks. -/
def Term.IsReadable : Term → Prop
  | .null | .bool _ | .numeral _ | .negated (.numeral _) | .quoted _ => True
  | .negated _ => False
  | .name x | .typeOf x => IsVariable x
  | .either a b => a.IsReadable ∧ b.IsReadable ∧ 1 ≤ b.strength
  | .both a b => a.IsReadable ∧ b.IsReadable ∧ 1 ≤ a.strength ∧ 2 ≤ b.strength
  | .same a b => a.IsReadable ∧ b.IsReadable ∧ 2 ≤ a.strength ∧ 3 ≤ b.strength
  | .group t => t.IsReadable
  | .member t x => t.IsReadable ∧ t.strength = 5 ∧ IsWord x
  | .index t k => t.IsReadable ∧ t.strength = 5 ∧ k.IsReadable
  | .call f a => f.IsReadable ∧ f.strength = 5 ∧ a.IsReadable
  | .call₂ f a b => f.IsReadable ∧ f.strength = 5 ∧ a.IsReadable ∧ b.IsReadable
  | .object entries => entries.AreReadable

/-- Entries that are read back. -/
def Entries.AreReadable : Entries → Prop
  | .nil => True
  | .cons label value rest => label.IsReadable ∧ value.IsReadable ∧ rest.AreReadable
  | .spread value rest => value.IsReadable ∧ rest.AreReadable

end

/-- A statement without a branch. -/
def Statement.IsSimple : Statement → Prop
  | .append x t => IsVariable x ∧ t.IsReadable
  | _ => False

/-- A statement that `readStatement` reads back. What stands before an `else` has no branch of its
own, which would take the `else` for itself. -/
def Statement.IsReadable : Statement → Prop
  | .when test yes => test.IsReadable ∧ yes.IsSimple
  | .choose test yes no => test.IsReadable ∧ yes.IsSimple ∧ no.IsReadable
  | s => s.IsSimple

/-- A declaration or statement that `readLine?` reads back. -/
def Statement.IsLine : Statement → Prop
  | .declare x t => IsVariable x ∧ t.IsReadable
  | s => s.IsReadable

/-! ## Blanks -/

@[simp] lemma skipMark?_space (mark : String) (cs : List Char) :
    skipMark? mark (' ' :: cs) = skipMark? mark cs := by
  simp [skipMark?]

@[simp] lemma skipWord?_space (word : String) (cs : List Char) :
    skipWord? word (' ' :: cs) = skipWord? word cs := by
  simp [skipWord?]

@[simp] lemma readVariable?_space (cs : List Char) :
    readVariable? (' ' :: cs) = readVariable? cs := by
  simp [readVariable?]

@[simp] lemma readProperty?_space (nested : List Char → Option (Term × List Char))
    (cs : List Char) : readProperty? nested (' ' :: cs) = readProperty? nested cs := by
  simp [readProperty?, readLabel?]

@[simp] lemma readEntries_space (nested : List Char → Option (Term × List Char)) (n : ℕ)
    (cs : List Char) : readEntries nested n (' ' :: cs) = readEntries nested n cs := by
  cases n <;> simp [readEntries]

@[simp] lemma readUnary_space (nested : List Char → Option (Term × List Char)) (cs : List Char) :
    readUnary nested (' ' :: cs) = readUnary nested cs := by
  simp [readUnary, readPlace, readPrimary, readNumeral?, readSigned?]

/-- A reader of joined parts leaves out blanks if that of the parts does. -/
lemma readJoined_space (mark : String) (make : Term → Term → Term)
    {part : List Char → Option (Term × List Char)} (h : ∀ cs, part (' ' :: cs) = part cs)
    (cs : List Char) : readJoined mark make part (' ' :: cs) = readJoined mark make part cs := by
  simp only [readJoined, h]

@[simp] lemma readSame_space (nested : List Char → Option (Term × List Char)) (cs : List Char) :
    readSame nested (' ' :: cs) = readSame nested cs :=
  readJoined_space _ _ (readUnary_space nested) cs

@[simp] lemma readBoth_space (nested : List Char → Option (Term × List Char)) (cs : List Char) :
    readBoth nested (' ' :: cs) = readBoth nested cs :=
  readJoined_space _ _ (readSame_space nested) cs

@[simp] lemma readTerm_space (fuel : ℕ) (cs : List Char) :
    readTerm fuel (' ' :: cs) = readTerm fuel cs := by
  cases fuel with
  | zero => rfl
  | succ fuel => exact readJoined_space _ _ (readBoth_space _) cs

/-! ## Words and numerals -/

/-- A word is read over where it is expected. -/
lemma skipWord?_word {w : String} (hw : IsWord w) {cs : List Char} (hcs : EndsWord cs) :
    skipWord? w (w.toList ++ cs) = some cs := by
  simp only [skipWord?, next?_word hw hcs, if_true]

/-- A word is not taken for another. -/
lemma skipWord?_other {v w : String} (hw : IsWord w) (hne : w ≠ v) {cs : List Char}
    (hcs : EndsWord cs) : skipWord? v (w.toList ++ cs) = none := by
  simp only [skipWord?, next?_word hw hcs, if_neg hne]

/-- A word is no mark. -/
lemma skipMark?_word {w : String} (hw : IsWord w) (mark : String) {cs : List Char}
    (hcs : EndsWord cs) : skipMark? mark (w.toList ++ cs) = none := by
  simp only [skipMark?, next?_word hw hcs]

/-- A word is read back. -/
lemma readWord?_text {w : String} (hw : IsWord w) {cs : List Char} (hcs : EndsWord cs) :
    readWord? (w.toList ++ cs) = some (w, cs) := by
  simp only [readWord?, next?_word hw hcs]

/-- A variable is no keyword. -/
lemma IsVariable.ne {x w : String} (hx : IsVariable x) (hw : isReserved w = true) : x ≠ w := by
  rintro rfl
  rw [hx.2] at hw
  cases hw

/-- A variable is not taken for a keyword. -/
lemma skipWord?_variable {x w : String} (hx : IsVariable x) (hw : isReserved w = true)
    {cs : List Char} (hcs : EndsWord cs) : skipWord? w (x.toList ++ cs) = none :=
  skipWord?_other hx.1 (hx.ne hw) hcs

/-- A variable is read back. -/
lemma readVariable?_text {x : String} (hx : IsVariable x) {cs : List Char} (hcs : EndsWord cs) :
    readVariable? (x.toList ++ cs) = some (x, cs) := by
  simp [readVariable?, next?_word hx.1 hcs, hx.2]

/-- A variable is a term of its own. -/
lemma wordTerm?_of_isVariable {x : String} (h : IsVariable x) : wordTerm? x = some (.name x) := by
  have hnull := h.ne (w := "null") (by decide)
  have htrue := h.ne (w := "true") (by decide)
  have hfalse := h.ne (w := "false") (by decide)
  simp [wordTerm?, hnull, htrue, hfalse, h.2]

/-- A numeral is read back. -/
lemma readNumeral?_text (n : ℕ) {cs : List Char} (hcs : Stops cs) :
    readNumeral? ((toString n).toList ++ cs) = some (.numeral n, cs) := by
  have hdigits : ScalarKey.natOfDigits? (toString n).toList = some n := by
    rw [show (toString n).toList = Nat.toDigits 10 n from Nat.toList_repr]
    exact ScalarKey.natOfDigits?_toDigits n
  simp only [readNumeral?, next?_numeral n hcs, hdigits, Option.map_some]

/-- The name of an entry is read back. -/
lemma readLabel?_text {label : Label} (h : label.IsReadable) (cs : List Char) :
    readLabel? (label.text.toList ++ ':' :: cs) = some (label, ':' :: cs) := by
  cases label with
  | plain s =>
    have hnext := next?_word (show IsWord s from h) (stops_cons (c := ':') (by decide) cs).endsWord
    simp only [readLabel?, Label.text, hnext]
  | quoted s => simp only [readLabel?, Label.text, next?_scriptQuote]

/-- The name of an entry is no mark. -/
lemma skipMark?_label {label : Label} (h : label.IsReadable) (mark : String) (cs : List Char) :
    skipMark? mark (label.text.toList ++ ':' :: cs) = none := by
  cases label with
  | plain s => exact skipMark?_word h mark (stops_cons (c := ':') (by decide) cs).endsWord
  | quoted s => simp only [skipMark?, Label.text, next?_scriptQuote]

end StyleExtract.Script
