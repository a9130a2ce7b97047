import Mathlib.Tactic.Common
import StyleExtract.Proofs.Script.Binders

/-!
# Programs read back

A reader for whole generated functions and for the tables beside them. It puts the readers for
heads, statements and terms together, so a program is found in its text by the tokens and the
grammar of the language alone.

## Main definitions

* `Script.readFunction?` — a function, and the text behind it.
* `Script.readCode?` — a function that may be given properties.
* `Script.readProgram?` — a function with the table beside it.
* `Script.Program.IsReadable` — the programs that are read back.

## Main results

* `Script.Program.readCode?_text` — a function is read back from its text.
* `Script.Program.readProgram?_text` — so is a program, from its text and that of its table.

## Design

The language ends a statement `return` at the end of its line, and lets no arrow start a line. Other
statements of this part end with a semicolon, wherever their lines do. What a function is given as
properties is read and kept, but a call of the function does not depend on it.
-/

namespace StyleExtract.Script

/-! ## Readers -/

/-- A function: its head, and between braces its statements and what it returns. -/
def readFunction? (cs : List Char) : Option (Resolver × List Char) := do
  let (head, rest) ← readHead? cs
  let rest ← skipMark? "\x7b" rest
  let (body, rest) := readLines (rest.length + 1) rest
  let rest ← skipWord? "return" rest
  let (result, rest) ← if opensLine rest then none else readTerm (rest.length + 1) rest
  let rest ← skipMark? ";" rest
  let rest ← skipMark? "\x7d" rest
  some (⟨head, body, result⟩, rest)

/-- **A function**, which may be the first argument of `Object.assign` with an object literal as the
second. -/
def readCode? (s : String) : Option (Resolver × Option Entries) :=
  match skipWord? "Object" s.toList with
  | some _ => do
    let rest ← skipAssign? s.toList
    let (f, rest) ← readFunction? rest
    let rest ← skipMark? "," rest
    match readTerm (rest.length + 1) rest with
    | some (.object entries, rest) => do
      let rest ← skipMark? ")" rest
      if isFinished rest then some (f, some entries) else none
    | _ => none
  | none => do
    let (f, rest) ← readFunction? s.toList
    if isFinished rest then some (f, none) else none

/-- **The program that a text is**, with the text of the declaration of its table, if it has one. -/
def readProgram? (table : Option String) (code : String) : Option Program := do
  let (f, exposed) ← readCode? code
  match table with
  | none => some ⟨none, f, exposed⟩
  | some s => (readDeclaration? s).map fun d => ⟨some d, f, exposed⟩

/-! ## What is read back -/

/-- A function that is read back. -/
structure Resolver.IsReadable (f : Resolver) : Prop where
  /-- Its head is. -/
  head : f.head.IsReadable
  /-- Its statements are. -/
  body : ∀ s ∈ f.body, s.IsLine
  /-- What it returns is. -/
  result : f.result.IsReadable

/-- **A program that is read back**, apart from its table. -/
structure Program.IsReadable (p : Program) : Prop where
  /-- Its function is. -/
  resolver : p.resolver.IsReadable
  /-- Its properties are. -/
  exposed : ∀ e ∈ p.exposed, e.AreReadable

/-! ## Reading back functions -/

/-- What stands behind the statements of a function. -/
def Resolver.ending (f : Resolver) (cs : List Char) : List Char :=
  ' ' :: ' ' :: ("return".toList ++ ' ' :: (f.result.text.toList ++ ';' :: '\n' :: '\x7d' :: cs))

/-- The characters of the body of a function. -/
lemma Resolver.toList_block_append (f : Resolver) (cs : List Char) :
    f.block.toList ++ cs = '\x7b' :: '\n' :: ((linesOf f.body).toList ++ f.ending cs) := by
  simp [block, ending]

/-- The word `return` is reserved, so it ends lines. -/
lemma Resolver.endsLines_ending (f : Resolver) (cs : List Char) : EndsLines (f.ending cs) := by
  have hnext : next? (f.ending cs) = some (.word "return", ' ' ::
      (f.result.text.toList ++ ';' :: '\n' :: '\x7d' :: cs)) := by
    rw [ending, next?_space, next?_space]
    exact next?_word (by decide) (stops_space _).endsWord
  have hskip : ∀ w, w ≠ "return" → skipWord? w (f.ending cs) = none := fun w hw => by
    simp only [skipWord?, hnext, if_neg hw.symm]
  have hvariable : readVariable? (f.ending cs) = none := by
    have hreserved : isReserved "return" = true := by decide
    simp only [readVariable?, hnext, hreserved, if_true]
  refine ⟨fun fuel => ?_, hskip "else" (by decide)⟩
  rw [readLine?, hskip "let" (by decide)]
  cases fuel with
  | zero => rfl
  | succ fuel => simp [readStatement, hskip "if" (by decide), hvariable]

/-- The first character of a token starts a text. -/
def StartsToken (cs : List Char) : Prop :=
  ∃ c rest, cs = c :: rest ∧ (isLineBreak c || isSpace c) = false ∧ c ≠ '/'

/-- What stands behind changes nothing at the start. -/
lemma StartsToken.append {cs : List Char} (h : StartsToken cs) (tail : List Char) :
    StartsToken (cs ++ tail) := by
  obtain ⟨c, rest, rfl, hc⟩ := h
  exact ⟨c, rest ++ tail, rfl, hc⟩

/-- A word starts with a token. -/
lemma IsWord.startsToken {s : String} (h : IsWord s) : StartsToken s.toList := by
  unfold IsWord at h
  cases hchars : s.toList with
  | nil => simp [hchars, headTail] at h
  | cons c cs =>
    rw [hchars, headTail, Bool.and_eq_true] at h
    exact ⟨c, cs, rfl, (start_of_isNameChar h.1).2⟩

/-- A numeral starts with a token. -/
lemma startsToken_numeral (n : ℕ) : StartsToken (toString n).toList := by
  rw [show (toString n).toList = Nat.toDigits 10 n from Nat.toList_repr]
  cases hdigits : Nat.toDigits 10 n with
  | nil => exact absurd hdigits Nat.toDigits_ne_nil
  | cons d ds =>
    have hd : isDigit d = true := isDigit_of_mem_toDigits (n := n) (by simp [hdigits])
    obtain ⟨hgap, hslash, -⟩ := start_of_isDigit hd
    exact ⟨d, ds, rfl, hgap, hslash⟩

/-- A term starts with a token. -/
lemma Term.startsToken : ∀ t : Term, t.IsReadable → StartsToken t.text.toList
  | .null, _ => ⟨'n', _, rfl, by decide, by decide⟩
  | .bool true, _ => ⟨'t', _, rfl, by decide, by decide⟩
  | .bool false, _ => ⟨'f', _, rfl, by decide, by decide⟩
  | .numeral n, _ => startsToken_numeral n
  | .negated (.numeral n), _ => ⟨'-', (toString n).toList, by simp, by decide, by decide⟩
  | .quoted s, _ => ⟨'\x22', _, by rw [text, toList_scriptQuote], by decide, by decide⟩
  | .name x, hx => hx.1.startsToken
  | .typeOf x, _ => ⟨'t', _, by rw [text, String.toList_append]; rfl, by decide, by decide⟩
  | .either a b, ⟨ha, _⟩ => by simpa using a.startsToken ha |>.append _
  | .both a b, ⟨ha, _⟩ => by simpa using a.startsToken ha |>.append _
  | .same a b, ⟨ha, _⟩ => by simpa using a.startsToken ha |>.append _
  | .group t, _ => ⟨'(', _, by rw [text, String.toList_append, String.toList_append]; rfl,
      by decide, by decide⟩
  | .member t x, ⟨ht, _⟩ => by simpa using t.startsToken ht |>.append _
  | .index t k, ⟨ht, _⟩ => by simpa using t.startsToken ht |>.append _
  | .call f a, ⟨hf, _⟩ => by simpa using f.startsToken hf |>.append _
  | .call₂ f a b, ⟨hf, _⟩ => by simpa using f.startsToken hf |>.append _
  | .object entries, _ => ⟨'\x7b', _, by
      rw [text, braced, String.toList_append, String.toList_append]; rfl, by decide, by decide⟩

/-- A token behind a blank stands on the same line. -/
lemma StartsToken.opensLine_eq_false {cs : List Char} (h : StartsToken cs) :
    opensLine (' ' :: cs) = false := by
  obtain ⟨c, rest, rfl, hgap, hslash⟩ := h
  rw [opensLine, skipGap_cons (.inl rfl), skipGap_token hgap hslash]
  rfl

/-- **A function is read back**, whatever stands behind it.

**Proof sketch.** The head is read back, then the lines of the body up to one that starts none,
which is the line with the result. The result is a term, and a semicolon ends it. -/
theorem readFunction?_text {f : Resolver} (hf : f.IsReadable) (cs : List Char) :
    readFunction? (f.text.toList ++ cs) = some (f, cs) := by
  have hopen : ∀ r : List Char, skipMark? "\x7b" (' ' :: '\x7b' :: r) = some r := fun _ => rfl
  have hreturn : ∀ gap, IsFeed gap → skipWord? "return" (gap ++ f.ending cs) =
      some (' ' :: (f.result.text.toList ++ ';' :: '\n' :: '\x7d' :: cs)) := by
    have hword := skipWord?_word (w := "return") (by decide)
      (stops_space (f.result.text.toList ++ ';' :: '\n' :: '\x7d' :: cs)).endsWord
    rintro gap (rfl | rfl) <;> simpa only [Resolver.ending, skipWord?, next?_feed, next?_space,
      List.nil_append, List.cons_append] using hword
  have hsemicolon : ∀ r : List Char, skipMark? ";" (';' :: r) = some r := fun _ => rfl
  have hclose : skipMark? "\x7d" ('\n' :: '\x7d' :: cs) = some cs := rfl
  have hlength : f.result.text.toList.length <
      (' ' :: (f.result.text.toList ++ ';' :: '\n' :: '\x7d' :: cs)).length + 1 := by
    simp only [List.length_cons, List.length_append]
    omega
  have hresult := readTerm_text hf.result (ends_semicolon ('\n' :: '\x7d' :: cs)) hlength
  have hline := ((f.result.startsToken hf.result).append
    (';' :: '\n' :: '\x7d' :: cs)).opensLine_eq_false
  have hfeed : IsFeed ['\n'] := .inr rfl
  have hfuel : (linesOf f.body).toList.length <
      ('\n' :: ((linesOf f.body).toList ++ f.ending cs)).length + 1 := by
    simp only [List.length_cons, List.length_append]
    omega
  obtain ⟨behind, hbehind, hbody⟩ :=
    readLines_linesOf hf.body (f.endsLines_ending cs) hfeed hfuel
  simp only [List.cons_append, List.nil_append] at hbody
  simp only [readFunction?, Resolver.readHead?_text hf.head, f.toList_block_append, hopen, hbody,
    hreturn behind hbehind, hline, readTerm_space, hresult, hsemicolon, hclose, Bool.false_eq_true,
    if_false, Option.bind_eq_bind, Option.bind_some]

/-! ## Reading back programs -/

namespace Program

variable {p : Program}

/-- **The function of a program is read back**, with the properties that it is given.

**Proof sketch.** A function that is given no properties is the whole text, and its first token is
not the word that such code starts with. Otherwise the function and the object with the properties
are the two arguments of a call, and each is read back. -/
theorem readCode?_text (hp : p.IsReadable) :
    readCode? p.text = some (p.resolver, p.exposed) := by
  obtain ⟨table, f, exposed⟩ := p
  have hfinished : isFinished [] = true := rfl
  cases exposed with
  | none =>
    have hword := f.skipWord?_text "Object" []
    have hread := readFunction?_text hp.resolver []
    rw [List.append_nil] at hword hread
    simp only [readCode?, text, hword, hread, hfinished, if_true, Option.bind_eq_bind,
      Option.bind_some]
  | some e =>
    have hobject : ∀ r : List Char, ∃ rest,
        skipWord? "Object" ("/*#__PURE__*/Object.assign(".toList ++ r) = some rest :=
      fun _ => ⟨_, rfl⟩
    have hassign : ∀ r : List Char, skipAssign? ("/*#__PURE__*/Object.assign(".toList ++ r) =
        some r := fun _ => rfl
    have hcomma : ∀ r : List Char, skipMark? "," (',' :: r) = some r := fun _ => rfl
    have hclose : skipMark? ")" [')'] = some [] := rfl
    have hentries : (Term.object e).IsReadable := hp.exposed e rfl
    have hlength : (Term.object e).text.toList.length <
        (' ' :: ((Term.object e).text.toList ++ [')'])).length + 1 := by
      simp only [List.length_cons, List.length_append]
      omega
    obtain ⟨rest, hrest⟩ := hobject
      (f.text.toList ++ ',' :: ' ' :: ((Term.object e).text.toList ++ [')']))
    simp only [readCode?, toList_text_some, hrest, hassign, readFunction?_text hp.resolver, hcomma,
      readTerm_space, readTerm_text hentries (ends_parenthesis []) hlength, hclose, hfinished,
      if_true, Option.bind_eq_bind, Option.bind_some]

/-- **A program is read back from its text and that of its table.** -/
theorem readProgram?_text (hp : p.IsReadable) {table : Option String}
    (ht : table.bind readDeclaration? = p.table) (hsome : table.isSome = p.table.isSome) :
    readProgram? table p.text = some p := by
  have hread := readCode?_text hp
  obtain ⟨t, f, exposed⟩ := p
  cases table with
  | none =>
    obtain rfl : none = t := ht
    simp [readProgram?, hread]
  | some s =>
    have ht : readDeclaration? s = t := ht
    cases t with
    | none => simp at hsome
    | some d => simp [readProgram?, hread, ht]

end Program

end StyleExtract.Script
