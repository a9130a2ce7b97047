import Mathlib.Tactic.Common
import StyleExtract.Proofs.Script.TermsReadBack

/-!
# Statements and bodies read back

Statements, bodies of functions and declarations of constants are read back from their text.

## Main definitions

* `Script.EndsLines` — what ends the lines of a body.

## Main results

* `Script.readStatement_text` — a statement is read back from its text, and what follows is left.
* `Script.readBody?_linesOf`, `Script.readDeclaration?_eq` — so are bodies and declarations.

## Design

A test takes an `else` that follows for its own, so a statement is read back where none follows.
Every line of a body but the last is followed by another line, and no line starts with `else`
(`skipWord?_else_line`); what follows the last one is asked for by `EndsLines`.
-/

namespace StyleExtract.Script

/-! ## Reading back statements -/

@[simp] lemma readStatement_space (fuel : ℕ) (cs : List Char) :
    readStatement fuel (' ' :: cs) = readStatement fuel cs := by
  cases fuel <;> simp [readStatement, skipWord?, readVariable?]

@[simp] lemma readStatement_feed (fuel : ℕ) (cs : List Char) :
    readStatement fuel ('\n' :: cs) = readStatement fuel cs := by
  cases fuel <;> simp [readStatement, skipWord?, readVariable?]

@[simp] lemma readLine?_space (fuel : ℕ) (cs : List Char) :
    readLine? fuel (' ' :: cs) = readLine? fuel cs := by
  simp [readLine?]

@[simp] lemma readLine?_feed (fuel : ℕ) (cs : List Char) :
    readLine? fuel ('\n' :: cs) = readLine? fuel cs := by
  simp [readLine?, skipWord?]

/-- The characters of an addition to a variable. -/
lemma toList_append_append (x : String) (t : Term) (cs : List Char) :
    (Statement.append x t).text.toList ++ cs =
      x.toList ++ ' ' :: '+' :: '=' :: ' ' :: (t.text.toList ++ ';' :: cs) := by
  simp

/-- The characters of a declaration. -/
lemma toList_declare_append (x : String) (t : Term) (cs : List Char) :
    (Statement.declare x t).text.toList ++ cs =
      "let".toList ++ ' ' :: (x.toList ++ ' ' :: '=' :: ' ' :: (t.text.toList ++ ';' :: cs)) := by
  simp

/-- The characters of a branch. -/
lemma toList_when_append (test : Term) (yes : Statement) (cs : List Char) :
    (Statement.when test yes).text.toList ++ cs =
      "if".toList ++ ' ' :: '(' :: (test.text.toList ++ ')' :: ' ' :: (yes.text.toList ++ cs)) := by
  simp

/-- The characters of a branch with an `else` start as those of one without. -/
lemma toList_choose_append (test : Term) (yes no : Statement) (cs : List Char) :
    (Statement.choose test yes no).text.toList ++ cs =
      (Statement.when test yes).text.toList ++
        '\n' :: ' ' :: ' ' :: ("else".toList ++ ' ' :: (no.text.toList ++ cs)) := by
  simp

/-- **A name and its value are read back**, behind the keyword that declares it. -/
lemma readBinding?_eq {x value : String} {t : Term} (hx : IsVariable x) {cs : List Char} {fuel : ℕ}
    (hvalue : readTerm fuel (value.toList ++ ';' :: cs) = some (t, ';' :: cs)) :
    readBinding? fuel (' ' :: (x.toList ++ ' ' :: '=' :: ' ' :: (value.toList ++ ';' :: cs))) =
      some ((x, t), cs) := by
  have hequals : ∀ r : List Char, skipMark? "=" (' ' :: '=' :: ' ' :: r) = some (' ' :: r) :=
    fun _ => rfl
  have hend : skipMark? ";" (';' :: cs) = some cs := rfl
  simp only [readBinding?, readVariable?_space, readVariable?_text hx (stops_space _).endsWord,
    hequals, readTerm_space, hvalue, hend, Option.bind_eq_bind, Option.bind_some]

/-- A statement without a branch is read back, whatever follows. -/
lemma readStatement_simple {s : Statement} (hs : s.IsSimple) (cs : List Char) {fuel : ℕ}
    (hfuel : s.text.toList.length < fuel) :
    readStatement fuel (s.text.toList ++ cs) = some (s, cs) := by
  obtain ⟨fuel, rfl⟩ := Nat.exists_eq_add_one_of_ne_zero (Nat.ne_zero_of_lt hfuel)
  match s, hs with
  | .append x t, ⟨hx, ht⟩ =>
    have hfuel' : t.text.toList.length < fuel := by
      simp at hfuel
      omega
    have hread := readTerm_text ht (ends_semicolon cs) hfuel'
    have hif : ∀ r : List Char, skipWord? "if" (x.toList ++ ' ' :: r) = none := fun _ =>
      skipWord?_variable hx (by decide) (stops_space _).endsWord
    have hplus : ∀ r : List Char,
        skipMark? "+=" (' ' :: '+' :: '=' :: ' ' :: r) = some (' ' :: r) := fun _ => rfl
    have hend : skipMark? ";" (';' :: cs) = some cs := rfl
    rw [toList_append_append]
    simp [readStatement, hif, readVariable?_text hx (stops_space _).endsWord, hplus, hread, hend]

/-- A test and the statement behind it are read back, and what follows says whether there is an
`else`.

**Proof sketch.** The test stands between parentheses and the statement behind it ends in a
semicolon, so each is read back. Only then is the next word looked at. -/
lemma readStatement_test {test : Term} {yes : Statement} (htest : test.IsReadable)
    (hyes : yes.IsSimple) {cs : List Char} {fuel : ℕ}
    (hfuel : (Statement.when test yes).text.toList.length < fuel + 1) :
    readStatement (fuel + 1) ((Statement.when test yes).text.toList ++ cs) =
      match skipWord? "else" cs with
      | some rest => (readStatement fuel rest).map fun (no, rest) => (.choose test yes no, rest)
      | none => some (.when test yes, cs) := by
  have hlengths : test.text.toList.length < fuel ∧ yes.text.toList.length < fuel := by
    simp at hfuel
    omega
  have hif : ∀ r : List Char, skipWord? "if" ("if".toList ++ ' ' :: r) = some (' ' :: r) := fun r =>
    skipWord?_word (by decide) (stops_space r).endsWord
  have hopen : ∀ r : List Char, skipMark? "(" (' ' :: '(' :: r) = some r := fun _ => rfl
  have hclose : ∀ r : List Char, skipMark? ")" (')' :: ' ' :: r) = some (' ' :: r) := fun _ => rfl
  have hread := readTerm_text htest (ends_parenthesis (' ' :: (yes.text.toList ++ cs))) hlengths.1
  rw [toList_when_append]
  simp only [readStatement, hif, hopen, hread, hclose, Option.bind_eq_bind, Option.bind_some,
    readStatement_space, readStatement_simple hyes cs hlengths.2]
  cases skipWord? "else" cs with
  | none => rfl
  | some rest => cases hno : readStatement fuel rest <;> simp [hno]

/-- **Statements are read back**, unless an `else` follows.

**Proof sketch.** Induction on the statement. Behind each test stands a statement without a branch,
and then either the `else` of the statement or what follows it all. -/
theorem readStatement_text {s : Statement} (hs : s.IsReadable) {cs : List Char}
    (hcs : skipWord? "else" cs = none) {fuel : ℕ} (hfuel : s.text.toList.length < fuel) :
    readStatement fuel (s.text.toList ++ cs) = some (s, cs) := by
  obtain ⟨fuel, rfl⟩ := Nat.exists_eq_add_one_of_ne_zero (Nat.ne_zero_of_lt hfuel)
  induction s generalizing fuel with
  | declare x t => exact hs.elim
  | append x t => exact readStatement_simple hs cs hfuel
  | «when» test yes _ =>
    rw [readStatement_test hs.1 hs.2 hfuel, hcs]
  | choose test yes no _ ih =>
    have hlengths : (Statement.when test yes).text.toList.length < fuel + 1 ∧
        no.text.toList.length < fuel := by
      simp at hfuel ⊢
      omega
    have helse : skipWord? "else" ('\n' :: ' ' :: ' ' :: ("else".toList ++
        ' ' :: (no.text.toList ++ cs))) = some (' ' :: (no.text.toList ++ cs)) := by
      have hword := skipWord?_word (w := "else") (by decide)
        (stops_space (no.text.toList ++ cs)).endsWord
      simpa only [skipWord?, next?_feed, next?_space] using hword
    obtain ⟨fuel, rfl⟩ := Nat.exists_eq_add_one_of_ne_zero (Nat.ne_zero_of_lt hlengths.2)
    rw [toList_choose_append, readStatement_test hs.1 hs.2.1 hlengths.1, helse]
    simp only [readStatement_space, ih hs.2.2 fuel hlengths.2, Option.map_some]

/-- A statement that is no declaration starts with the name of a variable or with `if`.

**Proof sketch.** The first word of the text is `if` or a variable, and the word that is looked for
is reserved and not `if`. -/
lemma skipWord?_text {s : Statement} (hs : s.IsReadable) {w : String} (hw : isReserved w = true)
    (hif : w ≠ "if") (cs : List Char) : skipWord? w (s.text.toList ++ cs) = none := by
  have hwhen : ∀ test yes (r : List Char),
      skipWord? w ((Statement.when test yes).text.toList ++ r) = none := by
    intro test yes r
    rw [toList_when_append]
    exact skipWord?_other (by decide) hif.symm (stops_space _).endsWord
  cases s with
  | declare x t => exact hs.elim
  | append x t =>
    rw [toList_append_append]
    exact skipWord?_variable hs.1 hw (stops_space _).endsWord
  | «when» test yes => exact hwhen test yes cs
  | choose test yes no =>
    rw [toList_choose_append]
    exact hwhen test yes _

/-- No line starts with `else`. -/
lemma skipWord?_else_line {s : Statement} (hs : s.IsLine) (cs : List Char) :
    skipWord? "else" (s.text.toList ++ cs) = none := by
  cases s with
  | declare x t =>
    rw [toList_declare_append]
    exact skipWord?_other (by decide) (by decide) (stops_space _).endsWord
  | append x t => exact skipWord?_text hs (by decide) (by decide) cs
  | «when» test yes => exact skipWord?_text hs (by decide) (by decide) cs
  | choose test yes no => exact skipWord?_text hs (by decide) (by decide) cs

/-- **Declarations and statements are read back**, unless an `else` follows.

**Proof sketch.** A declaration starts with its word and is read as a binding. Any other statement
does not start with this word, so it is read as a statement. -/
lemma readLine?_text {s : Statement} (hs : s.IsLine) {cs : List Char}
    (hcs : skipWord? "else" cs = none) {fuel : ℕ} (hfuel : s.text.toList.length < fuel) :
    readLine? fuel (s.text.toList ++ cs) = some (s, cs) := by
  have hstatement : s.IsReadable → readLine? fuel (s.text.toList ++ cs) = some (s, cs) := by
    intro hs
    rw [readLine?, skipWord?_text hs (w := "let") (by decide) (by decide) cs]
    exact readStatement_text hs hcs hfuel
  cases s with
  | declare x t =>
    have hlength : t.text.toList.length < fuel := by
      simp at hfuel
      omega
    have hlet : ∀ r : List Char, skipWord? "let" ("let".toList ++ ' ' :: r) = some (' ' :: r) :=
      fun r => skipWord?_word (by decide) (stops_space r).endsWord
    rw [toList_declare_append, readLine?, hlet]
    simp only [readBinding?_eq hs.1 (readTerm_text hs.2 (ends_semicolon cs) hlength),
      Option.map_some]
  | append x t => exact hstatement hs
  | «when» test yes => exact hstatement hs
  | choose test yes no => exact hstatement hs

/-! ## Reading back bodies -/

/-- **What ends lines**: no declaration, no statement and no `else`. -/
structure EndsLines (cs : List Char) : Prop where
  /-- There is no line. -/
  line : ∀ fuel, readLine? fuel cs = none
  /-- There is no `else`. -/
  noElse : skipWord? "else" cs = none

/-- Lines of statements, one more. -/
lemma toList_linesOf_cons (s : Statement) (body : List Statement) :
    (linesOf (s :: body)).toList =
      ' ' :: ' ' :: (s.text.toList ++ '\n' :: (linesOf body).toList) := by
  simp [linesOf, Text.concat]

/-- No line starts with `else`, and what ends lines does not either. -/
lemma skipWord?_else_linesOf {body : List Statement} (h : ∀ s ∈ body, s.IsLine) {cs : List Char}
    (hcs : EndsLines cs) : skipWord? "else" ((linesOf body).toList ++ cs) = none := by
  cases body with
  | nil => exact hcs.noElse
  | cons s body =>
    have hs := skipWord?_else_line (h s List.mem_cons_self) ('\n' :: ((linesOf body).toList ++ cs))
    rw [toList_linesOf_cons]
    simpa only [List.cons_append, List.append_assoc, skipWord?, next?_space] using hs

/-- A line feed, or nothing. -/
def IsFeed (gap : List Char) : Prop := gap = [] ∨ gap = ['\n']

/-- A line feed in front of a line is left out. -/
lemma readLine?_gap {gap : List Char} (hgap : IsFeed gap) (fuel : ℕ) (cs : List Char) :
    readLine? fuel (gap ++ cs) = readLine? fuel cs := by
  rcases hgap with rfl | rfl
  · rfl
  · exact readLine?_feed fuel cs

/-- **The declarations and statements of a body are read back** from their lines. A line feed may
stand in front of them, and one may be left behind them.

**Proof sketch.** Induction on the statements. Each starts on a line of its own and not with an
`else`, so none goes on with the one before; the line feed at its end stands in front of the
others. -/
theorem readLines_linesOf {body : List Statement} (h : ∀ s ∈ body, s.IsLine) {cs : List Char}
    (hcs : EndsLines cs) {before : List Char} (hbefore : IsFeed before) {fuel : ℕ}
    (hfuel : (linesOf body).toList.length < fuel) :
    ∃ behind, IsFeed behind ∧
      readLines fuel (before ++ ((linesOf body).toList ++ cs)) = (body, behind ++ cs) := by
  obtain ⟨fuel, rfl⟩ := Nat.exists_eq_add_one_of_ne_zero (Nat.ne_zero_of_lt hfuel)
  induction body generalizing fuel before with
  | nil =>
    refine ⟨before, hbefore, ?_⟩
    have hnone : readLine? fuel (before ++ cs) = none := by rw [readLine?_gap hbefore, hcs.line]
    change readLines (fuel + 1) (before ++ cs) = _
    simp only [readLines, hnone]
  | cons s body ih =>
    obtain ⟨hs, hbody⟩ := List.forall_mem_cons.mp h
    rw [toList_linesOf_cons] at hfuel ⊢
    simp only [List.length_cons, List.length_append] at hfuel
    have helse : skipWord? "else" ('\n' :: ((linesOf body).toList ++ cs)) = none := by
      simpa only [skipWord?, next?_feed] using skipWord?_else_linesOf hbody hcs
    have hread := readLine?_text hs helse (show s.text.toList.length < fuel by omega)
    obtain ⟨fuel, rfl⟩ := Nat.exists_eq_add_one_of_ne_zero (show fuel ≠ 0 by omega)
    obtain ⟨behind, hbehind, hrest⟩ := ih hbody (.inr rfl) fuel (by omega)
    simp only [List.cons_append, List.nil_append] at hrest
    refine ⟨behind, hbehind, ?_⟩
    rw [readLines, readLine?_gap hbefore]
    simp [hread, hrest]

/-- **The statements of a body are read back** from their lines. -/
theorem readBody?_linesOf {body : List Statement} (h : ∀ s ∈ body, s.IsLine) :
    readBody? (linesOf body) = some body := by
  have hends : EndsLines [] := ⟨fun fuel => by cases fuel <;> rfl, rfl⟩
  obtain ⟨behind, hbehind, hread⟩ := readLines_linesOf h hends (.inl rfl) (Nat.lt_succ_self _)
  simp only [List.append_nil, List.nil_append] at hread
  have hfinished : isFinished behind = true := by rcases hbehind with rfl | rfl <;> rfl
  simp [readBody?, hread, hfinished]

/-- **The declaration of a constant is read back** as far as its value is.

**Proof sketch.** The word, the name, the sign, the value and the semicolon are read one after the
other. The fuel is the length of the whole text, which is more than that of the value. -/
theorem readDeclaration?_eq {x value : String} {t : Term} (hx : IsVariable x)
    (hvalue : ∀ fuel, value.toList.length < fuel →
      readTerm fuel (value.toList ++ [';']) = some (t, [';'])) :
    readDeclaration? ("const " ++ x ++ " = " ++ value ++ ";") = some (x, t) := by
  have hchars : ("const " ++ x ++ " = " ++ value ++ ";").toList =
      "const".toList ++ ' ' :: (x.toList ++ ' ' :: '=' :: ' ' :: (value.toList ++ [';'])) := by simp
  have hconst : ∀ r : List Char, skipWord? "const" ("const".toList ++ ' ' :: r) = some (' ' :: r) :=
    fun r => skipWord?_word (by decide) (stops_space r).endsWord
  have hfinished : isFinished [] = true := rfl
  have hfuel : value.toList.length <
      ("const " ++ x ++ " = " ++ value ++ ";").toList.length + 1 := by
    rw [hchars]
    simp only [List.length_append, List.length_cons]
    omega
  have hread := hvalue _ hfuel
  unfold readDeclaration?
  rw [hchars] at hread ⊢
  simp only [hconst, readBinding?_eq hx hread, hfinished, if_true, Option.bind_eq_bind,
    Option.bind_some]

end StyleExtract.Script
