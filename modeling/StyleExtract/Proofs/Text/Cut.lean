import Mathlib.Data.List.DropRight
import Mathlib.Data.List.Infix
import Mathlib.Data.List.TakeWhile
import Mathlib.Tactic.Common
import StyleExtract.Text.Cut

/-!
# Texts that are cut and joined

Cutting a text at a character leaves a text without that character, and cutting never adds
characters. This file says so for each way of cutting. Parts that are joined by a character that
none of them has can be taken apart again.

## Main results

* `Text.startsWith_iff` — a text starts with another one exactly where its characters do.
* `Text.startsWith_append` — a text that is continued starts with itself.
* `Text.occursIn_iff` — a text occurs in another exactly if it is a run of its characters.
* `Text.not_mem_before`, `Text.before_of_not_mem` — the part of a text before a character.
* `Text.mem_of_mem_dropLeading` — the characters of what is left.
* `Text.splitLastList?_append` — a list is cut at its last separator.
* `Text.append_toString_inj` — a number behind a separator can be told from what stands before.
* `Text.behindLast?_eq_some_iff` — what stands behind the last separator.
* `Text.append_inj_of_notMem` — a part without separators and what stands behind it are unique.
* `Text.intercalate_piecesList` — the pieces of a list make it up again.
* `Text.piecesList_intercalate`, `Text.intercalate_inj` — joined parts can be taken apart again.
-/

namespace StyleExtract.Text

/-- A beginning is taken off exactly where it stands. -/
lemma stripList?_eq_some_iff {p cs rest : List Char} :
    stripList? p cs = some rest ↔ cs = p ++ rest := by
  induction p generalizing cs with
  | nil => simp [stripList?, eq_comm]
  | cons x p ih =>
    cases cs with
    | nil => simp [stripList?]
    | cons c cs =>
      by_cases h : x = c
      · simp [stripList?, h, ih]
      · simp [stripList?, h, Ne.symm h]

/-- A beginning is found exactly where it stands. -/
lemma isSome_stripList?_iff {p cs : List Char} : (stripList? p cs).isSome = true ↔ p <+: cs := by
  rw [Option.isSome_iff_exists]
  exact exists_congr fun rest => stripList?_eq_some_iff.trans eq_comm

/-- What follows a beginning makes up the text with it. -/
lemma toList_eq_of_stripStart? {p s rest : String} (h : stripStart? p s = some rest) :
    s.toList = p.toList ++ rest.toList := by
  obtain ⟨cs, hcs, rfl⟩ := Option.map_eq_some_iff.mp h
  rw [stripList?_eq_some_iff.mp hcs, String.toList_ofList]

/-- Nothing follows a text that does not stand in front. -/
lemma stripStart?_eq_none_iff {p s : String} :
    stripStart? p s = none ↔ ¬ p.toList <+: s.toList := by
  rw [stripStart?, Option.map_eq_none_iff, ← isSome_stripList?_iff, Option.not_isSome_iff_eq_none]

/-- A text that is continued starts with itself. -/
lemma startsWith_append (s t : String) : startsWith s (s ++ t) = true := by
  rw [startsWith, isSome_stripList?_iff, String.toList_append]
  exact List.prefix_append _ _

/-- A text starts with another one exactly where its characters do. -/
lemma startsWith_iff {p s : String} : startsWith p s = true ↔ p.toList <+: s.toList := by
  rw [startsWith, isSome_stripList?_iff]

/-- An ending is found exactly where it stands. -/
lemma endsWith_iff {p s : String} : endsWith p s = true ↔ p.toList <:+ s.toList := by
  rw [endsWith, isSome_stripList?_iff, List.reverse_prefix]

/-- A text occurs in another exactly if it is a run of its characters. -/
lemma occursIn_iff {p s : String} : occursIn p s = true ↔ p.toList <:+: s.toList := by
  unfold occursIn
  induction s.toList with
  | nil => rw [occursInList, isSome_stripList?_iff, List.prefix_nil, List.infix_nil]
  | cons c cs ih =>
    rw [occursInList, Bool.or_eq_true, isSome_stripList?_iff, ih, List.infix_cons_iff]

/-- The part of a text before a character does not contain it. -/
lemma not_mem_before (c : Char) (s : String) : c ∉ (before c s).toList := by
  rw [before, String.toList_ofList]
  intro hc
  have hne := List.mem_takeWhile_imp hc
  simp at hne

/-- The part before a character that does not occur is the whole text. -/
lemma before_of_not_mem {c : Char} {s : String} (h : c ∉ s.toList) : before c s = s := by
  have hall : ∀ x ∈ s.toList, (x != c) = true := by
    intro x hx
    have hne : x ≠ c := by
      rintro rfl
      exact h hx
    simpa using hne
  rw [before, List.takeWhile_eq_self_iff.mpr hall, String.ofList_toList]

/-- What follows the character does not matter for the part before it. -/
lemma before_append (c : Char) (s t : String) :
    before c (s ++ (String.singleton c ++ t)) = before c s := by
  have hcut : ∀ cs : List Char,
      (cs ++ c :: t.toList).takeWhile (· != c) = cs.takeWhile (· != c) := by
    intro cs
    induction cs with
    | nil => simp
    | cons x cs ih => by_cases hx : x = c <;> simp [hx, ih]
  simp [before, hcut]

/-- A text is the part before the character, or goes on with the character behind it. -/
lemma eq_before_or_append (c : Char) (s : String) :
    s = before c s ∨ ∃ t, s = before c s ++ (String.singleton c ++ t) := by
  by_cases h : c ∈ s.toList
  · obtain ⟨a, b, hs, ha⟩ := List.eq_append_cons_of_mem h
    have heq : s = String.ofList a ++ (String.singleton c ++ String.ofList b) := by
      rw [← String.toList_inj, hs]
      simp
    refine .inr ⟨.ofList b, ?_⟩
    conv_rhs => rw [heq, before_append, before_of_not_mem (by simpa using ha)]
    exact heq
  · exact .inl (before_of_not_mem h).symm

/-- Where a character cannot go on with a beginning, what follows it does not matter. -/
lemma startsWith_append_singleton {p : String} {c : Char} (hc : c ∉ p.toList) (s t : String) :
    startsWith p (s ++ (String.singleton c ++ t)) = startsWith p s := by
  rw [Bool.eq_iff_iff, startsWith, startsWith, isSome_stripList?_iff, isSome_stripList?_iff]
  simp only [String.toList_append, String.toList_singleton, List.singleton_append]
  refine ⟨fun h => ?_, fun h => h.trans (List.prefix_append _ _)⟩
  obtain h | ⟨rest, hrest⟩ :=
    List.prefix_or_prefix_of_prefix h (List.prefix_append s.toList (c :: t.toList))
  · exact h
  · cases rest with
    | nil => simp [← hrest]
    | cons x rest =>
      rw [← hrest, List.prefix_append_right_inj, List.cons_prefix_cons] at h
      exact absurd (by simp [← hrest, h.1]) hc

/-- Dropping a leading run adds no characters. -/
lemma mem_of_mem_dropLeading {c x : Char} {s : String} (h : x ∈ (dropLeading c s).toList) :
    x ∈ s.toList := by
  rw [dropLeading, String.toList_ofList] at h
  exact (List.dropWhile_sublist _).subset h

/-- A text that does not start with a character has no leading run to drop. -/
lemma dropLeading_of_head?_ne {c : Char} {s : String} (h : s.toList.head? ≠ some c) :
    dropLeading c s = s := by
  rw [← String.toList_inj, dropLeading, String.toList_ofList]
  cases hs : s.toList with
  | nil => rfl
  | cons x cs =>
    have hx : x ≠ c := by simpa [hs] using h
    exact List.dropWhile_cons_of_neg (by simpa using hx)

/-- Nothing is replaced in a text without the character. -/
lemma replaceChar_of_not_mem {old new : Char} {s : String} (h : old ∉ s.toList) :
    replaceChar old new s = s := by
  have hsame : ∀ x ∈ s.toList, (if x = old then new else x) = x := by
    intro x hx
    have hne : x ≠ old := by
      rintro rfl
      exact h hx
    rw [if_neg hne]
  rw [replaceChar, List.map_congr_left hsame, List.map_id', String.ofList_toList]

/-- Another one in front of a leading run is dropped with it. -/
lemma dropLeading_singleton_append (c : Char) (s : String) :
    dropLeading c (String.singleton c ++ s) = dropLeading c s := by
  simp [dropLeading]

/-- A leading run that is dropped once is gone. -/
lemma dropLeading_dropLeading (c : Char) (s : String) :
    dropLeading c (dropLeading c s) = dropLeading c s := by
  rw [dropLeading, dropLeading, String.toList_ofList, List.dropWhile_idempotent]

/-- The leading run ends at another character at the latest. -/
lemma dropLeading_append_singleton {c x : Char} (hx : x ≠ c) (s t : String) :
    dropLeading c (s ++ (String.singleton x ++ t)) =
      dropLeading c s ++ (String.singleton x ++ t) := by
  rw [← String.toList_inj]
  simp only [dropLeading, String.toList_append, String.toList_singleton, String.toList_ofList,
    List.singleton_append, List.dropWhile_append]
  split
  · next hempty => simp [List.isEmpty_iff.mp hempty, hx]
  · rfl

/-- A list without a separator is not cut. -/
lemma splitLastList?_of_notMem {c : Char} : ∀ b : List Char, c ∉ b → splitLastList? c b = none := by
  intro b
  induction b with
  | nil => intro _; rfl
  | cons x b ih =>
    intro h
    rw [List.mem_cons, not_or] at h
    simp [splitLastList?, ih h.2, Ne.symm h.1]

/-- A list with a separator has a last one. -/
lemma exists_eq_append_of_mem {c : Char} {cs : List Char} (h : c ∈ cs) :
    ∃ a b, cs = a ++ c :: b ∧ c ∉ b := by
  obtain ⟨b, a, hcs, hb⟩ := List.eq_append_cons_of_mem (List.mem_reverse.mpr h)
  refine ⟨a.reverse, b.reverse, ?_, by simpa using hb⟩
  rw [← cs.reverse_reverse, hcs]
  simp

/-- **A list is cut at its last separator**: what stands behind it has none. -/
lemma splitLastList?_append {c : Char} {b : List Char} (h : c ∉ b) :
    ∀ a : List Char, splitLastList? c (a ++ c :: b) = some (a, b) := by
  intro a
  induction a with
  | nil => simp [splitLastList?, splitLastList?_of_notMem b h]
  | cons x a ih => simp [splitLastList?, ih]

/-- The decimal digits of a number. -/
lemma isDigit_of_mem_toString (n : ℕ) {c : Char} (h : c ∈ (toString n).toList) :
    c.isDigit = true := by
  rw [Nat.toString_eq_repr, Nat.toList_repr] at h
  exact Nat.isDigit_of_mem_toDigits (by omega) (by omega) h

/-- **A number behind a separator** is unique, and so is what stands before the separator.

**Proof sketch.** The digits of the number are no separator, so they are what stands behind the last
one. -/
lemma append_toString_inj {c : Char} (hc : c.isDigit = false) {a b : List Char} {i j : ℕ} :
    a ++ c :: (toString i).toList = b ++ c :: (toString j).toList ↔ a = b ∧ i = j := by
  have hdigits : ∀ n : ℕ, c ∉ (toString n).toList := by
    intro n hn
    rw [isDigit_of_mem_toString n hn] at hc
    cases hc
  constructor
  · intro h
    have hsplit := congrArg (splitLastList? c) h
    rw [splitLastList?_append (hdigits i), splitLastList?_append (hdigits j)] at hsplit
    obtain ⟨hfront, hnumber⟩ := Prod.mk.inj (Option.some.inj hsplit)
    rw [Nat.toString_eq_repr, Nat.toString_eq_repr, Nat.toList_repr, Nat.toList_repr] at hnumber
    have hvalue := congrArg (Nat.ofDigitChars 10 · 0) hnumber
    rw [Nat.ofDigitChars_ten_toDigits, Nat.ofDigitChars_ten_toDigits] at hvalue
    exact ⟨hfront, hvalue⟩
  · rintro ⟨rfl, rfl⟩
    rfl

/-- What stands behind the last separator of a list. -/
def behindLast? (c : Char) (cs : List Char) : Option (List Char) :=
  (splitLastList? c cs).map Prod.snd

/-- Behind the last separator of a longer list stands what is behind that of its end. -/
lemma behindLast?_cons (c x : Char) (cs : List Char) :
    behindLast? c (x :: cs) = (behindLast? c cs).or (if x = c then some cs else none) := by
  unfold behindLast?
  rw [splitLastList?]
  cases splitLastList? c cs with
  | none => by_cases hx : x = c <;> simp [hx]
  | some p => rfl

/-- A beginning without separators does not matter. -/
lemma behindLast?_append {c : Char} {a : List Char} (ha : c ∉ a) (cs : List Char) :
    behindLast? c (a ++ cs) = behindLast? c cs := by
  induction a with
  | nil => rfl
  | cons x a ih =>
    rw [List.mem_cons, not_or] at ha
    rw [List.cons_append, behindLast?_cons, ih ha.2, if_neg (Ne.symm ha.1), Option.or_none]

/-- Characters may be replaced, as long as separators stay and no new ones come in. -/
lemma behindLast?_map {c : Char} {g : Char → Char} (hg : ∀ x, g x = c ↔ x = c) (cs : List Char) :
    behindLast? c (cs.map g) = (behindLast? c cs).map (List.map g) := by
  induction cs with
  | nil => rfl
  | cons x cs ih =>
    rw [List.map_cons, behindLast?_cons, behindLast?_cons, ih, if_congr (hg x) rfl rfl]
    cases behindLast? c cs with
    | some b => rfl
    | none => by_cases hx : x = c <;> simp [hx]

/-- **What stands behind the last separator** is the end of the list that has none.

**Proof sketch.** Induction on the list. A separator further behind decides if there is one;
otherwise the first character is the last separator or there is none. -/
lemma behindLast?_eq_some_iff {c : Char} {w : List Char} (hw : c ∉ w) (cs : List Char) :
    behindLast? c cs = some w ↔ c :: w <:+ cs := by
  constructor
  · intro h
    induction cs with
    | nil => cases h
    | cons x cs ih =>
      rw [behindLast?_cons] at h
      cases hb : behindLast? c cs with
      | some b =>
        rw [hb] at h
        exact (ih (hb.trans h)).trans (List.suffix_cons x cs)
      | none =>
        rw [hb, Option.none_or] at h
        split at h
        · next hx =>
          cases h
          rw [hx]
        · cases h
  · rintro ⟨a, rfl⟩
    rw [behindLast?, splitLastList?_append hw]
    rfl

/-- **A part without separators and what stands behind it are unique**, if that is empty or starts
with a separator.

**Proof sketch.** Induction on the first part. Where one part ends and the other goes on, the next
character is a separator by the one reading and none by the other. -/
lemma append_inj_of_notMem {c : Char} {a b s t : List Char} (ha : c ∉ a) (hb : c ∉ b)
    (hs : ∀ x ∈ s.head?, x = c) (ht : ∀ x ∈ t.head?, x = c) :
    a ++ s = b ++ t ↔ a = b ∧ s = t := by
  refine ⟨fun h => ?_, by rintro ⟨rfl, rfl⟩; rfl⟩
  induction a generalizing b with
  | nil =>
    cases b with
    | nil => exact ⟨rfl, h⟩
    | cons y b =>
      -- the first character behind the empty part is no separator
      obtain rfl := hs y (by simp [show s = y :: (b ++ t) from h])
      exact absurd List.mem_cons_self hb
  | cons x a ih =>
    cases b with
    | nil =>
      obtain rfl := ht x (by simp [show t = x :: (a ++ s) from h.symm])
      exact absurd List.mem_cons_self ha
    | cons y b =>
      rw [List.mem_cons, not_or] at ha hb
      obtain ⟨rfl, hrest⟩ := List.cons_eq_cons.mp h
      obtain ⟨rfl, rfl⟩ := ih ha.2 hb.2 hrest
      exact ⟨rfl, rfl⟩

/-! ## Joined parts -/

/-- A list without the separator is one piece. -/
lemma piecesList_of_notMem {c : Char} : ∀ a : List Char, c ∉ a → piecesList c a = [a] := by
  intro a
  induction a with
  | nil => intro _; rfl
  | cons x a ih =>
    intro h
    rw [List.mem_cons, not_or] at h
    simp [piecesList, Ne.symm h.1, ih h.2]

/-- What stands before the first separator is the first piece. -/
lemma piecesList_append {c : Char} (b : List Char) :
    ∀ a : List Char, c ∉ a → piecesList c (a ++ c :: b) = a :: piecesList c b := by
  intro a
  induction a with
  | nil => intro _; simp [piecesList]
  | cons x a ih =>
    intro h
    rw [List.mem_cons, not_or] at h
    simp [piecesList, Ne.symm h.1, ih h.2]

/-- Parts behind the first one stand behind a separator each. -/
lemma intercalate_cons (c : Char) (a : List Char) (l : List (List Char)) :
    [c].intercalate (a :: l) = a ++ l.flatMap (c :: ·) := by
  induction l generalizing a with
  | nil => simp
  | cons b l ih => rw [List.intercalate_cons_cons, ih]; simp

/-- There is at least one piece. -/
lemma piecesList_ne_nil (c : Char) (a : List Char) : piecesList c a ≠ [] := by
  cases a with
  | nil => simp [piecesList]
  | cons x a =>
    unfold piecesList
    split
    · simp
    · split <;> simp

/-- What stands behind the last separator is the last piece. -/
lemma piecesList_concat {c : Char} {b : List Char} (hb : c ∉ b) (a : List Char) :
    piecesList c (a ++ c :: b) = piecesList c a ++ [b] := by
  induction a with
  | nil => simp [piecesList, piecesList_of_notMem b hb]
  | cons x a ih =>
    by_cases hx : x = c
    · simp [piecesList, hx, ih]
    · cases hpieces : piecesList c a with
      | nil => exact absurd hpieces (piecesList_ne_nil c a)
      | cons p ps => simp [piecesList, hx, ih, hpieces]

/-- **The pieces of a list make it up again**, with a separator between neighbours. -/
lemma intercalate_piecesList (c : Char) (a : List Char) :
    [c].intercalate (piecesList c a) = a := by
  induction a with
  | nil => rfl
  | cons x a ih =>
    by_cases hx : x = c
    · rw [piecesList, if_pos hx, List.intercalate_cons_of_ne_nil (piecesList_ne_nil c a), ih, hx]
      rfl
    · cases hpieces : piecesList c a with
      | nil => exact absurd hpieces (piecesList_ne_nil c a)
      | cons p ps =>
        rw [hpieces, intercalate_cons] at ih
        rw [piecesList, if_neg hx, hpieces]
        simp only [intercalate_cons, List.cons_append, ih]

lemma toList_concat (l : List String) : (concat l).toList = l.flatMap String.toList := by
  induction l with
  | nil => rfl
  | cons s l ih => simp [concat, ih]

/-- Parts before the last one stand before a separator each. -/
lemma intercalate_concat (c : Char) (l : List (List Char)) (a : List Char) :
    [c].intercalate (l ++ [a]) = l.flatMap (· ++ [c]) ++ a := by
  induction l with
  | nil => simp
  | cons b l ih =>
    rw [List.cons_append, List.intercalate_cons_of_ne_nil (by simp), ih]
    simp

/-- The parts of a joined list are its pieces. -/
lemma piecesList_intercalate {c : Char} {l : List (List Char)} (hne : l ≠ [])
    (h : ∀ a ∈ l, c ∉ a) : piecesList c ([c].intercalate l) = l := by
  induction l with
  | nil => exact absurd rfl hne
  | cons a l ih =>
    have ha := h a List.mem_cons_self
    cases l with
    | nil => rw [List.intercalate_singleton, piecesList_of_notMem a ha]
    | cons b l =>
      rw [List.intercalate_cons_cons, List.append_assoc, List.singleton_append,
        piecesList_append _ a ha, ih (by simp) fun x hx => h x (List.mem_cons_of_mem a hx)]

/-- **Joined parts can be taken apart again**, if they are free of the separator. -/
lemma intercalate_inj {c : Char} {l m : List (List Char)} (hl : l ≠ []) (hm : m ≠ [])
    (hlc : ∀ a ∈ l, c ∉ a) (hmc : ∀ a ∈ m, c ∉ a) (h : [c].intercalate l = [c].intercalate m) :
    l = m := by
  rw [← piecesList_intercalate hl hlc, h, piecesList_intercalate hm hmc]

/-- A character is in joined parts if it is in one of them, or joins them. -/
lemma mem_of_mem_intercalate {c x : Char} {l : List (List Char)} (h : x ∈ [c].intercalate l) :
    x = c ∨ ∃ a ∈ l, x ∈ a := by
  cases l with
  | nil => cases h
  | cons a l =>
    rw [intercalate_cons, List.mem_append, List.mem_flatMap] at h
    rcases h with h | ⟨b, hb, h⟩
    · exact .inr ⟨a, List.mem_cons_self, h⟩
    · rcases List.mem_cons.mp h with rfl | h
      · exact .inl rfl
      · exact .inr ⟨b, List.mem_cons_of_mem a hb, h⟩

end StyleExtract.Text
