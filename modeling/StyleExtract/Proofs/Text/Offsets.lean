import Mathlib.Tactic.Common
import StyleExtract.Text.Measure

/-!
# Offsets between characters

A byte offset is useful only where it falls between characters. This file says which offsets do,
and what the text between two of them is, in terms of the ways in which a text can be split in
parts.

## Main definitions

* `Text.Boundary` — an offset that falls between characters or at an end.
* `Text.Span.Fits` — a range between two such offsets.
* `Text.Ranges` — ranges in source order that do not overlap.

## Main results

* `Text.dropBytes?_eq_some_iff`, `Text.takeBytes?_eq_some_iff` — cutting is splitting.
* `Text.exists_split` — two boundaries split a text in three parts.
* `Text.slice?_eq_some_iff` — a slice is the second of three parts.

## Design

All facts about offsets are said with the parts of a text, `cs = pre ++ mid ++ rest`, and the
numbers of bytes of the parts. Arithmetic with offsets is then arithmetic with `Text.bytes`.
-/

namespace StyleExtract.Text

/-! ## Cutting -/

/-- Only the empty text has no bytes. -/
lemma bytes_eq_zero_iff {cs : List Char} : bytes cs = 0 ↔ cs = [] := by
  cases cs with
  | nil => simp
  | cons c cs =>
    have hpos := c.utf8Size_pos
    simp only [bytes_cons, List.cons_ne_nil, iff_false]
    omega

/-- The bytes of a text that is not empty, as the cutting functions count them down. -/
lemma exists_bytes_cons (c : Char) (cs : List Char) :
    ∃ n, bytes (c :: cs) = n + 1 ∧ c.utf8Size ≤ n + 1 ∧ n + 1 - c.utf8Size = bytes cs := by
  have hpos := c.utf8Size_pos
  refine ⟨c.utf8Size + bytes cs - 1, ?_, ?_, ?_⟩
  · rw [bytes_cons]
    omega
  · omega
  · omega

/-- Cutting off the bytes of a part leaves the other part. -/
@[simp] lemma dropBytes?_append (pre rest : List Char) :
    dropBytes? (bytes pre) (pre ++ rest) = some rest := by
  induction pre with
  | nil => simp [dropBytes?]
  | cons c cs ih =>
    obtain ⟨n, hn, hle, hsub⟩ := exists_bytes_cons c cs
    rw [hn, List.cons_append, dropBytes?, if_pos hle, hsub, ih]

/-- Taking the bytes of a part gives the part. -/
@[simp] lemma takeBytes?_append (pre rest : List Char) :
    takeBytes? (bytes pre) (pre ++ rest) = some pre := by
  induction pre with
  | nil => simp [takeBytes?]
  | cons c cs ih =>
    obtain ⟨n, hn, hle, hsub⟩ := exists_bytes_cons c cs
    rw [hn, List.cons_append, takeBytes?, if_pos hle, hsub, ih, Option.map_some]

/-- **What is left after a cut is the second part of a split.**

**Proof sketch.** Along the recursion of `dropBytes?`: each character that is cut off goes to the
first part. -/
theorem dropBytes?_eq_some_iff {n : ℕ} {cs rest : List Char} :
    dropBytes? n cs = some rest ↔ ∃ pre, cs = pre ++ rest ∧ bytes pre = n := by
  constructor
  · intro h
    fun_induction dropBytes? n cs with
    | case1 cs =>
      obtain rfl : cs = rest := by simpa using h
      exact ⟨[], rfl, rfl⟩
    | case2 => cases h
    | case3 n c cs hle ih =>
      obtain ⟨pre, rfl, hpre⟩ := ih h
      refine ⟨c :: pre, rfl, ?_⟩
      rw [bytes_cons, hpre]
      omega
    | case4 => cases h
  · rintro ⟨pre, rfl, rfl⟩
    exact dropBytes?_append pre rest

/-- What is taken is the first part of a split.

**Proof sketch.** Along the recursion of `takeBytes?`, one character at a time is taken off with its
bytes, and taking stops where the number is used up. -/
lemma takeBytes?_eq_some_iff {n : ℕ} {cs pre : List Char} :
    takeBytes? n cs = some pre ↔ ∃ rest, cs = pre ++ rest ∧ bytes pre = n := by
  constructor
  · intro h
    fun_induction takeBytes? n cs generalizing pre with
    | case1 cs =>
      obtain rfl : [] = pre := by simpa using h
      exact ⟨cs, rfl, rfl⟩
    | case2 => cases h
    | case3 n c cs hle ih =>
      obtain ⟨pre', hpre', rfl⟩ := Option.map_eq_some_iff.mp h
      obtain ⟨rest, rfl, hbytes⟩ := ih hpre'
      refine ⟨rest, rfl, ?_⟩
      rw [bytes_cons, hbytes]
      omega
    | case4 => cases h
  · rintro ⟨rest, rfl, rfl⟩
    exact takeBytes?_append pre rest

/-! ## Boundaries -/

/-- An offset that falls between two characters or at an end of the text. -/
def Boundary (cs : List Char) (n : ℕ) : Prop := ∃ pre rest, cs = pre ++ rest ∧ bytes pre = n

/-- There is a cut exactly at boundaries. -/
lemma boundary_iff_isSome {cs : List Char} {n : ℕ} :
    Boundary cs n ↔ (dropBytes? n cs).isSome = true := by
  rw [Option.isSome_iff_exists]
  constructor
  · rintro ⟨pre, rest, h⟩
    exact ⟨rest, dropBytes?_eq_some_iff.mpr ⟨pre, h⟩⟩
  · rintro ⟨rest, h⟩
    obtain ⟨pre, hpre⟩ := dropBytes?_eq_some_iff.mp h
    exact ⟨pre, rest, hpre⟩

instance (cs : List Char) (n : ℕ) : Decidable (Boundary cs n) :=
  decidable_of_iff _ boundary_iff_isSome.symm

/-- The start of a text is a boundary. -/
lemma boundary_zero (cs : List Char) : Boundary cs 0 := ⟨[], cs, rfl, rfl⟩

/-- **Two boundaries split a text in three parts.** -/
theorem exists_split {pre rest : List Char} {b : ℕ} (hb : Boundary (pre ++ rest) b)
    (hle : bytes pre ≤ b) : ∃ mid post, rest = mid ++ post ∧ b = bytes pre + bytes mid := by
  obtain ⟨front, post, heq, rfl⟩ := hb
  rcases List.append_eq_append_iff.mp heq with ⟨mid, rfl, rfl⟩ | ⟨back, rfl, rfl⟩
  · exact ⟨mid, post, rfl, bytes_append pre mid⟩
  · -- the second boundary lies in the first part only if nothing is between them
    rw [bytes_append] at hle
    obtain rfl : back = [] := bytes_eq_zero_iff.mp (by omega)
    exact ⟨[], rest, rfl, by simp⟩

/-- Two splits of a text at the same offset are the same. -/
lemma append_inj_of_bytes {a b c d : List Char} (h : a ++ b = c ++ d) (hbytes : bytes a = bytes c) :
    a = c ∧ b = d := by
  have hdrop := dropBytes?_append a b
  rw [h, hbytes, dropBytes?_append, Option.some.injEq] at hdrop
  subst hdrop
  exact ⟨List.append_cancel_right h, rfl⟩

/-- **A slice is the second of three parts.**

**Proof sketch.** A slice drops the bytes before it and takes its own. Each cuts the list in two,
and offsets that run backwards give none. -/
theorem slice?_eq_some_iff {cs mid : List Char} {a b : ℕ} :
    slice? cs a b = some mid ↔
      ∃ pre post, cs = pre ++ (mid ++ post) ∧ bytes pre = a ∧ a + bytes mid = b := by
  unfold slice?
  split
  · next hle =>
    simp only [Option.bind_eq_some_iff, dropBytes?_eq_some_iff, takeBytes?_eq_some_iff]
    constructor
    · rintro ⟨rest, ⟨pre, rfl, rfl⟩, post, rfl, hmid⟩
      exact ⟨pre, post, rfl, rfl, by omega⟩
    · rintro ⟨pre, post, rfl, rfl, hb⟩
      exact ⟨mid ++ post, ⟨pre, rfl, rfl⟩, post, rfl, by omega⟩
  · next hlt =>
    constructor
    · intro h
      cases h
    · rintro ⟨pre, post, -, rfl, hb⟩
      omega

/-- There is no slice that runs backwards. -/
lemma slice?_of_lt {cs : List Char} {a b : ℕ} (h : b < a) : slice? cs a b = none := by
  rw [slice?, if_neg (by omega)]

/-- A slice does not run backwards. -/
lemma le_of_slice? {cs mid : List Char} {a b : ℕ} (h : slice? cs a b = some mid) : a ≤ b := by
  obtain ⟨pre, post, -, -, hb⟩ := slice?_eq_some_iff.mp h
  omega

/-! ## Ranges -/

/-- A range of a text, between two boundaries. -/
structure Span.Fits (cs : List Char) (s : Span) : Prop where
  /-- It does not run backwards. -/
  le : s.start ≤ s.stop
  /-- It starts between characters. -/
  start : Boundary cs s.start
  /-- It stops between characters. -/
  stop : Boundary cs s.stop

instance (cs : List Char) (s : Span) : Decidable (s.Fits cs) :=
  decidable_of_iff (s.start ≤ s.stop ∧ Boundary cs s.start ∧ Boundary cs s.stop)
    ⟨fun h => ⟨h.1, h.2.1, h.2.2⟩, fun h => ⟨h.le, h.start, h.stop⟩⟩

/-- Ranges of a text in source order that do not overlap. -/
structure Ranges (cs : List Char) (spans : List Span) : Prop where
  /-- Each is a range of the text. -/
  fits : ∀ s ∈ spans, s.Fits cs
  /-- Each stops before the next ones start. -/
  ordered : spans.Pairwise fun s t => s.stop ≤ t.start

instance (cs : List Char) (spans : List Span) : Decidable (Ranges cs spans) :=
  decidable_of_iff ((∀ s ∈ spans, s.Fits cs) ∧ spans.Pairwise fun s t => s.stop ≤ t.start)
    ⟨fun h => ⟨h.1, h.2⟩, fun h => ⟨h.fits, h.ordered⟩⟩

/-- Leaving out ranges keeps the others in order. -/
lemma Ranges.sublist {cs : List Char} {spans spans' : List Span} (h : Ranges cs spans)
    (hsub : spans'.Sublist spans) : Ranges cs spans' :=
  ⟨fun s hs => h.fits s (hsub.subset hs), h.ordered.sublist hsub⟩

end StyleExtract.Text
