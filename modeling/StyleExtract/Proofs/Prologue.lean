import Mathlib.Tactic.Common
import StyleExtract.Proofs.Text.Offsets
import StyleExtract.Prologue

/-!
# The place of inserted lines

Lines are inserted behind the line on which the part of a module ends that has to stay first. The
place is found in the text and not in the tree. It falls between characters, but it may fall inside
an item: exactly if the item starts on that line and goes on behind it.

## Main definitions

* `Script.Module.frontOffset?` — an offset on the last line that has to stay first.
* `Script.Module.Straddles` — a range that starts on that line and goes on behind it.

## Main results

* `Script.Module.exists_insertionPoint` — there is a place, and it falls between characters.
* `Script.Module.inside_iff_straddles` — the place falls inside a range exactly if the range
  straddles the end of the line.

## Design

Ranges are compared with the place through the characters between the front offset and the range
(`lineSize_append`) and those of the range itself (`lineSize_lt_iff`), so no fact about offsets is
needed but that they fall between characters.
-/

namespace StyleExtract

open Script (Item Module)
open Text (Boundary Ranges Span bytes)

/-! ## First lines -/

/-- Characters before the first line feed count in full. -/
lemma lineSize_append {a : List Char} (b : List Char) (h : '\n' ∉ a) :
    lineSize (a ++ b) = bytes a + lineSize b := by
  induction a with
  | nil => simp
  | cons c a ih =>
    rw [List.mem_cons, not_or] at h
    rw [List.cons_append, lineSize, if_neg (Ne.symm h.1), ih h.2, Text.bytes_cons]
    omega

/-- A line ends at the latest with the characters that hold a line feed. -/
lemma lineSize_le_of_mem {a : List Char} (b : List Char) (h : '\n' ∈ a) :
    lineSize (a ++ b) ≤ bytes a := by
  induction a with
  | nil => cases h
  | cons c a ih =>
    have hpos := c.utf8Size_pos
    rw [List.cons_append, lineSize, Text.bytes_cons]
    split
    · omega
    · next hc =>
      have hmem : '\n' ∈ a := (List.mem_cons.mp h).resolve_left (Ne.symm hc)
      have hle := ih hmem
      omega

/-- The first line of a text that is not empty is not empty. -/
lemma lineSize_pos {a : List Char} (h : a ≠ []) : 0 < lineSize a := by
  cases a with
  | nil => exact absurd rfl h
  | cons c a =>
    have hpos := c.utf8Size_pos
    rw [lineSize]
    split <;> omega

/-- The first line ends between characters. -/
lemma boundary_lineSize (cs : List Char) : Boundary cs (lineSize cs) := by
  induction cs with
  | nil => exact ⟨[], [], rfl, rfl⟩
  | cons c cs ih =>
    rw [lineSize]
    split
    · next hc =>
      subst hc
      exact ⟨['\n'], cs, rfl, by decide⟩
    · obtain ⟨pre, rest, rfl, hpre⟩ := ih
      exact ⟨c :: pre, rest, rfl, by rw [Text.bytes_cons, hpre]⟩

/-- **A line ends inside a piece of text exactly if a line feed stands before the last character of
the piece.**

**Proof sketch.** Induction on the piece. A line feed as the last character of the piece ends the
line with the piece and not inside it, so the last character is treated apart. -/
theorem lineSize_lt_iff (post : List Char) (body : List Char) :
    lineSize (body ++ post) < bytes body ↔ '\n' ∈ body.dropLast := by
  induction body with
  | nil => simp
  | cons c body ih =>
    have hpos := c.utf8Size_pos
    rw [List.cons_append, lineSize, Text.bytes_cons]
    cases body with
    | nil =>
      rw [List.dropLast_singleton]
      simp only [Text.bytes_nil, List.nil_append, List.not_mem_nil, iff_false]
      split
      · next hc =>
        subst hc
        decide
      · omega
    | cons d body =>
      have hd := d.utf8Size_pos
      rw [List.dropLast_cons_cons, List.mem_cons]
      split
      · next hc =>
        subst hc
        simp only [Text.bytes_cons, true_or, iff_true]
        omega
      · next hc =>
        rw [← ih]
        simp only [Ne.symm hc, false_or]
        omega

/-! ## The last line that has to stay first -/

namespace Script.Module

/-- An offset on the last line that has to stay first: the end of the last directive, or the start
of a line for the operating system. -/
def frontOffset? (m : Module) : Option ℕ :=
  match m.directives.getLast? with
  | some d => some d.span.stop
  | none => if m.hashbang then some 0 else none

/-- A range that starts on the last line that has to stay first, and goes on behind it: no line feed
stands before the range, and one stands in it before its last character. -/
def Straddles (text : List Char) (m : Module) (s : Span) : Prop :=
  ∃ offset ∈ m.frontOffset?, ∃ gap body, Text.slice? text offset s.start = some gap ∧
    Text.slice? text s.start s.stop = some body ∧ '\n' ∉ gap ∧ '\n' ∈ body.dropLast

variable {text : List Char} {m : Module}

/-- The end of the last directive falls between characters. -/
lemma boundary_frontOffset (hitems : Ranges text (m.items.map Item.span)) {offset : ℕ}
    (ho : offset ∈ m.frontOffset?) : Boundary text offset := by
  unfold frontOffset? at ho
  cases hd : m.directives.getLast? with
  | some d =>
    rw [hd] at ho
    obtain rfl : d.span.stop = offset := by simpa using ho
    have hmem : d ∈ m.items := (List.takeWhile_prefix _).subset (List.mem_of_getLast? hd)
    exact (hitems.fits _ (List.mem_map_of_mem hmem)).stop
  | none =>
    rw [hd] at ho
    obtain ⟨-, rfl⟩ : m.hashbang = true ∧ 0 = offset := by simpa using ho
    exact Text.boundary_zero text

/-- The place is the end of the line of the front offset, or the start of the text.

**Proof sketch.** The front offset is the end of the last directive or, without directives, the
start of the text if a line for the operating system stands there. In both cases the rest of the
line is added to it. -/
lemma insertionPoint?_eq (hitems : Ranges text (m.items.map Item.span)) :
    (m.frontOffset? = none ∧ m.insertionPoint? text = some 0) ∨
    ∃ pre rest, text = pre ++ rest ∧ m.frontOffset? = some (bytes pre) ∧
      m.insertionPoint? text = some (bytes pre + lineSize rest) := by
  cases ho : m.frontOffset? with
  | none =>
    refine .inl ⟨rfl, ?_⟩
    unfold frontOffset? at ho
    unfold insertionPoint?
    cases hd : m.directives.getLast? with
    | some d => simp [hd] at ho
    | none =>
      have hm : m.hashbang = false := by simpa [hd] using ho
      simp [hm]
  | some offset =>
    obtain ⟨pre, rest, rfl, rfl⟩ := boundary_frontOffset hitems ho
    refine .inr ⟨pre, rest, rfl, rfl, ?_⟩
    unfold frontOffset? at ho
    unfold insertionPoint?
    cases hd : m.directives.getLast? with
    | some d =>
      have hstop : d.span.stop = bytes pre := by simpa [hd] using ho
      simp [hstop]
    | none =>
      obtain ⟨hm, hzero⟩ : m.hashbang = true ∧ 0 = bytes pre := by simpa [hd] using ho
      obtain rfl : pre = [] := Text.bytes_eq_zero_iff.mp hzero.symm
      simp [hm]

/-- **There is a place for inserted lines, and it falls between characters.** -/
theorem exists_insertionPoint (hitems : Ranges text (m.items.map Item.span)) :
    ∃ place, m.insertionPoint? text = some place ∧ Boundary text place := by
  rcases insertionPoint?_eq hitems with ⟨-, hplace⟩ | ⟨pre, rest, rfl, -, hplace⟩
  · exact ⟨0, hplace, Text.boundary_zero text⟩
  · obtain ⟨line, post, rfl, hline⟩ := boundary_lineSize rest
    refine ⟨_, hplace, pre ++ line, post, by simp, ?_⟩
    rw [Text.bytes_append, hline]

/-- Items stand before or behind the end of the last directive.

**Proof sketch.** The items are the directives up to the last one, this one, and all others. They
are ordered, so those up to the last directive stop before the offset and the others start behind
it. -/
lemma item_beside_front (hitems : Ranges text (m.items.map Item.span)) {offset : ℕ}
    (ho : offset ∈ m.frontOffset?) {item : Item} (hmem : item ∈ m.items) :
    item.span.stop ≤ offset ∨ offset ≤ item.span.start := by
  unfold frontOffset? at ho
  cases hd : m.directives.getLast? with
  | none =>
    rw [hd] at ho
    obtain ⟨-, rfl⟩ : m.hashbang = true ∧ 0 = offset := by simpa using ho
    exact .inr (Nat.zero_le _)
  | some d =>
    rw [hd] at ho
    obtain rfl : d.span.stop = offset := by simpa using ho
    -- the items are the directives up to the last one, and the others
    obtain ⟨front, hfront⟩ := List.getLast?_eq_some_iff.mp hd
    have hsplit : m.items = front ++ d :: m.items.dropWhile Item.isDirective := by
      have h := List.takeWhile_append_dropWhile (p := Item.isDirective) (l := m.items)
      rw [← directives, hfront] at h
      simpa using h.symm
    have hle : d.span.start ≤ d.span.stop :=
      (hitems.fits _ (List.mem_map_of_mem (by rw [hsplit]; simp))).le
    have hord := List.pairwise_map.mp hitems.ordered
    rw [hsplit] at hord hmem
    rw [List.pairwise_append, List.pairwise_cons] at hord
    rcases List.mem_append.mp hmem with hmem | hmem
    · have hbefore := hord.2.2 item hmem d (by simp)
      exact .inl (Nat.le_trans hbefore hle)
    · rcases List.mem_cons.mp hmem with rfl | hmem
      · exact .inl (Nat.le_refl _)
      · exact .inr (hord.2.1.1 item hmem)

/-- **The place falls inside a range exactly if the range straddles the end of the line.** The range
has to stand before or behind the front offset, as every item does.

**Proof sketch.** A range before the front offset stops before the place. For a range behind it,
split the text into what stands before the range on the line, the range itself and the rest. The
place is behind the start of the range exactly if the first part has no line feed, and before the
stop of the range exactly if the range has one before its last character. -/
theorem inside_iff_straddles (hitems : Ranges text (m.items.map Item.span)) {place : ℕ}
    (hplace : m.insertionPoint? text = some place) {s : Span} (hs : s.Fits text)
    (hside : ∀ offset ∈ m.frontOffset?, s.stop ≤ offset ∨ offset ≤ s.start) :
    (s.start < place ∧ place < s.stop) ↔ m.Straddles text s := by
  rcases insertionPoint?_eq hitems with ⟨hnone, hzero⟩ | ⟨pre, rest, rfl, hfront, hline⟩
  · obtain rfl : place = 0 := by simpa [hzero] using hplace.symm
    simp [Straddles, hnone]
  · obtain rfl : place = bytes pre + lineSize rest := by simpa [hline] using hplace.symm
    rcases hside _ hfront with hbefore | hbehind
    · constructor
      · rintro ⟨-, h⟩
        omega
      · rintro ⟨offset, ho, gap, body, hgap, hbody, -, hfeed⟩
        obtain rfl : bytes pre = offset := by simpa [hfront] using ho
        -- there is a slice up to the start of the range only if the range is empty
        have hle := Text.le_of_slice? hgap
        obtain ⟨front, post, -, -, hbytes⟩ := Text.slice?_eq_some_iff.mp hbody
        obtain rfl : body = [] := Text.bytes_eq_zero_iff.mp (by have := hs.le; omega)
        simp at hfeed
    · obtain ⟨gap, tail, rfl, hgap⟩ := Text.exists_split hs.start hbehind
      obtain ⟨body, post, rfl, hbody⟩ : ∃ body post, tail = body ++ post ∧
          s.stop = s.start + bytes body := by
        have hstop : Boundary ((pre ++ gap) ++ tail) s.stop := by simpa using hs.stop
        rw [hgap, ← Text.bytes_append]
        exact Text.exists_split hstop (by rw [Text.bytes_append, ← hgap]; exact hs.le)
      have hgap' : Text.slice? (pre ++ (gap ++ (body ++ post))) (bytes pre) s.start = some gap :=
        Text.slice?_eq_some_iff.mpr ⟨pre, body ++ post, rfl, rfl, hgap.symm⟩
      have hbody' : Text.slice? (pre ++ (gap ++ (body ++ post))) s.start s.stop = some body :=
        Text.slice?_eq_some_iff.mpr ⟨pre ++ gap, post, by simp, by rw [Text.bytes_append, hgap],
          hbody.symm⟩
      have hstraddles : m.Straddles (pre ++ (gap ++ (body ++ post))) s ↔
          '\n' ∉ gap ∧ '\n' ∈ body.dropLast := by
        simp [Straddles, hfront, hgap', hbody']
      rw [hstraddles, ← lineSize_lt_iff post]
      by_cases hfeed : '\n' ∈ gap
      · have hle := lineSize_le_of_mem (body ++ post) hfeed
        simp only [hfeed, not_true_eq_false, false_and, iff_false]
        omega
      · rw [lineSize_append _ hfeed]
        simp only [hfeed, not_false_eq_true, true_and]
        constructor
        · rintro ⟨-, h⟩
          omega
        · intro h
          have hne : body ++ post ≠ [] := by
            rintro hnil
            simp [(List.append_eq_nil_iff.mp hnil).1] at h
          have hpos := lineSize_pos hne
          omega

end Script.Module

end StyleExtract
