import Mathlib.Data.Prod.Lex
import Mathlib.Tactic.Common
import StyleExtract.Proofs.Text.Offsets
import StyleExtract.Splice

/-!
# Segments of a source map

The segments of a splice stand in the order of the generated text, and between two of them the
generated text and the source go on in parallel. So the last segment at or before a place says where
the place comes from.

## Main definitions

* `Ascending` — segments in strictly increasing order between two positions.
* `lastSegment?`, `originOf?` — looking up a position of the generated text.

## Main results

* `piecesSegments_ascending` — the segments of pieces ascend.
* `originOf?_lineSegments` — every character of copied lines is mapped to where it comes from.
* `originOf?_piecesSegments` — the segments of one piece decide where its characters come from.

## Design

All positions are those behind some characters (`Position.after`), of the generated text or of the
source, so that no line or column is ever computed.
-/

namespace StyleExtract

open Text (bytes units)

/-! ## The order of positions -/

namespace Position

/-- Positions are compared by their lines, and on one line by their columns. -/
instance : LinearOrder Position :=
  LinearOrder.lift' (fun p => toLex (p.line, p.column)) fun p q h => by
    obtain ⟨line, column⟩ := p
    obtain ⟨line', column'⟩ := q
    simpa using h

lemma lt_iff {p q : Position} :
    p < q ↔ p.line < q.line ∨ p.line = q.line ∧ p.column < q.column :=
  Prod.Lex.toLex_lt_toLex

/-- A position is before the one behind the next character. -/
lemma lt_next (p : Position) (c : Char) : p < p.next c := by
  rw [lt_iff, next]
  split
  · left
    exact Nat.lt_succ_self _
  · right
    have hpos : 0 < Text.unitsOf c := by
      unfold Text.unitsOf
      split <;> omega
    exact ⟨rfl, Nat.lt_add_of_pos_right hpos⟩

/-- A position is not behind the one behind some characters. -/
lemma le_after (p : Position) (cs : List Char) : p ≤ p.after cs := by
  induction cs generalizing p with
  | nil => exact le_rfl
  | cons c cs ih => exact (p.lt_next c).le.trans (ih (p.next c))

/-- A position is before the one behind at least one character. -/
lemma lt_after (p : Position) {cs : List Char} (h : cs ≠ []) : p < p.after cs := by
  cases cs with
  | nil => exact absurd rfl h
  | cons c cs => exact (p.lt_next c).trans_le ((p.next c).le_after cs)

/-- Characters without a line feed stay on their line. -/
lemma after_of_notMem (p : Position) {cs : List Char} (h : '\n' ∉ cs) :
    p.after cs = ⟨p.line, p.column + units cs⟩ := by
  induction cs generalizing p with
  | nil => simp
  | cons c cs ih =>
    rw [List.mem_cons, not_or] at h
    rw [after_cons, ih _ h.2, next, if_neg (Ne.symm h.1), Text.units_cons, Nat.add_assoc]

/-- Lines and columns count at most one for each byte.

**Proof sketch.** Induction on the text. A character adds at most one line, or as many columns as it
has units, and it has at most as many units as bytes. -/
lemma after_le (p : Position) (cs : List Char) :
    (p.after cs).line ≤ p.line + bytes cs ∧ (p.after cs).column ≤ p.column + bytes cs := by
  induction cs generalizing p with
  | nil => simp
  | cons c cs ih =>
    have hunits : Text.unitsOf c ≤ c.utf8Size := by
      have hpos := c.utf8Size_pos
      unfold Text.unitsOf
      split
      · exact hpos
      · next hbig =>
        have hsize : c.utf8Size = 4 := by
          rw [Char.utf8Size_eq_four_iff]
          exact UInt32.lt_iff_toNat_lt.mpr (by simp at hbig ⊢; omega)
        omega
    have hpos := c.utf8Size_pos
    have hrest := ih (p.next c)
    have hnext : (p.next c).line ≤ p.line + c.utf8Size ∧
        (p.next c).column ≤ p.column + c.utf8Size := by
      unfold next
      split <;> simp <;> omega
    rw [after_cons, Text.bytes_cons]
    omega

/-- The position some characters behind another one. -/
lemma skip_append (p : Position) (pre rest : List Char) :
    p.skip (bytes pre) (pre ++ rest) = p.after pre := by
  induction pre generalizing p with
  | nil => simp [skip]
  | cons c cs ih =>
    obtain ⟨n, hn, -, hsub⟩ := Text.exists_bytes_cons c cs
    rw [hn, List.cons_append, skip, hsub, ih, after_cons]

/-- The position of an offset is the one behind the characters before it. -/
lemma ofOffset_append (pre rest : List Char) :
    ofOffset (pre ++ rest) (bytes pre) = start.after pre :=
  skip_append start pre rest

end Position

/-! ## Lines -/

/-- A line has a character, and a line feed only as its last one.

**Proof sketch.** Induction on the text. A line feed is a line by itself at first, and any other
character is put in front of the line that follows, whose line feed stays the last one. -/
lemma Text.mem_lines {cs l : List Char} (h : l ∈ Text.lines cs) : l ≠ [] ∧ '\n' ∉ l.dropLast := by
  induction cs generalizing l with
  | nil => cases h
  | cons c cs ih =>
    unfold Text.lines at h
    split at h
    · rcases List.mem_cons.mp h with rfl | h
      · simp
      · exact ih h
    · next hc =>
      cases hls : Text.lines cs with
      | nil =>
        rw [hls] at h
        obtain rfl : l = [c] := by simpa using h
        simp
      | cons m ms =>
        rw [hls] at h
        rcases List.mem_cons.mp h with rfl | h
        · obtain ⟨hne, hfeed⟩ := ih (hls ▸ List.mem_cons_self)
          rw [List.dropLast_cons_of_ne_nil hne, List.mem_cons, not_or]
          exact ⟨List.cons_ne_nil _ _, Ne.symm hc, hfeed⟩
        · exact ih (hls ▸ List.mem_cons_of_mem _ h)

/-- Characters of a line before its last one are no line feeds. -/
lemma Text.notMem_of_line {x y : List Char} {c : Char} (h : '\n' ∉ (x ++ c :: y).dropLast) :
    '\n' ∉ x := by
  rw [List.dropLast_append_of_ne_nil (List.cons_ne_nil c y), List.mem_append, not_or] at h
  exact h.1

/-- A character of a text in two parts stands in the first or in the second one. -/
lemma Text.append_eq_append_cons {a b x y : List Char} {c : Char} (h : a ++ b = x ++ c :: y) :
    (∃ z, a = x ++ c :: z ∧ y = z ++ b) ∨ ∃ z, x = a ++ z ∧ b = z ++ c :: y := by
  rcases List.append_eq_append_iff.mp h with ⟨z, hx, hb⟩ | ⟨z, ha, hb⟩
  · exact .inr ⟨z, hx, hb⟩
  · cases z with
    | nil => exact .inr ⟨[], by simpa using ha.symm, hb.symm⟩
    | cons d z =>
      obtain ⟨rfl, hy⟩ := List.cons_eq_cons.mp hb
      exact .inl ⟨z, ha, hy⟩

/-! ## The order of segments -/

/-- Segments whose places strictly increase, from one position on and before another one. -/
structure Ascending (first last : Position) (segments : List Segment) : Prop where
  /-- Each stands before the next ones. -/
  ordered : segments.Pairwise fun s t => s.generated < t.generated
  /-- All stand between the two positions. -/
  within : ∀ s ∈ segments, first ≤ s.generated ∧ s.generated < last

namespace Ascending

variable {p q r : Position} {a b : List Segment}

/-- One segment at the first position. -/
lemma singleton (h : p < q) (origin : Position) : Ascending p q [⟨p, origin⟩] :=
  ⟨List.pairwise_singleton _ _, by simpa using h⟩

/-- Ascending segments one after the other. -/
lemma append (ha : Ascending p q a) (hb : Ascending q r b) (hpq : p ≤ q) (hqr : q ≤ r) :
    Ascending p r (a ++ b) where
  ordered := by
    refine List.pairwise_append.mpr ⟨ha.ordered, hb.ordered, fun s hs t ht => ?_⟩
    exact (ha.within s hs).2.trans_le (hb.within t ht).1
  within := by
    intro s hs
    rcases List.mem_append.mp hs with hs | hs
    · exact ⟨(ha.within s hs).1, (ha.within s hs).2.trans_le hqr⟩
    · exact ⟨hpq.trans (hb.within s hs).1, (hb.within s hs).2⟩

end Ascending

/-- The segments of lines ascend, one at the start of each line. -/
lemma lineSegments_ascending {ls : List (List Char)} (hls : ∀ l ∈ ls, l ≠ [])
    (generated origin : Position) :
    Ascending generated (generated.after ls.flatten) (lineSegments generated origin ls) := by
  induction ls generalizing generated origin with
  | nil => exact ⟨List.Pairwise.nil, by simp [lineSegments]⟩
  | cons l ls ih =>
    rw [List.flatten_cons, Position.after_append]
    have hfirst := Ascending.singleton (generated.lt_after (hls l (by simp))) origin
    have hrest := ih (fun m hm => hls m (by simp [hm])) (generated.after l) (origin.after l)
    exact hfirst.append hrest (generated.le_after l) ((generated.after l).le_after _)

/-- The segments of lines say of places of the generated text where they come from. -/
lemma mem_lineSegments {ls : List (List Char)} {generated origin : Position} {s : Segment}
    (h : s ∈ lineSegments generated origin ls) :
    ∃ x y, ls.flatten = x ++ y ∧ s = ⟨generated.after x, origin.after x⟩ := by
  induction ls generalizing generated origin with
  | nil => cases h
  | cons l ls ih =>
    rcases List.mem_cons.mp h with rfl | h
    · exact ⟨[], _, rfl, rfl⟩
    · obtain ⟨x, y, hflat, rfl⟩ := ih h
      refine ⟨l ++ x, y, by rw [List.flatten_cons, hflat, List.append_assoc], ?_⟩
      rw [Position.after_append, Position.after_append]

/-- A replacement that is not empty. Copies and inserted lines may be. -/
def Piece.Visible : Piece → Prop
  | .replaced _ text => text ≠ []
  | .copied .. | .inserted _ => True

/-- The segments of a piece ascend within the piece. -/
lemma Piece.segments_ascending (source : List Char) (generated : Position) {p : Piece}
    (hp : p.Visible) :
    Ascending generated (generated.after p.text) (p.segments source generated) := by
  cases p with
  | copied start text =>
    have hlines : ∀ l ∈ Text.lines text, l ≠ [] := fun l hl => (Text.mem_lines hl).1
    have h := lineSegments_ascending hlines generated (.ofOffset source start)
    rwa [Text.flatten_lines] at h
  | inserted text => exact ⟨List.Pairwise.nil, by simp [Piece.segments]⟩
  | replaced start text => exact Ascending.singleton (generated.lt_after hp) _

/-- The segments of pieces are those of their parts. -/
lemma piecesSegments_append (source : List Char) (generated : Position) (a b : List Piece) :
    piecesSegments source generated (a ++ b) = piecesSegments source generated a ++
      piecesSegments source (generated.after (piecesText a)) b := by
  induction a generalizing generated with
  | nil => rfl
  | cons p a ih =>
    rw [List.cons_append, piecesSegments, piecesSegments, ih, piecesText_cons,
      Position.after_append, List.append_assoc]

/-- **The segments of pieces ascend** within the text of the pieces. -/
theorem piecesSegments_ascending (source : List Char) (generated : Position) {pieces : List Piece}
    (h : ∀ p ∈ pieces, p.Visible) :
    Ascending generated (generated.after (piecesText pieces))
      (piecesSegments source generated pieces) := by
  induction pieces generalizing generated with
  | nil => exact ⟨List.Pairwise.nil, by simp [piecesSegments]⟩
  | cons p pieces ih =>
    rw [piecesText_cons, Position.after_append, piecesSegments]
    have hfirst := p.segments_ascending source generated (h p (by simp))
    have hrest := ih (generated.after p.text) fun q hq => h q (by simp [hq])
    exact hfirst.append hrest (generated.le_after _) ((generated.after p.text).le_after _)

/-! ## Looking up a position -/

/-- The last segment at or before a position of the generated text. -/
def lastSegment? (segments : List Segment) (p : Position) : Option Segment :=
  (segments.filter fun s => s.generated ≤ p).getLast?

/-- Where a position of the generated text comes from: the last segment at or before it has to be on
its line, and the columns between them are the same in both texts. -/
def originOf? (segments : List Segment) (p : Position) : Option Position :=
  match lastSegment? segments p with
  | some s =>
    if s.generated.line = p.line then
      some ⟨s.origin.line, s.origin.column + (p.column - s.generated.column)⟩
    else none
  | none => none

section Lookup

variable {p o : Position} {a b : List Segment}

/-- Segments behind a position do not count. -/
lemma originOf?_append_of_lt (h : ∀ s ∈ b, p < s.generated) :
    originOf? (a ++ b) p = originOf? a p := by
  have hnone : b.filter (fun s => s.generated ≤ p) = [] := by
    rw [List.filter_eq_nil_iff]
    intro s hs
    simpa using h s hs
  rw [originOf?, originOf?, lastSegment?, lastSegment?, List.filter_append, hnone, List.append_nil]

/-- Later segments at or before a position decide. -/
lemma originOf?_append_of_eq_some (h : originOf? b p = some o) : originOf? (a ++ b) p = some o := by
  cases hb : lastSegment? b p with
  | none => simp [originOf?, hb] at h
  | some s =>
    have hlast : lastSegment? (a ++ b) p = some s := by
      rw [lastSegment?, List.filter_append, List.getLast?_append]
      rw [lastSegment?] at hb
      rw [hb, Option.some_or]
    rw [originOf?, hb] at h
    rw [originOf?, hlast]
    exact h

end Lookup

/-- A segment maps what follows it on its line. -/
lemma originOf?_singleton (generated origin : Position) {x : List Char} (hx : '\n' ∉ x) :
    originOf? [⟨generated, origin⟩] (generated.after x) = some (origin.after x) := by
  have hlast : lastSegment? [⟨generated, origin⟩] (generated.after x) =
      some ⟨generated, origin⟩ := by
    simp [lastSegment?, generated.le_after x]
  rw [originOf?, hlast, generated.after_of_notMem hx, origin.after_of_notMem hx]
  simp

/-- **Every character of copied lines is mapped to where it comes from.**

**Proof sketch.** Induction on the lines. A character of the first line has no line feed before it,
and the next segments stand behind the line, so the segment at the start of the line maps it. -/
theorem originOf?_lineSegments {ls : List (List Char)}
    (hls : ∀ l ∈ ls, l ≠ [] ∧ '\n' ∉ l.dropLast) (generated origin : Position)
    {x y : List Char} {c : Char} (h : ls.flatten = x ++ c :: y) :
    originOf? (lineSegments generated origin ls) (generated.after x) = some (origin.after x) := by
  induction ls generalizing generated origin x with
  | nil => simp at h
  | cons l ls ih =>
    have hrest : ∀ m ∈ ls, m ≠ [] ∧ '\n' ∉ m.dropLast := fun m hm => hls m (by simp [hm])
    rw [List.flatten_cons] at h
    rw [lineSegments, ← List.singleton_append]
    rcases Text.append_eq_append_cons h with ⟨y', rfl, -⟩ | ⟨x', rfl, hrest'⟩
    · have hx : '\n' ∉ x := Text.notMem_of_line (hls _ List.mem_cons_self).2
      rw [originOf?_append_of_lt, originOf?_singleton _ _ hx]
      intro s hs
      have hbehind := ((lineSegments_ascending (fun m hm => (hrest m hm).1) _ _).within s hs).1
      rw [Position.after_append] at hbehind
      exact ((generated.after x).lt_after (List.cons_ne_nil c y')).trans_le hbehind
    · rw [Position.after_append, Position.after_append]
      exact originOf?_append_of_eq_some (ih hrest _ _ hrest')

/-- **The segments of a piece decide where its characters come from**: the segments of earlier
pieces stand before them, and those of later pieces behind the piece. -/
theorem originOf?_piecesSegments (source : List Char) (generated : Position) {a b : List Piece}
    {piece : Piece} (hb : ∀ p ∈ b, p.Visible) {x y : List Char} {c : Char} {o : Position}
    (htext : piece.text = x ++ c :: y)
    (ho : originOf? (piece.segments source (generated.after (piecesText a)))
      ((generated.after (piecesText a)).after x) = some o) :
    originOf? (piecesSegments source generated (a ++ piece :: b))
      (generated.after (piecesText a ++ x)) = some o := by
  rw [piecesSegments_append, piecesSegments, Position.after_append]
  refine originOf?_append_of_eq_some ?_
  rw [originOf?_append_of_lt, ho]
  intro s hs
  have hbehind := ((piecesSegments_ascending source _ hb).within s hs).1
  rw [htext, Position.after_append] at hbehind
  exact (Position.lt_after _ (List.cons_ne_nil c y)).trans_le hbehind

end StyleExtract
