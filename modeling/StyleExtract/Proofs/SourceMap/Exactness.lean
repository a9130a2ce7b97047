import Mathlib.Tactic.Common
import StyleExtract.Proofs.SourceMap.Segments
import StyleExtract.Proofs.Splice

/-!
# What a source map says of a splice

A spliced text is its source with edits made and lines inserted. This file says where its source map
leads: every copied character to itself, every replacement to the start of the range that it
replaces, and nothing of the inserted lines anywhere.

## Main definitions

* `ExactMap` — what the map of a spliced text has to say.

## Main results

* `Assembled.exists_copied`, `Assembled.exists_changed` — where a character of the source, and a
  change, stand among the pieces of a splice.
* `splice_map_exact` — the map of a splice is exact.

## Design

A place of the spliced text is given by the text before it, and that text by `Rewrites`: it is what
the changes up to a place of the source make of the source before this place. So the statement
mentions neither pieces nor the cursor of the splice.
-/

namespace StyleExtract

open Text (Boundary Ranges bytes)

/-! ## Pieces and the source -/

/-- The range of an edit does not run backwards. -/
lemma Rewrites.start_le_stop {offset : ℕ} {rest out : List Char} {edits : List Edit}
    (h : Rewrites offset rest edits out) : ∀ e ∈ edits, e.span.start ≤ e.span.stop := by
  induction h with
  | done => simp
  | keep c _ ih => exact ih
  | change old text _ ih =>
    intro e he
    rcases List.mem_cons.mp he with rfl | he
    · exact Nat.le_add_right _ _
    · exact ih e he

/-- A text without edits is copied. -/
lemma Rewrites.copyAll (offset : ℕ) (cs : List Char) : Rewrites offset cs [] cs := by
  simpa using Rewrites.keepAll cs (.done (offset + bytes cs))

namespace Assembled

variable {offset : ℕ} {rest : List Char} {changes : List Change} {pieces : List Piece}

/-- Changes are made at or behind the offset. -/
lemma le_start (h : Assembled offset rest changes pieces) :
    ∀ c ∈ changes, offset ≤ c.toEdit.span.start :=
  fun _ hc => h.rewrites.le_start _ (List.mem_map_of_mem hc)

/-- Changes stop at or behind a place before which none of them starts. -/
lemma filter_eq_nil (h : Assembled offset rest changes pieces) {n : ℕ}
    (hn : ∀ c ∈ changes, n < c.toEdit.span.start) :
    (changes.map Change.toEdit).filter (fun e => e.span.stop ≤ n) = [] := by
  rw [List.filter_eq_nil_iff]
  intro e he
  have hle := h.rewrites.start_le_stop e he
  obtain ⟨c, hc, rfl⟩ := List.mem_map.mp he
  have hlt := hn c hc
  simp only [decide_eq_true_eq]
  omega

/-- **A character outside the ranges of all changes is copied**, behind what the changes up to it
make of the source before it.

**Proof sketch.** Induction on the assembly. The character stands before the first change, and then
it belongs to the copy before it, or behind the range of the change, and then it belongs to the
rest. -/
theorem exists_copied (h : Assembled offset rest changes pieces) {pre post : List Char} {c : Char}
    (hrest : rest = pre ++ c :: post)
    (hkept : ∀ d ∈ changes, ¬ (d.toEdit.span.start ≤ offset + bytes pre ∧
      offset + bytes pre < d.toEdit.span.stop)) :
    ∃ a b front x y, pieces = a ++ .copied (offset + bytes front) (x ++ c :: y) :: b ∧
      pre = front ++ x ∧
      Rewrites offset pre ((changes.map Change.toEdit).filter fun e =>
        e.span.stop ≤ offset + bytes pre) (piecesText a ++ x) := by
  induction h generalizing pre with
  | rest offset rest =>
    subst hrest
    exact ⟨[], [], [], pre, post, by simp, rfl, by simpa using Rewrites.copyAll offset pre⟩
  | @change offset mid old rest d changes pieces hstart hstop h ih =>
    rcases Text.append_eq_append_cons hrest with ⟨z, rfl, -⟩ | ⟨s, rfl, hbehind⟩
    · -- the character stands before the change
      refine ⟨[], d.piece :: pieces, [], pre, z, by simp, rfl, ?_⟩
      have hnone := (Assembled.change (pre ++ c :: z) old d hstart hstop h).filter_eq_nil
        (n := offset + bytes pre) (by
          have hpos := c.utf8Size_pos
          rw [Text.bytes_append, Text.bytes_cons] at hstart hstop
          intro d' hd'
          rcases List.mem_cons.mp hd' with rfl | hd'
          · omega
          · have hle := h.le_start d' hd'
            omega)
      rw [hnone]
      exact Rewrites.copyAll offset pre
    · rcases Text.append_eq_append_cons hbehind with ⟨z, rfl, -⟩ | ⟨t, rfl, rfl⟩
      · -- the character stands in the range of the change
        refine absurd ?_ (hkept d (by simp))
        have hpos := c.utf8Size_pos
        rw [Text.bytes_append, Text.bytes_cons] at hstop
        rw [hstart, hstop, Text.bytes_append]
        omega
      · have hbytes : offset + bytes (mid ++ (old ++ t)) = d.toEdit.span.stop + bytes t := by
          rw [hstop, Text.bytes_append, Text.bytes_append]
          omega
        rw [hbytes] at hkept ⊢
        obtain ⟨a, b, front, x, y, rfl, rfl, hmade⟩ :=
          ih rfl fun d' hd' => hkept d' (by simp [hd'])
        refine ⟨.copied offset mid :: d.piece :: a, b, mid ++ (old ++ front), x, y, ?_, by simp, ?_⟩
        · have hfront : offset + bytes (mid ++ (old ++ front)) =
              d.toEdit.span.stop + bytes front := by
            rw [hstop, Text.bytes_append, Text.bytes_append]
            omega
          rw [hfront]
          rfl
        · have hd : d.toEdit.span.stop ≤ d.toEdit.span.stop + bytes (front ++ x) :=
            Nat.le_add_right _ _
          simpa [hd] using Rewrites.copy_edit mid old hstart hstop hmade

/-- **A change stands behind what the changes before it make of the source before its range.** -/
theorem exists_changed (h : Assembled offset rest changes pieces) {before after : List Change}
    {c : Change} (hc : changes = before ++ c :: after) :
    ∃ a b front tail, pieces = a ++ c.piece :: b ∧ rest = front ++ tail ∧
      c.toEdit.span.start = offset + bytes front ∧
      Rewrites offset front (before.map Change.toEdit) (piecesText a) := by
  induction h generalizing before with
  | rest => simp at hc
  | @change offset mid old rest d changes pieces hstart hstop h ih =>
    cases before with
    | nil =>
      obtain ⟨rfl, -⟩ := List.cons_eq_cons.mp hc
      refine ⟨[.copied offset mid], pieces, mid, old ++ rest, rfl, rfl, hstart, ?_⟩
      simpa using Rewrites.copyAll offset mid
    | cons d' before =>
      obtain ⟨rfl, hrest⟩ := List.cons_eq_cons.mp hc
      obtain ⟨a, b, front, tail, rfl, rfl, hc', hmade⟩ := ih hrest
      refine ⟨.copied offset mid :: d.piece :: a, b, mid ++ (old ++ front), tail, rfl, by simp, ?_,
        ?_⟩
      · rw [hc', hstop, Text.bytes_append, Text.bytes_append]
        omega
      · simpa using Rewrites.copy_edit mid old hstart hstop hmade

/-- Pieces are visible if no replacement is empty. -/
lemma visible (h : Assembled offset rest changes pieces)
    (hne : ∀ e, .edit e ∈ changes → e.text ≠ "") : ∀ p ∈ pieces, p.Visible := by
  induction h with
  | rest offset rest => simp [Piece.Visible]
  | @change offset mid old rest d changes pieces hstart hstop h ih =>
    intro p hp
    rcases List.mem_cons.mp hp with rfl | hp
    · trivial
    · rcases List.mem_cons.mp hp with rfl | hp
      · cases d with
        | edit e => simpa [Piece.Visible, Change.piece, Edit.piece] using hne e (by simp)
        | insertion lines place => trivial
      · exact ih (fun e he => hne e (by simp [he])) p hp

/-- Segments say of places of the pieces which places of the source they come from.

**Proof sketch.** Induction on the assembly. A segment belongs to the copy before the first change
and then to the start of one of its lines, or it stands at the start of the change, or it belongs to
the rest. In each case the place of the text and the place of the source are behind corresponding
parts. -/
lemma mem_piecesSegments (h : Assembled offset rest changes pieces) {pre : List Char}
    (hpre : bytes pre = offset) (generated : Position) {s : Segment}
    (hs : s ∈ piecesSegments (pre ++ rest) generated pieces) :
    ∃ x y p q, piecesText pieces = x ++ y ∧ pre ++ rest = p ++ q ∧
      s = ⟨generated.after x, Position.start.after p⟩ := by
  induction h generalizing pre generated with
  | rest offset rest =>
    subst hpre
    rw [piecesSegments, Piece.segments, Position.ofOffset_append] at hs
    simp only [piecesSegments, List.append_nil] at hs
    obtain ⟨x, y, hflat, rfl⟩ := mem_lineSegments hs
    rw [Text.flatten_lines] at hflat
    refine ⟨x, y, pre ++ x, y, by simpa using hflat, by rw [hflat, List.append_assoc], ?_⟩
    rw [Position.after_append]
  | @change offset mid old rest d changes pieces hstart hstop h ih =>
    subst hpre
    rw [piecesSegments, piecesSegments] at hs
    rcases List.mem_append.mp hs with hs | hs
    · -- in the copy before the change
      rw [Piece.segments, Position.ofOffset_append] at hs
      obtain ⟨x, y, hflat, rfl⟩ := mem_lineSegments hs
      rw [Text.flatten_lines] at hflat
      refine ⟨x, y ++ piecesText (d.piece :: pieces), pre ++ x, y ++ (old ++ rest), ?_, ?_, ?_⟩
      · simp [hflat]
      · simp [hflat]
      · rw [Position.after_append]
    · rcases List.mem_append.mp hs with hs | hs
      · -- at the start of the change
        have hplace : s = ⟨generated.after mid, Position.start.after (pre ++ mid)⟩ := by
          cases d with
          | edit e =>
            have hstart' : e.span.start = bytes (pre ++ mid) := by
              rw [Text.bytes_append]
              exact hstart
            have hsource : pre ++ (mid ++ (old ++ rest)) = (pre ++ mid) ++ (old ++ rest) := by
              simp
            rw [hsource, Change.piece, Edit.piece, Piece.segments, hstart',
              Position.ofOffset_append] at hs
            simpa using hs
          | insertion lines place => simp [Change.piece, Piece.segments] at hs
        exact ⟨mid, _, pre ++ mid, _, rfl, (List.append_assoc _ _ _).symm, hplace⟩
      · have hcursor : bytes (pre ++ (mid ++ old)) = d.toEdit.span.stop := by
          rw [hstop, Text.bytes_append, Text.bytes_append]
          omega
        have hsource : pre ++ (mid ++ (old ++ rest)) = (pre ++ (mid ++ old)) ++ rest := by simp
        rw [hsource, ← Position.after_append] at hs
        obtain ⟨x, y, p, q, htext, hsplit, rfl⟩ := ih hcursor _ hs
        refine ⟨mid ++ (d.piece.text ++ x), y, p, q, ?_, hsource.trans hsplit, ?_⟩
        · simp [htext]
        · simp [Position.after_append]

end Assembled

/-! ## Exact maps -/

/-- **What the map of a spliced text has to say.** The text is `out`, and `segments` are those of
its map. -/
structure ExactMap (source : List Char) (lines : List String) (place : ℕ) (edits : List Edit)
    (out : List Char) (segments : List Segment) : Prop where
  /-- The places of the segments strictly increase. -/
  ordered : segments.Pairwise fun s t => s.generated < t.generated
  /-- A character of the source outside all ranges stands behind what the changes up to it make of
  the source before it, and is mapped to its own line and column. -/
  copied : ∀ pre c post, source = pre ++ c :: post →
    (∀ e ∈ edits, ¬ (e.span.start ≤ bytes pre ∧ bytes pre < e.span.stop)) →
    ∃ before after, out = before ++ c :: after ∧
      Rewrites 0 pre ((withLines lines place edits).filter fun e => e.span.stop ≤ bytes pre)
        before ∧
      originOf? segments (Position.start.after before) = some (Position.start.after pre)
  /-- A replacement stands behind what the changes before it make of the source before its range,
  and its start is mapped to the start of the range. -/
  replaced : ∀ front e rest, edits = front ++ e :: rest →
    ∃ pre post before after, source = pre ++ post ∧ e.span.start = bytes pre ∧
      out = before ++ (e.text.toList ++ after) ∧
      Rewrites 0 pre (if place ≤ e.span.start then withLines lines place front else front)
        before ∧
      originOf? segments (Position.start.after before) = some (Position.start.after pre)
  /-- The lines stand behind what the edits before their place make of the source before it, and no
  segment starts in them. -/
  inserted : ∃ pre post before after, source = pre ++ post ∧ place = bytes pre ∧
    out = before ++ (linesText lines ++ after) ∧
    Rewrites 0 pre (edits.filter fun e => e.span.start < place) before ∧
    ∀ s ∈ segments, s.generated < Position.start.after before ∨
      Position.start.after (before ++ linesText lines) ≤ s.generated
  /-- Segments stand at places of the text and lead to places of the source. -/
  places : ∀ s ∈ segments, ∃ x y p q, out = x ++ y ∧ source = p ++ q ∧
    s = ⟨Position.start.after x, Position.start.after p⟩
  /-- Lines and columns are no larger than the two texts, so for texts below 2^32 bytes they all
  fit into 32 bits. -/
  bounded : ∀ s ∈ segments,
    s.generated.line ≤ bytes out ∧ s.generated.column ≤ bytes out ∧
      s.origin.line ≤ bytes source ∧ s.origin.column ≤ bytes source

section Pieces

variable {source front tail : List Char} {a b : List Piece}

/-- A character of a copy is mapped to its own place. -/
lemma originOf?_copied (hsource : source = front ++ tail) (hb : ∀ p ∈ b, p.Visible)
    (x y : List Char) (c : Char) :
    originOf? (piecesSegments source .start (a ++ .copied (bytes front) (x ++ c :: y) :: b))
      (Position.start.after (piecesText a ++ x)) = some (Position.start.after (front ++ x)) := by
  refine originOf?_piecesSegments source .start hb rfl ?_
  rw [Piece.segments, hsource, Position.ofOffset_append, Position.after_append]
  exact originOf?_lineSegments (fun l hl => Text.mem_lines hl) _ _ (Text.flatten_lines _)

/-- The start of a replacement is mapped to the start of its range. -/
lemma originOf?_replaced (hsource : source = front ++ tail) (hb : ∀ p ∈ b, p.Visible) {e : Edit}
    (hstart : e.span.start = bytes front) (hne : e.text ≠ "") :
    originOf? (piecesSegments source .start (a ++ e.piece :: b))
      (Position.start.after (piecesText a)) = some (Position.start.after front) := by
  obtain ⟨c, y, htext⟩ : ∃ c y, e.piece.text = [] ++ c :: y :=
    List.exists_cons_of_ne_nil (by simpa [Edit.piece] using hne)
  have hown : originOf? (e.piece.segments source (Position.start.after (piecesText a)))
      ((Position.start.after (piecesText a)).after []) = some (Position.start.after front) := by
    rw [Edit.piece, Piece.segments, hsource, hstart, Position.ofOffset_append]
    exact originOf?_singleton _ _ (x := []) (by simp)
  have h := originOf?_piecesSegments source .start hb htext hown
  rwa [List.append_nil] at h

/-- No segment starts in inserted lines. -/
lemma inserted_unmapped (ha : ∀ p ∈ a, p.Visible) (hb : ∀ p ∈ b, p.Visible) (text : List Char) :
    ∀ s ∈ piecesSegments source .start (a ++ .inserted text :: b),
      s.generated < Position.start.after (piecesText a) ∨
        Position.start.after (piecesText a ++ text) ≤ s.generated := by
  intro s hs
  rw [piecesSegments_append, piecesSegments, Piece.segments, List.nil_append] at hs
  rcases List.mem_append.mp hs with hs | hs
  · exact .inl ((piecesSegments_ascending source .start ha).within s hs).2
  · rw [Position.after_append]
    exact .inr ((piecesSegments_ascending source _ hb).within s hs).1

end Pieces

/-- The changes before an edit: the edits before it, and the lines if their place is not behind its
start.

**Proof sketch.** Edits are ordered. If the place is not behind the start of the edit, no later edit
starts before the place, so the lines are among the changes before. Otherwise all earlier edits
start before the place, so the lines are not. -/
lemma exists_changesWith_eq {source : List Char} (lines : List String) (place : ℕ)
    {front rest : List Edit} {e : Edit} (h : Ranges source ((front ++ e :: rest).map Edit.span)) :
    ∃ before after, changesWith lines place (front ++ e :: rest) = before ++ .edit e :: after ∧
      before.map Change.toEdit =
        if place ≤ e.span.start then withLines lines place front else front := by
  have hord := List.pairwise_map.mp h.ordered
  have hle : ∀ e' ∈ front ++ e :: rest, e'.span.start ≤ e'.span.stop := fun e' he' =>
    (h.fits _ (List.mem_map_of_mem he')).le
  rw [List.pairwise_append, List.pairwise_cons] at hord
  have he := hle e (by simp)
  split
  · next hplace =>
    -- no later edit starts before the place
    have hrest : rest.filter (fun e => e.span.start < place) = [] := by
      rw [List.filter_eq_nil_iff]
      intro e' he'
      have hstop := hord.2.1.1 e' he'
      simp only [decide_eq_true_eq]
      omega
    refine ⟨changesWith lines place front,
      (rest.filter fun e => place ≤ e.span.start).map .edit, ?_, map_toEdit_changesWith _ _ _⟩
    have hlt : ¬ e.span.start < place := by omega
    simp [changesWith, List.filter_append, hrest, hplace, hlt]
  · next hplace =>
    -- all earlier edits start before the place
    have hfront : front.filter (fun e => e.span.start < place) = front := by
      rw [List.filter_eq_self]
      intro e' he'
      have hstop := hord.2.2 e' he' e (by simp)
      have hle' := hle e' (by simp [he'])
      simp only [decide_eq_true_eq]
      omega
    have hlt : e.span.start < place := by omega
    refine ⟨front.map .edit, (rest.filter fun e => e.span.start < place).map .edit ++
      .insertion lines place :: ((front ++ e :: rest).filter fun e =>
        place ≤ e.span.start).map .edit, ?_, by simp [Function.comp_def, Change.toEdit]⟩
    simp [changesWith, List.filter_append, hfront, hlt]

/-- The edits among the changes are the given ones. -/
lemma mem_changesWith {lines : List String} {place : ℕ} {edits : List Edit} {e : Edit}
    (h : .edit e ∈ changesWith lines place edits) : e ∈ edits := by
  simp only [changesWith, List.mem_append, List.mem_map, List.mem_filter, List.mem_cons,
    Change.edit.injEq, reduceCtorEq, false_or] at h
  rcases h with ⟨e', he', rfl⟩ | ⟨e', he', rfl⟩
  · exact he'.1
  · exact he'.1

/-- **The map of a splice is exact.** Let edits of a source be made in ranges of the source, in
source order and disjoint, with replacements that are not empty, and let lines be inserted at a
place that falls inside no range. Then splicing succeeds. The places of the segments of its map
strictly increase, every copied character is mapped to its own line and column, and the start of
every replacement to the start of its range; no segment starts in the lines.

**Proof sketch.** The pieces of the splice copy the source up to each change. In a copy the
generated text and the source go on in parallel, and every line of it has a segment; the segments of
all other pieces stand before or behind the piece. -/
theorem splice_map_exact {source : List Char} {lines : List String} {place : ℕ} {edits : List Edit}
    (hplace : Boundary source place) (hranges : Ranges source (edits.map Edit.span))
    (htext : ∀ e ∈ edits, e.text ≠ "") (hfree : ∀ e ∈ edits, ¬ e.Holds place) :
    ∃ pieces, splice? source lines place edits = some pieces ∧
      ExactMap source lines place edits (piecesText pieces)
        (piecesSegments source .start pieces) := by
  obtain ⟨pieces, hpieces, hmade⟩ := splice?_assembled lines hplace hranges hfree
  have hvisible := hmade.visible fun e he => htext e (mem_changesWith he)
  have hplaces : ∀ s ∈ piecesSegments source .start pieces, ∃ x y p q,
      piecesText pieces = x ++ y ∧ source = p ++ q ∧
        s = ⟨Position.start.after x, Position.start.after p⟩ :=
    fun s hs => hmade.mem_piecesSegments Text.bytes_nil .start hs
  refine ⟨pieces, hpieces, ?_⟩
  constructor
  case ordered => exact (piecesSegments_ascending source .start hvisible).ordered
  case copied =>
    intro pre c post hsource hkept
    obtain ⟨a, b, front, x, y, rfl, rfl, hbefore⟩ := hmade.exists_copied hsource (by
      intro d hd
      rw [Nat.zero_add]
      cases d with
      | edit e => exact hkept e (mem_changesWith hd)
      | insertion lines place =>
        rintro ⟨h, h'⟩
        exact Nat.lt_irrefl _ (h.trans_lt h'))
    rw [map_toEdit_changesWith, Nat.zero_add] at hbefore
    rw [Nat.zero_add] at hvisible ⊢
    refine ⟨piecesText a ++ x, y ++ piecesText b, by simp, hbefore, ?_⟩
    exact originOf?_copied (hsource.trans (List.append_assoc _ _ _))
      (fun p hp => hvisible p (by simp [hp])) x y c
  case replaced =>
    rintro front e rest rfl
    obtain ⟨before, after, hchanges, hbefore⟩ := exists_changesWith_eq lines place hranges
    obtain ⟨a, b, pre, post, rfl, hsource, hstart, hrewrites⟩ := hmade.exists_changed hchanges
    rw [Nat.zero_add] at hstart
    rw [hbefore] at hrewrites
    refine ⟨pre, post, piecesText a, piecesText b, hsource, hstart, ?_, hrewrites, ?_⟩
    · simp [Change.toEdit]
    · exact originOf?_replaced hsource (fun p hp => hvisible p (by simp [hp])) hstart
        (htext e (by simp))
  case inserted =>
    obtain ⟨a, b, pre, post, rfl, hsource, hstart, hrewrites⟩ := hmade.exists_changed rfl
    rw [Nat.zero_add] at hstart
    refine ⟨pre, post, piecesText a, piecesText b, hsource, hstart, by simp [Change.piece], ?_, ?_⟩
    · simpa [Function.comp_def, Change.toEdit] using hrewrites
    · exact inserted_unmapped (fun p hp => hvisible p (by simp [hp]))
        (fun p hp => hvisible p (by simp [hp])) _
  case places => exact hplaces
  case bounded =>
    intro s hs
    obtain ⟨x, y, p, q, hout, hsource, rfl⟩ := hplaces s hs
    have hx := Position.start.after_le x
    have hp := Position.start.after_le p
    rw [hout, hsource, Text.bytes_append, Text.bytes_append]
    simp only [Position.start] at hx hp ⊢
    omega

/-- A source of two lines with a character of two UTF-16 units. -/
def mappedSource : List Char := "a😀b\ncd".toList

/-- A replacement of two lines on the first line, and one on the second line. -/
def mappedEdits : List Edit := [⟨⟨5, 6⟩, "x\ny"⟩, ⟨⟨8, 9⟩, "z"⟩]

/-- The pieces of their splice with one line between the lines of the source. -/
def mappedPieces : List Piece :=
  [.copied 0 ['a', '😀'], .replaced 5 ['x', '\n', 'y'], .copied 6 ['\n'], .inserted ['l', '\n'],
    .copied 7 ['c'], .replaced 8 ['z'], .copied 9 []]

/-- The line feed behind the first replacement, and the second replacement, are mapped to their
lines and columns in the source. -/
theorem splice_map_exact_sample :
    Boundary mappedSource 7 ∧ Ranges mappedSource (mappedEdits.map Edit.span) ∧
    (∀ e ∈ mappedEdits, e.text ≠ "") ∧ (∀ e ∈ mappedEdits, ¬ e.Holds 7) ∧
    splice? mappedSource ["l"] 7 mappedEdits = some mappedPieces ∧
    piecesText mappedPieces = "a😀x\ny\nl\ncz".toList ∧
    ExactMap mappedSource ["l"] 7 mappedEdits (piecesText mappedPieces)
      (piecesSegments mappedSource .start mappedPieces) ∧
    originOf? (piecesSegments mappedSource .start mappedPieces) ⟨1, 1⟩ = some ⟨0, 4⟩ ∧
    originOf? (piecesSegments mappedSource .start mappedPieces) ⟨3, 1⟩ = some ⟨1, 1⟩ := by
  have hplace : Boundary mappedSource 7 := by decide
  have hranges : Ranges mappedSource (mappedEdits.map Edit.span) := by decide
  have htext : ∀ e ∈ mappedEdits, e.text ≠ "" := by decide
  have hfree : ∀ e ∈ mappedEdits, ¬ e.Holds 7 := by decide
  obtain ⟨pieces, hpieces, hexact⟩ := splice_map_exact hplace hranges htext hfree
  have hsplice : splice? mappedSource ["l"] 7 mappedEdits = some mappedPieces := by decide
  obtain rfl : mappedPieces = pieces := Option.some.inj (hsplice.symm.trans hpieces)
  exact ⟨hplace, hranges, htext, hfree, hsplice, by decide, hexact, by decide, by decide⟩

end StyleExtract
