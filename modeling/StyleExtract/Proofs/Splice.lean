import Mathlib.Tactic.Common
import StyleExtract.Proofs.Extraction
import StyleExtract.Proofs.Prologue
import StyleExtract.Transform

/-!
# What splicing gives

A compiled file is its source with some ranges replaced and some lines inserted. This file says what
that means without a cursor: the result is read off the source character by character, and every
character is either copied or belongs to a replaced range.

## Main definitions

* `Rewrites` — a text is a source with edits made.
* `withLines` — edits, and the insertion of lines among them.
* `Assembled` — pieces that copy a source up to each change and make the change.
* `Script.Module.initializers` — the places of the initializers of a module.

## Main results

* `Rewrites.unique` — there is only one such text.
* `spliceFrom?_assembled`, `spliceFrom?_eq_none` — where splicing succeeds, what it gives, and where
  it fails.
* `SourceFile.ensures_classify` — constructs stand in the place of initializers, in source order.
* `splicing_rewrites_source` — splicing the constructs of a module.

## Design

Inserted lines are an edit of an empty range, so that one notion covers replacements and
insertions. The recursion of the splice loop carries a cursor; the lemmas about it split the source
at the cursor, and the edits that are still to be made start at or behind it.
-/

namespace StyleExtract

open Script (Declarator Expr Item Module)
open Text (Boundary Ranges Span bytes)

/-! ## Edits of a text -/

/-- **A text is a source with edits made**, from an offset on: each character is copied, or it
belongs to the range of the next edit and the text of the edit stands in the place of the range. -/
inductive Rewrites : ℕ → List Char → List Edit → List Char → Prop
  /-- At the end of the source nothing is left to do. -/
  | done (offset : ℕ) : Rewrites offset [] [] []
  /-- A character is copied. -/
  | keep {offset : ℕ} (c : Char) {rest : List Char} {edits : List Edit} {out : List Char} :
    Rewrites (offset + c.utf8Size) rest edits out → Rewrites offset (c :: rest) edits (c :: out)
  /-- A range is replaced. -/
  | change {offset : ℕ} (old : List Char) (text : String) {rest : List Char} {edits : List Edit}
    {out : List Char} : Rewrites (offset + bytes old) rest edits out →
    Rewrites offset (old ++ rest) (⟨⟨offset, offset + bytes old⟩, text⟩ :: edits)
      (text.toList ++ out)

namespace Rewrites

variable {offset : ℕ} {rest out : List Char} {edits : List Edit}

/-- Edits start at or behind the offset from which on the source is read. -/
lemma le_start (h : Rewrites offset rest edits out) : ∀ e ∈ edits, offset ≤ e.span.start := by
  induction h with
  | done => simp
  | keep c _ ih =>
    intro e he
    have hle := ih e he
    omega
  | change old text _ ih =>
    intro e he
    rcases List.mem_cons.mp he with rfl | he
    · exact Nat.le_refl _
    · have hle := ih e he
      omega

/-- Copying several characters. -/
lemma keepAll (cs : List Char) : ∀ {offset : ℕ}, Rewrites (offset + bytes cs) rest edits out →
    Rewrites offset (cs ++ rest) edits (cs ++ out) := by
  induction cs with
  | nil =>
    intro offset h
    simpa using h
  | cons c cs ih =>
    intro offset h
    refine .keep c (ih ?_)
    rwa [Text.bytes_cons, ← Nat.add_assoc] at h

/-- Making an edit at the offset. -/
lemma edit {e : Edit} (old : List Char) (hstart : e.span.start = offset)
    (hstop : e.span.stop = offset + bytes old)
    (h : Rewrites (offset + bytes old) rest edits out) :
    Rewrites offset (old ++ rest) (e :: edits) (e.text.toList ++ out) := by
  obtain ⟨⟨start, stop⟩, text⟩ := e
  obtain rfl : start = offset := hstart
  obtain rfl : stop = start + bytes old := hstop
  exact .change old text h

/-- Making the first edit: what stands before its range is copied. -/
lemma copy_edit {e : Edit} (mid old : List Char) (hstart : e.span.start = offset + bytes mid)
    (hstop : e.span.stop = offset + bytes mid + bytes old)
    (h : Rewrites e.span.stop rest edits out) :
    Rewrites offset (mid ++ (old ++ rest)) (e :: edits) (mid ++ (e.text.toList ++ out)) := by
  rw [hstop] at h
  exact keepAll mid (edit old hstart hstop h)

/-- **There is only one text that is a source with given edits made.**

**Proof sketch.** Induction on the first derivation. A character cannot be copied where an edit
starts, since the remaining edits start at or behind the offset (`le_start`), so the second
derivation ends with the same step; the range of an edit determines the characters in it. -/
theorem unique (h : Rewrites offset rest edits out) :
    ∀ {out' : List Char}, Rewrites offset rest edits out' → out = out' := by
  induction h with
  | done offset =>
    intro out' h'
    generalize hr : ([] : List Char) = rest' at h'
    cases h' with
    | done => rfl
    | keep => cases hr
  | @keep offset c rest edits out h ih =>
    intro out' h'
    generalize hr : c :: rest = rest' at h'
    cases h' with
    | done => cases hr
    | keep c' h' =>
      obtain ⟨rfl, rfl⟩ := List.cons_eq_cons.mp hr
      rw [ih h']
    | change old text h' =>
      have hle := h.le_start _ List.mem_cons_self
      have hpos := c.utf8Size_pos
      simp only at hle
      omega
  | @change offset old text rest edits out h ih =>
    intro out' h'
    generalize hr : old ++ rest = rest' at h'
    generalize he : (⟨⟨offset, offset + bytes old⟩, text⟩ : Edit) :: edits = edits' at h'
    cases h' with
    | done => cases he
    | keep c' h' =>
      have hle := h'.le_start _ (he ▸ List.mem_cons_self)
      have hpos := c'.utf8Size_pos
      simp only at hle
      omega
    | change old' text' h' =>
      obtain ⟨hedit, rfl⟩ := List.cons_eq_cons.mp he
      simp only [Edit.mk.injEq, Span.mk.injEq, true_and] at hedit
      obtain ⟨hbytes, rfl⟩ := hedit
      obtain ⟨rfl, rfl⟩ := Text.append_inj_of_bytes hr (by omega)
      rw [ih h']

end Rewrites

/-! ## The splice loop -/

/-- The insertion of lines as an edit. -/
def Edit.insertion (lines : List String) (place : ℕ) : Edit :=
  ⟨⟨place, place⟩, String.ofList (linesText lines)⟩

/-- Edits, and the insertion of lines among them: behind the edits that start before the place. -/
def withLines (lines : List String) (place : ℕ) (edits : List Edit) : List Edit :=
  edits.filter (fun e => e.span.start < place) ++
    Edit.insertion lines place :: edits.filter fun e => place ≤ e.span.start

/-- The place of the lines falls inside the range of an edit. -/
def Edit.Holds (place : ℕ) (e : Edit) : Prop := e.span.start < place ∧ place < e.span.stop

instance (place : ℕ) (e : Edit) : Decidable (e.Holds place) :=
  inferInstanceAs (Decidable (e.span.start < place ∧ place < e.span.stop))

/-- What splicing does to a source: an edit, or the insertion of lines at a place. -/
inductive Change where
  | edit (e : Edit)
  | insertion (lines : List String) (place : ℕ)

/-- A change as an edit. -/
def Change.toEdit : Change → Edit
  | .edit e => e
  | .insertion lines place => .insertion lines place

/-- The piece that a change makes. -/
def Change.piece : Change → Piece
  | .edit e => e.piece
  | .insertion lines _ => .inserted (linesText lines)

/-- The piece of a change has the text of the edit. -/
@[simp] lemma Change.text_piece (c : Change) : c.piece.text = c.toEdit.text.toList := by
  cases c with
  | edit e => rfl
  | insertion lines place => simp [piece, toEdit, Edit.insertion]

/-- The changes of a splice: the edits, and the insertion of lines among them. -/
def changesWith (lines : List String) (place : ℕ) (edits : List Edit) : List Change :=
  (edits.filter fun e => e.span.start < place).map .edit ++
    .insertion lines place :: (edits.filter fun e => place ≤ e.span.start).map .edit

/-- The changes of a splice as edits. -/
@[simp] lemma map_toEdit_changesWith (lines : List String) (place : ℕ) (edits : List Edit) :
    (changesWith lines place edits).map Change.toEdit = withLines lines place edits := by
  simp [changesWith, withLines, Change.toEdit, Function.comp_def]

/-- An edit before the place comes before the lines. -/
lemma changesWith_cons_of_lt (lines : List String) {place : ℕ} {e : Edit} (edits : List Edit)
    (h : e.span.start < place) :
    changesWith lines place (e :: edits) = .edit e :: changesWith lines place edits := by
  have hle : ¬ place ≤ e.span.start := by omega
  simp [changesWith, h, hle]

/-- The lines come before edits that all start at or behind the place. -/
lemma changesWith_of_le (lines : List String) {place : ℕ} {edits : List Edit}
    (h : ∀ e ∈ edits, place ≤ e.span.start) :
    changesWith lines place edits = .insertion lines place :: edits.map .edit := by
  have hnone : edits.filter (fun e => e.span.start < place) = [] := by
    rw [List.filter_eq_nil_iff]
    intro e he
    have hle := h e he
    simp only [decide_eq_true_eq]
    omega
  have hall : edits.filter (fun e => place ≤ e.span.start) = edits := by
    rw [List.filter_eq_self]
    intro e he
    simpa using h e he
  rw [changesWith, hnone, hall, List.map_nil, List.nil_append]

/-- **Pieces are assembled from a source**, from an offset on: up to each change the source is
copied, and the piece of the change stands in the place of its range. -/
inductive Assembled : ℕ → List Char → List Change → List Piece → Prop
  /-- Without changes the rest of the source is copied. -/
  | rest (offset : ℕ) (rest : List Char) : Assembled offset rest [] [.copied offset rest]
  /-- Up to a change the source is copied. -/
  | change {offset : ℕ} (mid old : List Char) {rest : List Char} (c : Change)
    {changes : List Change} {pieces : List Piece} :
    c.toEdit.span.start = offset + bytes mid → c.toEdit.span.stop = offset + bytes mid + bytes old →
    Assembled c.toEdit.span.stop rest changes pieces →
    Assembled offset (mid ++ (old ++ rest)) (c :: changes) (.copied offset mid :: c.piece :: pieces)

/-- Pieces make up the text that is the source with the changes made. -/
lemma Assembled.rewrites {offset : ℕ} {rest : List Char} {changes : List Change}
    {pieces : List Piece} (h : Assembled offset rest changes pieces) :
    Rewrites offset rest (changes.map Change.toEdit) (piecesText pieces) := by
  induction h with
  | rest offset rest => simpa using Rewrites.keepAll rest (.done _)
  | change mid old c hstart hstop _ ih =>
    simpa using Rewrites.copy_edit mid old hstart hstop ih

/-- In ordered edits the others start at or behind the stop of the first one. -/
lemma Text.Ranges.stop_le {cs : List Char} {e : Edit} {edits : List Edit}
    (h : Ranges cs ((e :: edits).map Edit.span)) : ∀ e' ∈ edits, e.span.stop ≤ e'.span.start := by
  have hord := h.ordered
  rw [List.map_cons, List.pairwise_cons] at hord
  exact fun e' he' => hord.1 _ (List.mem_map_of_mem he')

/-- Ordered edits without the first one are ordered. -/
lemma Text.Ranges.tail {cs : List Char} {e : Edit} {edits : List Edit}
    (h : Ranges cs ((e :: edits).map Edit.span)) : Ranges cs (edits.map Edit.span) :=
  h.sublist (List.sublist_cons_self _ _)

section Loop

variable {pre rest : List Char} {edits : List Edit}

/-- A copy from the cursor to a boundary behind it. -/
lemma copy?_eq (pre mid post : List Char) :
    copy? (pre ++ (mid ++ post)) (bytes pre) (bytes pre + bytes mid) =
      some (.copied (bytes pre) mid) := by
  rw [copy?, Text.slice?_eq_some_iff.mpr ⟨pre, post, rfl, rfl, rfl⟩, Option.map_some]

/-- There is no copy that runs backwards. -/
lemma copy?_of_lt {source : List Char} {a b : ℕ} (h : b < a) : copy? source a b = none := by
  rw [copy?, Text.slice?_of_lt h, Option.map_none]

/-- The characters before an edit and those in its range: up to the edit the source can be copied,
and behind it the source is split at the stop of the edit.

**Proof sketch.** The start of the edit is a boundary behind the characters before, and its stop is
one behind its start, so the rest of the source is cut twice. -/
lemma exists_split_edit {e : Edit} (hfit : e.span.Fits (pre ++ rest))
    (hle : bytes pre ≤ e.span.start) :
    ∃ mid old post, rest = mid ++ (old ++ post) ∧ pre ++ rest = (pre ++ mid ++ old) ++ post ∧
      e.span.start = bytes pre + bytes mid ∧ e.span.stop = bytes pre + bytes mid + bytes old ∧
      e.span.stop = bytes (pre ++ mid ++ old) ∧
      copy? (pre ++ rest) (bytes pre) e.span.start = some (.copied (bytes pre) mid) := by
  obtain ⟨mid, tail, rfl, hstart⟩ := Text.exists_split hfit.start hle
  have hstop : Boundary ((pre ++ mid) ++ tail) e.span.stop := by simpa using hfit.stop
  obtain ⟨old, post, rfl, hold⟩ := Text.exists_split hstop (by
    rw [Text.bytes_append, ← hstart]
    exact hfit.le)
  refine ⟨mid, old, post, rfl, by simp, hstart, ?_, ?_, ?_⟩
  · rw [hold, Text.bytes_append]
  · rw [hold, ← Text.bytes_append]
  · rw [hstart]
    exact copy?_eq pre mid (old ++ post)

/-- **Once the lines are placed, splicing makes the remaining edits.**

**Proof sketch.** Induction on the edits. Up to the first edit the source is copied; behind its
range the loop goes on with the next edit, which starts there or later. -/
lemma spliceRest?_assembled : ∀ (edits : List Edit) (pre rest : List Char),
    Ranges (pre ++ rest) (edits.map Edit.span) → (∀ e ∈ edits, bytes pre ≤ e.span.start) →
    ∃ pieces, spliceRest? (pre ++ rest) (bytes pre) edits = some pieces ∧
      Assembled (bytes pre) rest (edits.map .edit) pieces := by
  intro edits
  induction edits with
  | nil =>
    intro pre rest _ _
    have hcopy := copy?_eq pre rest []
    rw [List.append_nil, ← Text.bytes_append] at hcopy
    exact ⟨[.copied (bytes pre) rest], by simp [spliceRest?, hcopy], .rest _ _⟩
  | cons e edits ih =>
    intro pre rest hranges hle
    obtain ⟨mid, old, post, hrest, hsource, hstart, hstop, hcursor, hcopy⟩ :=
      exists_split_edit (hranges.fits _ (by simp)) (hle e (by simp))
    obtain ⟨pieces, hpieces, hmade⟩ := ih (pre ++ mid ++ old) post (hsource ▸ hranges.tail)
      (hcursor ▸ hranges.stop_le)
    rw [← hsource, ← hcursor] at hpieces
    rw [← hcursor] at hmade
    refine ⟨.copied (bytes pre) mid :: e.piece :: pieces, ?_, ?_⟩
    · simp [spliceRest?, hcopy, hpieces]
    · rw [hrest]
      exact .change mid old (.edit e) hstart hstop hmade

/-- Placing the lines: the source is copied up to the place, and the remaining edits are made behind
the lines.

**Proof sketch.** The place is a boundary behind the characters before, so the source can be copied
up to it. No edit starts before the place, so all of them are made in what follows
(`spliceRest?_assembled`). -/
lemma exists_insert (lines : List String) {place : ℕ} (hplace : Boundary (pre ++ rest) place)
    (hle : bytes pre ≤ place) (hranges : Ranges (pre ++ rest) (edits.map Edit.span))
    (hedits : ∀ e ∈ edits, place ≤ e.span.start) :
    ∃ before tail, copy? (pre ++ rest) (bytes pre) place = some before ∧
      spliceRest? (pre ++ rest) place edits = some tail ∧
      Assembled (bytes pre) rest (changesWith lines place edits)
        (before :: .inserted (linesText lines) :: tail) := by
  obtain ⟨mid, post, rfl, rfl⟩ := Text.exists_split hplace hle
  have hsource : pre ++ (mid ++ post) = (pre ++ mid) ++ post := by simp
  rw [changesWith_of_le lines hedits]
  rw [← Text.bytes_append] at hedits
  obtain ⟨tail, htail, hrest⟩ := spliceRest?_assembled edits (pre ++ mid) post
    (hsource ▸ hranges) hedits
  rw [← hsource, Text.bytes_append] at htail
  rw [Text.bytes_append] at hrest
  refine ⟨.copied (bytes pre) mid, tail, copy?_eq pre mid post, htail, ?_⟩
  exact .change mid [] (.insertion lines (bytes pre + bytes mid)) rfl rfl hrest

/-- **While no range of an edit holds the place, splicing makes all edits and inserts the lines
once.**

**Proof sketch.** Induction on the edits. An edit before the place is made, and its range stops at
or before the place, so the loop goes on from there. At the first other edit, or when there is none,
the lines are placed. -/
theorem spliceFrom?_assembled (lines : List String) {place : ℕ} :
    ∀ (edits : List Edit) (pre rest : List Char), Boundary (pre ++ rest) place →
      bytes pre ≤ place → Ranges (pre ++ rest) (edits.map Edit.span) →
      (∀ e ∈ edits, bytes pre ≤ e.span.start) → (∀ e ∈ edits, ¬ e.Holds place) →
      ∃ pieces, spliceFrom? (pre ++ rest) lines place (bytes pre) edits = some pieces ∧
        Assembled (bytes pre) rest (changesWith lines place edits) pieces := by
  intro edits
  induction edits with
  | nil =>
    intro pre rest hplace hle hranges _ _
    obtain ⟨before, tail, hcopy, htail, hmade⟩ := exists_insert lines hplace hle hranges (by simp)
    exact ⟨_, by simp [spliceFrom?, hcopy, htail], hmade⟩
  | cons e edits ih =>
    intro pre rest hplace hle hranges hstarts hholds
    have hfit := hranges.fits e.span (by simp)
    by_cases hbehind : place ≤ e.span.start
    · have hedits : ∀ e' ∈ e :: edits, place ≤ e'.span.start := by
        intro e' he'
        rcases List.mem_cons.mp he' with rfl | he'
        · exact hbehind
        · have hstop := hranges.stop_le e' he'
          have hfit' := hfit.le
          omega
      obtain ⟨before, tail, hcopy, htail, hmade⟩ := exists_insert lines hplace hle hranges hedits
      exact ⟨_, by simp [spliceFrom?, hbehind, hcopy, htail], hmade⟩
    · obtain ⟨mid, old, post, hrest, hsource, hstart, hstop, hcursor, hcopy⟩ :=
        exists_split_edit hfit (hstarts e (by simp))
      -- the range of the edit starts before the place and does not hold it
      have hpast : e.span.stop ≤ place := by
        by_contra hlt
        exact hholds e (by simp) ⟨by omega, by omega⟩
      obtain ⟨pieces, hpieces, hmade⟩ := ih (pre ++ mid ++ old) post (hsource ▸ hplace)
        (hcursor ▸ hpast) (hsource ▸ hranges.tail) (hcursor ▸ hranges.stop_le)
        fun e' he' => hholds e' (by simp [he'])
      rw [← hsource, ← hcursor] at hpieces
      rw [← hcursor] at hmade
      refine ⟨.copied (bytes pre) mid :: e.piece :: pieces, ?_, ?_⟩
      · simp [spliceFrom?, hbehind, hcopy, hpieces]
      · rw [hrest, changesWith_cons_of_lt lines edits (by omega)]
        exact .change mid old (.edit e) hstart hstop hmade

/-- The pieces of a splice are assembled from the whole source. -/
lemma splice?_assembled {source : List Char} (lines : List String) {place : ℕ}
    (hplace : Boundary source place) {edits : List Edit}
    (hranges : Ranges source (edits.map Edit.span)) (hfree : ∀ e ∈ edits, ¬ e.Holds place) :
    ∃ pieces, splice? source lines place edits = some pieces ∧
      Assembled 0 source (changesWith lines place edits) pieces :=
  spliceFrom?_assembled lines edits [] source hplace (Nat.zero_le _) hranges
    (fun _ _ => Nat.zero_le _) hfree

/-- Behind the place of the lines there is no way to place them. -/
lemma spliceFrom?_of_lt {source : List Char} (lines : List String) {place cursor : ℕ}
    (hlt : place < cursor) {edits : List Edit} (hstarts : ∀ e ∈ edits, cursor ≤ e.span.start) :
    spliceFrom? source lines place cursor edits = none := by
  cases edits with
  | nil => simp [spliceFrom?, copy?_of_lt hlt]
  | cons e edits =>
    have hle := hstarts e (by simp)
    have hbehind : place ≤ e.span.start := by omega
    simp [spliceFrom?, hbehind, copy?_of_lt hlt]

/-- **Where the range of an edit holds the place, splicing fails.**

**Proof sketch.** Induction on the edits. An edit that holds the place starts before it, so the loop
makes the edit first and then stands behind the place. -/
theorem spliceFrom?_eq_none {source : List Char} (lines : List String) {place : ℕ} :
    ∀ (edits : List Edit) (cursor : ℕ), Ranges source (edits.map Edit.span) →
      (∃ e ∈ edits, e.Holds place) → spliceFrom? source lines place cursor edits = none := by
  intro edits
  induction edits with
  | nil =>
    rintro cursor - ⟨e, he, -⟩
    cases he
  | cons e edits ih =>
    rintro cursor hranges ⟨e', he', hholds⟩
    have hfit := (hranges.fits e.span (by simp)).le
    have hlt : ¬ place ≤ e.span.start := by
      have hstart := hholds.1
      rcases List.mem_cons.mp he' with rfl | he'
      · omega
      · have hstop := hranges.stop_le e' he'
        omega
    have hrest : spliceFrom? source lines place e.span.stop edits = none := by
      rcases List.mem_cons.mp he' with rfl | he'
      · exact spliceFrom?_of_lt lines hholds.2 hranges.stop_le
      · exact ih e.span.stop hranges.tail ⟨e', he', hholds⟩
    cases hcopy : copy? source cursor e.span.start <;> simp [spliceFrom?, hlt, hcopy, hrest]

/-- **Splicing succeeds exactly where no range of an edit holds the place**, and gives the source
with the edits made and the lines inserted.

**Proof sketch.** If an edit holds the place, a copy would run backwards and splicing fails. If none
does, the pieces assemble the source with all changes made (`splice?_assembled`), and assembled
pieces make up the rewritten text. -/
theorem splice?_spec {source : List Char} (lines : List String) {place : ℕ}
    (hplace : Boundary source place) {edits : List Edit}
    (hranges : Ranges source (edits.map Edit.span)) :
    ((splice? source lines place edits).isSome = true ↔ ∀ e ∈ edits, ¬ e.Holds place) ∧
    ∀ pieces, splice? source lines place edits = some pieces →
      Rewrites 0 source (withLines lines place edits) (piecesText pieces) := by
  by_cases hholds : ∃ e ∈ edits, e.Holds place
  · have hnone : splice? source lines place edits = none :=
      spliceFrom?_eq_none lines edits 0 hranges hholds
    obtain ⟨e, he, heholds⟩ := hholds
    refine ⟨?_, by simp [hnone]⟩
    simp only [hnone, Option.isSome_none, Bool.false_eq_true, false_iff]
    exact fun h => h e he heholds
  · have hfree : ∀ e ∈ edits, ¬ e.Holds place := fun e he h => hholds ⟨e, he, h⟩
    obtain ⟨pieces, hsome, hmade⟩ := splice?_assembled lines hplace hranges hfree
    refine ⟨by simpa [hsome] using hfree, fun pieces' h => ?_⟩
    obtain rfl : pieces = pieces' := by simpa [hsome] using h
    simpa using hmade.rewrites

end Loop

/-! ## The places of constructs -/

/-- The places of the initializers of the variables that a module defines, in source order. -/
def Script.Module.initializers (m : Module) : List Span :=
  (m.items.flatMap SourceFile.definedVariables).filterMap fun d => d.init.map Expr.span

namespace SourceFile

open Extract

variable (f : SourceFile)

/-- A construct stands in the place of its initializer.

**Proof sketch.** Every way to read an initializer as a construct gives the construct the range of
the initializer, so only the branches have to be gone through. -/
lemma ensures_classifyInit (varName : String) (init : Expr) :
    Ensures (f.classifyInit varName init) fun r => ∀ d ∈ r, d.span = init.span := by
  have hnone : Ensures (pure none) fun r : Option Declaration => ∀ d ∈ r, d.span = init.span :=
    ensures_pure (by simp)
  unfold classifyInit
  split
  · refine ensures_then fun kind? => ?_
    split
    · exact hnone
    · refine ensures_then fun css? => ?_
      split
      · exact ensures_pure (by simp [Declaration.span, Expr.span])
      · exact ensures_then fun _ => hnone
  · next span _ callee args =>
    have hvariants : ∀ kind, Ensures (f.variantCall kind varName span (plainArguments args))
        fun r => ∀ d ∈ r, d.span = span := by
      intro kind
      unfold variantCall
      split
      · split
        · exact ensures_then fun v => ensures_pure (by simp [Declaration.span])
        · exact ensures_pure (by simp)
      · exact ensures_pure (by simp)
    have hrender : Ensures (f.renderAs varName span (plainArguments args))
        fun r => ∀ d ∈ r, d.span = span := by
      unfold renderAs
      split
      · split
        · refine ensures_then fun source => ensures_then fun target? => ?_
          split
          · exact ensures_pure (by simp [Declaration.span])
          · exact ensures_pure (by simp)
        · exact ensures_pure (by simp)
      · exact ensures_pure (by simp)
    split
    · exact hvariants .component
    · exact hvariants .className
    · exact hrender
    · exact hnone
  · exact hnone

/-- **Constructs stand in the places of initializers, in source order.**

**Proof sketch.** Each variable gives at most one construct, in the place of its initializer. So
along the list of variables the ranges of the constructs are those of some of the initializers. -/
theorem ensures_classify (m : Module) :
    Ensures (f.classify m.items) fun found =>
      (found.map Declaration.span).Sublist m.initializers := by
  have hdecl : ∀ d : Declarator, Ensures (f.classifyDeclarator d) fun r =>
      ∀ c ∈ r, ∃ init, d.init = some init ∧ c.span = init.span := by
    intro d
    unfold classifyDeclarator
    split
    · next name init _ hinit =>
      intro log r log' hrun c hc
      exact ⟨init, hinit, f.ensures_classifyInit name init log r log' hrun c hc⟩
    · exact ensures_pure (by simp)
  unfold classify
  refine ensures_bind _ (ensures_mapM hdecl _) fun found hfound => ensures_pure ?_
  unfold Script.Module.initializers
  generalize m.items.flatMap definedVariables = ds at hfound ⊢
  induction hfound with
  | nil => simp
  | @cons d r ds rs hr _ ih =>
    cases r with
    | none =>
      cases hinit : d.init with
      | none => simpa [hinit] using ih
      | some init => simpa [hinit] using ih.cons _
    | some c =>
      obtain ⟨init, hinit, hspan⟩ := hr c rfl
      simpa [hinit, hspan] using ih

end SourceFile

/-- What is emitted for a definition. -/
lemma exists_of_emit_variants {naming : Naming} {g g' : Generator} {v : VariantUse}
    {e : Emitted} (h : emit naming g (.variants v) = .ok (e, g')) :
    ∃ r, g.variants v (naming.ofVariants v) = .ok (r, g') ∧
      e = ⟨v.span, v.variants.css? (naming.ofVariants v), r⟩ := by
  simp only [emit, bind, Except.bind] at h
  cases hv : g.variants v (naming.ofVariants v) with
  | error err => simp [hv] at h
  | ok out =>
    rw [hv] at h
    cases h
    exact ⟨out.1, rfl, rfl⟩

/-- A construct is replaced in its own place. -/
lemma span_emit {naming : Naming} {g g' : Generator} {d : Declaration} {e : Emitted}
    (h : emit naming g d = .ok (e, g')) : e.span = d.span := by
  cases d with
  | construct c =>
    cases h
    rfl
  | renderAs r =>
    cases h
    rfl
  | variants v =>
    obtain ⟨r, -, rfl⟩ := exists_of_emit_variants h
    rfl

/-- What is emitted for several constructs: what the first one gives, then what the others give. -/
lemma exists_of_emitAll_cons {naming : Naming} {g g' : Generator} {d : Declaration}
    {ds : List Declaration} {emitted : List Emitted}
    (h : emitAll naming g (d :: ds) = .ok (emitted, g')) :
    ∃ e g₁ es, emit naming g d = .ok (e, g₁) ∧ emitAll naming g₁ ds = .ok (es, g') ∧
      emitted = e :: es := by
  simp only [emitAll, bind, Except.bind] at h
  cases he : emit naming g d with
  | error err => simp [he] at h
  | ok out =>
    obtain ⟨e, g₁⟩ := out
    cases hes : emitAll naming g₁ ds with
    | error err => simp [he, hes] at h
    | ok out =>
      obtain ⟨es, g₂⟩ := out
      simp only [he, hes, pure, Except.pure] at h
      cases h
      exact ⟨e, g₁, es, rfl, hes, rfl⟩

/-- All constructs are replaced in their own places. -/
lemma map_span_emitAll {naming : Naming} : ∀ {found : List Declaration} {g g' : Generator}
    {emitted : List Emitted}, emitAll naming g found = .ok (emitted, g') →
      emitted.map Emitted.span = found.map Declaration.span := by
  intro found
  induction found with
  | nil =>
    intro g g' emitted h
    cases h
    rfl
  | cons d found ih =>
    intro g g' emitted h
    obtain ⟨e, g₁, es, he, hes, rfl⟩ := exists_of_emitAll_cons h
    rw [List.map_cons, List.map_cons, span_emit he, ih hes]

/-! ## Splicing a module -/

section Output

variable {f : SourceFile} {m : Module} {log log' : List LogEntry} {found : List Declaration}
  {naming : Naming} {g g' : Generator} {emitted : List Emitted} {source : String} {place : ℕ}

/-- The edits of a module are made in the places of its constructs. -/
lemma map_span_edit (hemit : emitAll naming g found = .ok (emitted, g')) :
    (emitted.map Emitted.edit).map Edit.span = found.map Declaration.span := by
  rw [List.map_map, ← map_span_emitAll hemit]
  rfl

/-- The edits of a module are made in ranges of its text, in source order. -/
lemma ranges_edits (hfound : (f.classify m.items).run.run log = (.ok found, log'))
    (hemit : emitAll naming g found = .ok (emitted, g'))
    (hinits : Ranges source.toList m.initializers) :
    Ranges source.toList ((emitted.map Emitted.edit).map Edit.span) := by
  rw [map_span_edit hemit]
  exact hinits.sublist (f.ensures_classify m log found log' hfound)

/-- The new text is that of the pieces of the splice. -/
lemma output?_eq (hpoint : m.insertionPoint? source.toList = some place) (id : String)
    (lines ids : List String) (emitted : List Emitted) :
    output? id source m lines emitted ids =
      (splice? source.toList lines place (emitted.map Emitted.edit)).map fun pieces =>
        ⟨String.ofList (piecesText pieces),
          ⟨id, source, piecesSegments source.toList .start pieces⟩, ids⟩ := by
  unfold output?
  dsimp only
  rw [hpoint]
  cases h : splice? source.toList lines place (emitted.map Emitted.edit) <;> simp [h]

/-- There is a new text exactly if the place falls inside no replaced range. -/
lemma output?_isSome_iff (hfound : (f.classify m.items).run.run log = (.ok found, log'))
    (hemit : emitAll naming g found = .ok (emitted, g'))
    (hinits : Ranges source.toList m.initializers)
    (hpoint : m.insertionPoint? source.toList = some place)
    (hplace : Boundary source.toList place) (id : String) (lines ids : List String) :
    (output? id source m lines emitted ids).isSome = true ↔
      ∀ d ∈ found, ¬ (d.span.start < place ∧ place < d.span.stop) := by
  have hsome := (splice?_spec lines hplace (ranges_edits hfound hemit hinits)).1
  have hedits : (∀ e ∈ emitted.map Emitted.edit, ¬ e.Holds place) ↔
      ∀ s ∈ (emitted.map Emitted.edit).map Edit.span, ¬ (s.start < place ∧ place < s.stop) := by
    simp only [List.forall_mem_map, Edit.Holds]
  rw [output?_eq hpoint, Option.isSome_map, hsome, hedits, map_span_edit hemit, List.forall_mem_map]

/-- **Splicing the constructs of a module.** Let the items and the initializers of a module be
ranges of its text, in source order and disjoint. Then there is a place for the inserted lines, and
splicing succeeds exactly if the place falls inside no replaced range. Whenever it succeeds, the
result is the one text that is the source with every replaced range replaced and the lines inserted
once at the place.

**Proof sketch.** The constructs stand in the places of initializers (`ensures_classify`), so their
edits are ordered and disjoint, and splicing them makes the changes one by one (`splice?_spec`). At
most one text is the source with given changes made (`Rewrites.unique`). -/
theorem splicing_rewrites_source
    (hfound : (f.classify m.items).run.run log = (.ok found, log'))
    (hemit : emitAll naming g found = .ok (emitted, g'))
    (hitems : Ranges source.toList (m.items.map Item.span))
    (hinits : Ranges source.toList m.initializers) (id : String) (lines ids : List String) :
    ∃ place, m.insertionPoint? source.toList = some place ∧
      ((output? id source m lines emitted ids).isSome = true ↔
        ∀ d ∈ found, ¬ (d.span.start < place ∧ place < d.span.stop)) ∧
      ∀ out, output? id source m lines emitted ids = some out →
        ∀ text, Rewrites 0 source.toList (withLines lines place (emitted.map Emitted.edit)) text ↔
          text = out.code.toList := by
  obtain ⟨place, hpoint, hplace⟩ := Script.Module.exists_insertionPoint hitems
  refine ⟨place, hpoint, output?_isSome_iff hfound hemit hinits hpoint hplace id lines ids, ?_⟩
  intro out hout text
  rw [output?_eq hpoint, Option.map_eq_some_iff] at hout
  obtain ⟨pieces, hpieces, rfl⟩ := hout
  have hmade := (splice?_spec lines hplace (ranges_edits hfound hemit hinits)).2 pieces hpieces
  rw [String.toList_ofList]
  constructor
  · intro h
    exact h.unique hmade
  · rintro rfl
    exact hmade

end Output

/-- A directive, a construct on its line and a construct on the next line. -/
def spliceSource : String := "\"a\";const x=css`b`;\nconst y=css`c`"

/-- The tree of this source. -/
def spliceModule : Module where
  hashbang := false
  items :=
    [.expression ⟨0, 4⟩ (.text ⟨0, 3⟩ "a"),
      .variables ⟨4, 19⟩ false
        [⟨some "x", some (.tagged ⟨12, 18⟩ (.ident ⟨12, 15⟩ "css") ⟨15, 18⟩ [])⟩],
      .variables ⟨20, 34⟩ false
        [⟨some "y", some (.tagged ⟨28, 34⟩ (.ident ⟨28, 31⟩ "css") ⟨31, 34⟩ [])⟩]]

/-- The file with this source. -/
def spliceFile : SourceFile where
  id := "f.js"
  chars := spliceSource.toList
  imports := Imports.empty.bind .css "css"
  skipLevel := .debug

/-- The constructs of this source. -/
def spliceFound : List Declaration :=
  [.construct ⟨.scopedClass, "x", "b", ⟨12, 18⟩⟩, .construct ⟨.scopedClass, "y", "c", ⟨28, 34⟩⟩]

/-- What the constructs give. -/
def spliceEmitted : List Emitted :=
  [⟨⟨12, 18⟩, some ".ss-x-f \x7b b \x7d", ⟨.name "ss-x-f", none⟩⟩,
    ⟨⟨28, 34⟩, some ".ss-y-f \x7b c \x7d", ⟨.name "ss-y-f", none⟩⟩]

/-- One construct is replaced before the inserted line and one behind it. -/
theorem splicing_rewrites_source_sample :
    Ranges spliceSource.toList (spliceModule.items.map Item.span) ∧
    Ranges spliceSource.toList spliceModule.initializers ∧
    ∃ out, output? "f.js" spliceSource spliceModule ["l"] spliceEmitted [] = some out ∧
      out.code = "\"a\";const x=\"ss-x-f\";\nl\nconst y=\"ss-y-f\"" ∧
      Rewrites 0 spliceSource.toList (withLines ["l"] 20 (spliceEmitted.map Emitted.edit))
        out.code.toList := by
  have hfound : (spliceFile.classify spliceModule.items).run.run [] = (.ok spliceFound, []) := by
    change (_ : Except Failure (List Declaration) × List LogEntry) = _
    decide +kernel
  have hemit : emitAll (.ofFile .standard "f.js") ⟨"f.js", 4, 0, {}⟩ spliceFound =
      .ok (spliceEmitted, ⟨"f.js", 4, 0, {}⟩) := by rfl
  have hitems : Ranges spliceSource.toList (spliceModule.items.map Item.span) := by decide +kernel
  have hinits : Ranges spliceSource.toList spliceModule.initializers := by decide +kernel
  obtain ⟨place, hplace, hsome, hmade⟩ :=
    splicing_rewrites_source hfound hemit hitems hinits "f.js" ["l"] []
  obtain rfl : place = 20 := by
    have h : spliceModule.insertionPoint? spliceSource.toList = some 20 := by decide +kernel
    simpa [h] using hplace.symm
  obtain ⟨out, hout⟩ := Option.isSome_iff_exists.mp (hsome.mpr (by decide))
  have hcode : (output? "f.js" spliceSource spliceModule ["l"] spliceEmitted []).map Output.code =
      some "\"a\";const x=\"ss-x-f\";\nl\nconst y=\"ss-y-f\"" := by decide +kernel
  rw [hout] at hcode
  exact ⟨hitems, hinits, out, hout, by simpa using hcode, (hmade out hout _).mpr rfl⟩

end StyleExtract
