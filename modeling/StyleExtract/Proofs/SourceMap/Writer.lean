import Mathlib.Data.List.Induction
import Mathlib.Tactic.Common
import StyleExtract.Proofs.SourceMap.Segments
import StyleExtract.Transform

/-!
# Writing a compiled file step by step

A compiled file can be written by a writer that goes through the edits once. It copies, inserts and
replaces, keeps the position that it has reached, and looks the place of every copied line up in the
list of all line starts of the source. This file defines the writer and shows that what it writes is
what the pieces of a splice say (`splice?`), where the two texts are followed side by side and no
place is looked up.

## Main definitions

* `lineStarts` — the offsets at which the lines of a source start.
* `originalPosition?` — a position, looked up among the line starts.
* `Writer` — a writer, with `Writer.copy?`, `Writer.insert` and `Writer.replace?`.
* `write?` — the whole loop.

## Main results

* `pairwise_lineStarts` — the line starts ascend, so an offset parts them.
* `originalPosition?_append` — the look-up finds the position behind the characters before.
* `Writer.copy?_eq` — a copy that looks up the place of every line gives the segments of its lines.
* `write?_eq` — the loop writes the pieces of the splice.
* `output?_eq_write` — a compiled file is what the loop writes.
-/

namespace StyleExtract

open Text (bytes slice? units)

/-! ## Line starts -/

/-- The offsets behind the line feeds of some text that starts at an offset. -/
def startsBehind : ℕ → List Char → List ℕ
  | _, [] => []
  | offset, c :: cs =>
    if c = '\n' then (offset + c.utf8Size) :: startsBehind (offset + c.utf8Size) cs
    else startsBehind (offset + c.utf8Size) cs

/-- **The offsets at which the lines of a source start.** -/
def lineStarts (source : List Char) : List ℕ := 0 :: startsBehind 0 source

/-- The number of elements before the first one that fails a test. -/
def partitionPoint (test : ℕ → Bool) (l : List ℕ) : ℕ := (l.takeWhile test).length

/-- **The position of an offset**, looked up: the last line that starts at or before it, and the
units between. There is none where the offset is inside a character. -/
def originalPosition? (source : List Char) (offset : ℕ) : Option Position := do
  let line := partitionPoint (· ≤ offset) (lineStarts source) - 1
  let first ← (lineStarts source)[line]?
  let before ← slice? source first offset
  return ⟨line, units before⟩

/-- The line starts of a text in two parts. -/
lemma startsBehind_append (offset : ℕ) (a b : List Char) :
    startsBehind offset (a ++ b) = startsBehind offset a ++ startsBehind (offset + bytes a) b := by
  induction a generalizing offset with
  | nil => simp [startsBehind]
  | cons c a ih =>
    rw [List.cons_append, startsBehind, startsBehind, ih, Text.bytes_cons, Nat.add_assoc]
    split <;> rfl

/-- Line starts stand behind the offset of the text and not behind the text. -/
lemma mem_startsBehind {offset n : ℕ} {cs : List Char} (h : n ∈ startsBehind offset cs) :
    offset < n ∧ n ≤ offset + bytes cs := by
  induction cs generalizing offset with
  | nil => cases h
  | cons c cs ih =>
    have hpos := c.utf8Size_pos
    have hrest : n ∈ startsBehind (offset + c.utf8Size) cs →
        offset < n ∧ n ≤ offset + bytes (c :: cs) := fun hn => by
      have hbounds := ih hn
      rw [Text.bytes_cons]
      omega
    rw [startsBehind] at h
    split at h
    · rcases List.mem_cons.mp h with rfl | h
      · rw [Text.bytes_cons]
        omega
      · exact hrest h
    · exact hrest h

/-- The line starts of a source ascend, so an offset parts them in two. -/
lemma pairwise_lineStarts (source : List Char) : (lineStarts source).Pairwise (· < ·) := by
  have hbehind : ∀ offset, (offset :: startsBehind offset source).Pairwise (· < ·) := by
    induction source with
    | nil => exact fun _ => List.pairwise_singleton _ _
    | cons c cs ih =>
      intro offset
      refine List.pairwise_cons.mpr ⟨fun n hn => (mem_startsBehind hn).1, ?_⟩
      rw [startsBehind]
      split
      · exact ih _
      · exact (ih (offset + c.utf8Size)).of_cons
  exact hbehind 0

/-- Characters without a line feed start no line. -/
lemma startsBehind_of_notMem (offset : ℕ) {cs : List Char} (h : '\n' ∉ cs) :
    startsBehind offset cs = [] := by
  induction cs generalizing offset with
  | nil => rfl
  | cons c cs ih =>
    rw [List.mem_cons, not_or] at h
    rw [startsBehind, if_neg (Ne.symm h.1), ih _ h.2]

/-- **A text is lines and a last line**: the lines before start as many lines as they have line
feeds, and the last of these is the one behind them.

**Proof sketch.** Induction on the text from its end. A character that is no line feed goes on with
the last line. A line feed ends it, so the text is all lines and the next line starts behind it. -/
lemma exists_lastLine (pre : List Char) : ∃ a b, pre = a ++ b ∧ '\n' ∉ b ∧
    (startsBehind 0 a).length = (Position.start.after a).line ∧
    (Position.start.after a).column = 0 ∧ (0 :: startsBehind 0 a).getLast? = some (bytes a) := by
  induction pre using List.reverseRecOn with
  | nil => exact ⟨[], [], rfl, by simp, rfl, rfl, rfl⟩
  | append_singleton pre c ih =>
    obtain ⟨a, b, rfl, hb, hlength, hcolumn, hlast⟩ := ih
    by_cases hc : c = '\n'
    · subst hc
      -- the text is all lines now, and nothing is left of the last one
      have hstarts : startsBehind 0 (a ++ b ++ ['\n']) =
          startsBehind 0 a ++ [bytes (a ++ b ++ ['\n'])] := by
        rw [List.append_assoc, startsBehind_append, startsBehind_append,
          startsBehind_of_notMem _ hb, List.nil_append]
        simp [startsBehind, Text.bytes_append, Nat.add_assoc]
      refine ⟨a ++ b ++ ['\n'], [], by simp, by simp, ?_, ?_, ?_⟩
      · rw [hstarts, List.length_append, hlength, Position.after_append, Position.after_append,
          Position.after_of_notMem _ hb]
        rfl
      · rw [Position.after_append]
        rfl
      · rw [hstarts, ← List.cons_append, List.getLast?_append]
        rfl
    · refine ⟨a, b ++ [c], by simp, ?_, hlength, hcolumn, hlast⟩
      simp [hb, Ne.symm hc]

/-- **The look-up finds the position behind the characters before**, as long as these are whole.

**Proof sketch.** The line starts up to an offset are those of the characters before it, since all
others stand behind. So the last of them is the start of the last line of these characters, and its
number is that of their line feeds. -/
theorem originalPosition?_append (pre rest : List Char) :
    originalPosition? (pre ++ rest) (bytes pre) = some (.ofOffset (pre ++ rest) (bytes pre)) := by
  obtain ⟨a, b, rfl, hb, hlength, hcolumn, hlast⟩ := exists_lastLine pre
  have hstarts : lineStarts (a ++ b ++ rest) =
      (0 :: startsBehind 0 a) ++ startsBehind (bytes (a ++ b)) rest := by
    rw [lineStarts, startsBehind_append, startsBehind_append, startsBehind_of_notMem _ hb,
      List.append_nil, Nat.zero_add, List.cons_append]
  have hbefore : ∀ n ∈ 0 :: startsBehind 0 a, decide (n ≤ bytes (a ++ b)) = true := by
    intro n hn
    rw [decide_eq_true_eq, Text.bytes_append]
    rcases List.mem_cons.mp hn with rfl | hn
    · omega
    · have hle := (mem_startsBehind hn).2
      omega
  have hbehind : (startsBehind (bytes (a ++ b)) rest).takeWhile (· ≤ bytes (a ++ b)) = [] := by
    cases hrest : startsBehind (bytes (a ++ b)) rest with
    | nil => rfl
    | cons n ns =>
      have hlt := (mem_startsBehind (hrest ▸ List.mem_cons_self)).1
      rw [List.takeWhile_cons_of_neg (by simpa using hlt)]
  have hline : partitionPoint (· ≤ bytes (a ++ b)) (lineStarts (a ++ b ++ rest)) - 1 =
      (startsBehind 0 a).length := by
    rw [partitionPoint, hstarts, List.takeWhile_append_of_pos hbefore, hbehind]
    simp
  have hfirst : (lineStarts (a ++ b ++ rest))[(startsBehind 0 a).length]? = some (bytes a) := by
    rw [hstarts, List.getElem?_append_left (by simp), ← hlast, List.getLast?_eq_getElem?]
    rfl
  have hslice : slice? (a ++ b ++ rest) (bytes a) (bytes (a ++ b)) = some b :=
    Text.slice?_eq_some_iff.mpr ⟨a, rest, by simp, rfl, (Text.bytes_append a b).symm⟩
  rw [Position.ofOffset_append, Position.after_append, Position.after_of_notMem _ hb, hcolumn,
    ← hlength, Nat.zero_add, originalPosition?]
  simp only [hline, hfirst, hslice, Option.bind_eq_bind, Option.bind_some, Option.pure_def]

/-! ## The writer -/

/-- **A writer**: the source, and what has been written of the text and of its source map. -/
structure Writer where
  /-- The source. -/
  source : List Char
  /-- The text so far. -/
  out : List Char := []
  /-- The position that is reached in it. -/
  position : Position := .start
  /-- The segments so far. -/
  segments : List Segment := []

namespace Writer

/-- Maps the position that is reached to an offset of the source. -/
def mapTo? (w : Writer) (offset : ℕ) : Option Writer := do
  let origin ← originalPosition? w.source offset
  return { w with segments := w.segments ++ [⟨w.position, origin⟩] }

/-- Writes some text. -/
def push (w : Writer) (text : List Char) : Writer :=
  { w with out := w.out ++ text, position := w.position.after text }

/-- Copies lines that start at an offset, and maps the start of each. -/
def copyLines? : Writer → ℕ → List (List Char) → Option Writer
  | w, _, [] => some w
  | w, offset, l :: ls => do
    let w ← w.mapTo? offset
    copyLines? (w.push l) (offset + bytes l) ls

/-- Copies a range of the source. -/
def copy? (w : Writer) (start stop : ℕ) : Option Writer := do
  let text ← slice? w.source start stop
  w.copyLines? start (Text.lines text)

/-- Inserts lines, which come from nowhere. -/
def insert (w : Writer) (lines : List String) : Writer :=
  lines.foldl (fun w l => (w.push l.toList).push ['\n']) w

/-- Writes a replacement, and maps its start. -/
def replace? (w : Writer) (text : String) (offset : ℕ) : Option Writer := do
  let w ← w.mapTo? offset
  return w.push text.toList

/-- What a writer has written when some pieces follow. -/
def follow (w : Writer) (pieces : List Piece) : Writer where
  source := w.source
  out := w.out ++ piecesText pieces
  position := w.position.after (piecesText pieces)
  segments := w.segments ++ piecesSegments w.source w.position pieces

end Writer

section Loop

variable (lines : List String) (place : ℕ)

/-- The loop over the edits: the writer, the offset up to which the source is used up, and whether
the lines have been inserted. -/
def writeEdits? : Writer → ℕ → Bool → List Edit → Option (Writer × ℕ × Bool)
  | w, cursor, placed, [] => some (w, cursor, placed)
  | w, cursor, placed, e :: rest => do
    let (w, cursor, placed) ←
      if !placed && place ≤ e.span.start then do
        let w ← w.copy? cursor place
        some (w.insert lines, place, true)
      else some (w, cursor, placed)
    let w ← w.copy? cursor e.span.start
    let w ← w.replace? e.text e.span.start
    writeEdits? w e.span.stop placed rest

/-- The rest of the source, behind the lines. -/
def writeRest? : Writer × ℕ × Bool → Option Writer
  | (w, cursor, true) => w.copy? cursor (bytes w.source)
  | (w, cursor, false) => do
    let w ← w.copy? cursor place
    (w.insert lines).copy? place (bytes w.source)

/-- **The whole loop**: the edits, the lines where no edit stands behind their place, and the rest
of the source. -/
def write? (source : List Char) (edits : List Edit) : Option Writer := do
  let state ← writeEdits? lines place { source } 0 false edits
  writeRest? lines place state

end Loop

/-! ## The writer follows pieces -/

namespace Writer

variable (w : Writer)

@[simp] lemma follow_nil : w.follow [] = w := by
  simp [follow, piecesSegments]

@[simp] lemma source_follow (pieces : List Piece) : (w.follow pieces).source = w.source := rfl

/-- Pieces one after the other. -/
lemma follow_append (a b : List Piece) : (w.follow a).follow b = w.follow (a ++ b) := by
  simp [follow, Position.after_append, piecesSegments_append, List.append_assoc]

/-- Copied lines are a copy of their text: the place of each, looked up, is the one behind the lines
before.

**Proof sketch.** Induction on the lines. The place of a line is looked up among the line starts and
is found behind the characters before it (`originalPosition?_append`), which is where the segments
of the lines go on by themselves. -/
lemma copyLines?_eq (pre post : List Char) (ls : List (List Char))
    (hsource : w.source = pre ++ (ls.flatten ++ post)) :
    w.copyLines? (bytes pre) ls = some
      { w with
        out := w.out ++ ls.flatten
        position := w.position.after ls.flatten
        segments := w.segments ++
          lineSegments w.position (.ofOffset w.source (bytes pre)) ls } := by
  induction ls generalizing w pre with
  | nil => simp [copyLines?, lineSegments]
  | cons l ls ih =>
    have hposition : originalPosition? w.source (bytes pre) =
        some (.ofOffset w.source (bytes pre)) := by
      rw [hsource]
      exact originalPosition?_append _ _
    have horigin : Position.ofOffset w.source (bytes (pre ++ l)) =
        (Position.ofOffset w.source (bytes pre)).after l := by
      have hsource' : w.source = (pre ++ l) ++ (ls.flatten ++ post) := by
        simpa [List.append_assoc] using hsource
      rw [hsource', Position.ofOffset_append, Position.after_append, ← hsource', hsource,
        Position.ofOffset_append]
    rw [copyLines?, mapTo?, hposition]
    simp only [Option.bind_eq_bind, Option.bind_some, Option.pure_def, ← Text.bytes_append]
    rw [ih _ (pre ++ l) (by simpa [push, List.append_assoc] using hsource)]
    simp [push, lineSegments, horigin, Position.after_append, List.append_assoc]

/-- **A copy is the copied piece.** -/
theorem copy?_eq (start stop : ℕ) :
    w.copy? start stop = (StyleExtract.copy? w.source start stop).map fun p => w.follow [p] := by
  unfold copy? StyleExtract.copy?
  cases hslice : slice? w.source start stop with
  | none => rfl
  | some text =>
    obtain ⟨pre, post, hsource, rfl, -⟩ := Text.slice?_eq_some_iff.mp hslice
    have hlines := w.copyLines?_eq pre post (Text.lines text)
      (by rw [Text.flatten_lines]; exact hsource)
    simp only [Option.bind_eq_bind, Option.bind_some, Option.map_some, hlines]
    simp [follow, piecesSegments, Piece.segments]

/-- Inserted lines are the inserted piece. -/
lemma insert_eq (lines : List String) :
    w.insert lines = w.follow [.inserted (linesText lines)] := by
  induction lines generalizing w with
  | nil => simp [insert, linesText, follow, piecesSegments, Piece.segments]
  | cons l lines ih =>
    have hrest := ih ((w.push l.toList).push ['\n'])
    rw [insert, List.foldl_cons]
    rw [insert] at hrest
    rw [hrest]
    simp [follow, push, linesText, piecesSegments, Piece.segments, Position.after_append,
      List.append_assoc]

/-- A replacement is the piece of its edit, where its range starts between characters. -/
lemma replace?_eq (e : Edit) (pre rest : List Char) (hsource : w.source = pre ++ rest)
    (hstart : bytes pre = e.span.start) :
    w.replace? e.text e.span.start = some (w.follow [e.piece]) := by
  have hposition : originalPosition? w.source e.span.start =
      some (.ofOffset w.source e.span.start) := by
    rw [← hstart, hsource]
    exact originalPosition?_append _ _
  simp [replace?, mapTo?, hposition, push, follow, piecesSegments, Piece.segments, Edit.piece]

/-- **A copy up to an edit and its replacement are their two pieces.** -/
lemma copy?_replace? (e : Edit) (cursor : ℕ) :
    (do
      let w ← w.copy? cursor e.span.start
      w.replace? e.text e.span.start) =
      (StyleExtract.copy? w.source cursor e.span.start).map fun p => w.follow [p, e.piece] := by
  rw [copy?_eq]
  cases hcopy : StyleExtract.copy? w.source cursor e.span.start with
  | none => rfl
  | some p =>
    obtain ⟨text, hslice, rfl⟩ := Option.map_eq_some_iff.mp hcopy
    obtain ⟨pre, post, hsource, rfl, hstop⟩ := Text.slice?_eq_some_iff.mp hslice
    have hstart : bytes (pre ++ text) = e.span.start := by rw [Text.bytes_append, hstop]
    have hreplace := (w.follow [.copied (bytes pre) text]).replace?_eq e (pre ++ text) post
      (by simpa [List.append_assoc] using hsource) hstart
    simp only [Option.map_some, Option.bind_eq_bind, Option.bind_some, hreplace, follow_append]
    rfl

end Writer

/-! ## The loop -/

section Loop

variable {lines : List String} {place : ℕ}

/-- The loop at an edit before which no lines are inserted. -/
lemma writeEdits?_edit (w : Writer) (cursor : ℕ) {placed : Bool} {e : Edit} (rest : List Edit)
    (h : placed = true ∨ e.span.start < place) :
    writeEdits? lines place w cursor placed (e :: rest) =
      (copy? w.source cursor e.span.start).bind fun p =>
        writeEdits? lines place (w.follow [p, e.piece]) e.span.stop placed rest := by
  have htest : (!placed && decide (place ≤ e.span.start)) = false := by
    rcases h with rfl | h
    · rfl
    · simp [h]
  have hstep := w.copy?_replace? e cursor
  rw [writeEdits?]
  simp only [htest, Bool.false_eq_true, if_false, Option.bind_eq_bind, Option.bind_some] at hstep ⊢
  rw [← Option.bind_assoc, hstep, Option.bind_map]
  rfl

/-- The loop at the edit before which the lines are inserted. -/
lemma writeEdits?_place (w : Writer) (cursor : ℕ) {e : Edit} (rest : List Edit)
    (h : place ≤ e.span.start) :
    writeEdits? lines place w cursor false (e :: rest) =
      (copy? w.source cursor place).bind fun p =>
        writeEdits? lines place (w.follow [p, .inserted (linesText lines)]) place true
          (e :: rest) := by
  rw [writeEdits?]
  simp only [Bool.not_false, Bool.true_and, decide_eq_true_eq, if_pos h, w.copy?_eq]
  cases copy? w.source cursor place with
  | none => rfl
  | some p =>
    have hinsert : (w.follow [p]).insert lines = w.follow [p, .inserted (linesText lines)] := by
      rw [Writer.insert_eq, Writer.follow_append]
      rfl
    simp [writeEdits?, hinsert]

/-- Once the lines are inserted, the loop writes the pieces of the rest. -/
lemma writeEdits?_eq_rest (w : Writer) (cursor : ℕ) (edits : List Edit) :
    (writeEdits? lines place w cursor true edits).bind (writeRest? lines place) =
      (spliceRest? w.source cursor edits).map w.follow := by
  induction edits generalizing w cursor with
  | nil =>
    simp only [writeEdits?, Option.bind_some, writeRest?, w.copy?_eq, spliceRest?]
    cases copy? w.source cursor (bytes w.source) <;> rfl
  | cons e rest ih =>
    rw [writeEdits?_edit w cursor rest (.inl rfl), spliceRest?, Option.bind_assoc]
    cases copy? w.source cursor e.span.start with
    | none => rfl
    | some p =>
      have hrest := ih (w.follow [p, e.piece]) e.span.stop
      simp only [Option.bind_eq_bind, Option.bind_some, hrest, Writer.source_follow]
      cases spliceRest? w.source e.span.stop rest <;> simp [Writer.follow_append]

variable (lines place) in
/-- Before the lines are inserted, the loop writes the pieces of the rest with the lines.

**Proof sketch.** Induction on the edits. At the first edit that does not start before the place the
lines are inserted, and from there on `writeEdits?_eq_rest` applies. An edit that starts before the
place is copied up to and replaced, on both sides. -/
lemma writeEdits?_eq_from (w : Writer) (cursor : ℕ) (edits : List Edit) :
    (writeEdits? lines place w cursor false edits).bind (writeRest? lines place) =
      (spliceFrom? w.source lines place cursor edits).map w.follow := by
  -- what is written once the lines are inserted
  have hplaced : ∀ (w : Writer) (p : Piece) (edits : List Edit),
      (writeEdits? lines place (w.follow [p, .inserted (linesText lines)]) place true edits).bind
        (writeRest? lines place) = (spliceRest? w.source place edits).map fun pieces =>
          w.follow (p :: .inserted (linesText lines) :: pieces) := by
    intro w p edits
    rw [writeEdits?_eq_rest, Writer.source_follow]
    cases spliceRest? w.source place edits <;> simp [Writer.follow_append]
  induction edits generalizing w cursor with
  | nil =>
    simp only [writeEdits?, Option.bind_some, writeRest?, w.copy?_eq, spliceFrom?]
    cases copy? w.source cursor place with
    | none => rfl
    | some p =>
      have hrest := hplaced w p []
      simp only [writeEdits?, Option.bind_some, writeRest?, Writer.source_follow] at hrest
      simp only [Option.map_some, Option.bind_eq_bind, Option.bind_some, Writer.insert_eq,
        Writer.follow_append, Writer.source_follow, List.cons_append, List.nil_append, hrest]
      cases spliceRest? w.source place [] <;> rfl
  | cons e rest ih =>
    rw [spliceFrom?]
    by_cases hplace : place ≤ e.span.start
    · rw [writeEdits?_place w cursor rest hplace, Option.bind_assoc, if_pos hplace]
      cases copy? w.source cursor place with
      | none => rfl
      | some p =>
        simp only [Option.bind_eq_bind, Option.bind_some, hplaced]
        cases spliceRest? w.source place (e :: rest) <;> rfl
    · rw [writeEdits?_edit w cursor rest (.inr (by omega)), Option.bind_assoc, if_neg hplace]
      cases copy? w.source cursor e.span.start with
      | none => rfl
      | some p =>
        have hrest := ih (w.follow [p, e.piece]) e.span.stop
        simp only [Option.bind_eq_bind, Option.bind_some, hrest, Writer.source_follow]
        cases spliceFrom? w.source lines place e.span.stop rest <;> simp [Writer.follow_append]

/-- **The loop writes the pieces of the splice**: there is a result exactly if there are pieces, and
its text and its segments are theirs.

**Proof sketch.** Induction on the edits, once the lines are inserted and before. A copy that looks
the place of every line up gives the segments that follow source and text side by side
(`Writer.copyLines?_eq`), because the look-up finds the position behind the characters before. -/
theorem write?_eq (source : List Char) (edits : List Edit) :
    write? lines place source edits =
      (splice? source lines place edits).map fun pieces =>
        ⟨source, piecesText pieces, Position.start.after (piecesText pieces),
          piecesSegments source .start pieces⟩ := by
  have hloop := writeEdits?_eq_from lines place { source } 0 edits
  rw [write?, Option.bind_eq_bind, hloop]
  rfl

end Loop

/-- **A compiled file is what the loop writes**: its text and its source map come from one pass over
the emitted constructs. -/
theorem output?_eq_write (id source : String) (m : Script.Module) (lines : List String)
    (emitted : List Emitted) (ids : List String) :
    output? id source m lines emitted ids = do
      let place ← m.insertionPoint? source.toList
      let w ← write? lines place source.toList (emitted.map Emitted.edit)
      return { code := String.ofList w.out
               map := ⟨id, source, w.segments⟩
               cssModules := ids } := by
  simp only [output?, write?_eq, Option.bind_eq_bind, Option.bind_map]
  rfl

end StyleExtract
