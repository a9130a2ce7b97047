import Mathlib.Data.List.TakeWhile
import Mathlib.Tactic.Common
import StyleExtract.Bundle.VirtualImport
import StyleExtract.Proofs.Text.Cut

/-!
# How imports of virtual modules are recognized

Imports are found in one pass over a text, by a reader that looks at one character at a time. This
file says without the reader what an import looks like and how a text is divided into imports and
other characters.

## Main definitions

* `VirtualImport.IsQuotedId`, `VirtualImport.IsHead` — the quoted id of a virtual module, and what
  comes before the end of the line in an import.
* `VirtualImport.lineStart` — where lines start.
* `VirtualImport.Divides` — parts divide their text.
* `VirtualImport.HasImport` — an import starts a line of a text.

## Main results

* `VirtualImport.match?_eq_some_iff` — the import at the start of a text.
* `VirtualImport.IsHead.split` — what a line feed inside an import parts.
* `VirtualImport.parts_eq_iff` — the parts of a text are the only ones that divide it.
* `VirtualImport.parts_append` — texts that do not run into each other are divided separately.
* `VirtualImport.hasImport_iff` — a text has an import exactly if one of its parts is.

## Design

The end of the line behind an import is taken as far as it goes, so it depends on what follows. The
head does not, which is why `IsHead` stops at the closing quote. The relation `Divides` has one rule
for each kind of part, and facts about the parts of a text are proved by induction on it.
-/

namespace StyleExtract.VirtualImport

/-! ## Runs and options -/

/-- A run ends where a character does not belong to it. -/
lemma run_append {p : Char → Bool} {a : List Char} {c : Char} (ha : ∀ c ∈ a, p c = true)
    (hc : p c = false) (cs : List Char) : run p (a ++ c :: cs) = (a, c :: cs) := by
  rw [run, List.takeWhile_append_of_pos ha, List.dropWhile_append_of_pos ha]
  simp [hc]

/-- A run and what follows it make up the text, and the run holds only its characters. -/
lemma run_spec (p : Char → Bool) (cs : List Char) :
    cs = (run p cs).1 ++ (run p cs).2 ∧ ∀ c ∈ (run p cs).1, p c = true :=
  ⟨List.takeWhile_append_dropWhile.symm, fun _ hc => List.mem_takeWhile_imp hc⟩

/-- A quote is taken off exactly where it stands. -/
lemma quote?_eq_some_iff {cs rest : List Char} {q : Char} :
    quote? cs = some (q, rest) ↔ cs = q :: rest ∧ isQuote q = true := by
  cases cs with
  | nil => simp [quote?]
  | cons c cs =>
    by_cases h : isQuote c = true
    · simp only [quote?, h, if_true, Option.some.injEq, Prod.mk.injEq, List.cons.injEq]
      constructor
      · rintro ⟨rfl, rfl⟩
        exact ⟨⟨rfl, rfl⟩, h⟩
      · rintro ⟨h, -⟩
        exact h
    · simp only [quote?, h]
      constructor
      · intro hq
        cases hq
      · rintro ⟨hq, hquote⟩
        cases hq
        exact absurd hquote h

/-! ## What an import looks like -/

/-- The markers that an id may have in front, raw or escaped. -/
def markers : List (List Char) := [[], ['\\', '0'], [idMarker]]

/-- Whether a character can stand in the path of an id: it ends neither the quoted text nor the
line. -/
def isPathChar (c : Char) : Bool := !isQuote c && c != '\n'

/-- **The quoted id of a virtual module.** -/
def IsQuotedId (cs : List Char) : Prop :=
  ∃ q mark path q', cs = q :: (mark ++ (VirtualId.start.toList ++ (path ++ [q']))) ∧
    isQuote q = true ∧ mark ∈ markers ∧ (∀ c ∈ path, isPathChar c = true) ∧ isQuote q' = true

/-- **An import up to its closing quote**: spaces and tabs, the word `import`, white space, and the
quoted id of a virtual module. -/
def IsHead (cs : List Char) : Prop :=
  ∃ gap blank id, cs = gap ++ ("import".toList ++ (blank ++ id)) ∧ (∀ c ∈ gap, isGap c = true) ∧
    (∀ c ∈ blank, Text.isBlank c = true) ∧ IsQuotedId id

/-- A marker in front of an id is taken off. -/
lemma marker_append {mark : List Char} (hmark : mark ∈ markers) (rest : List Char) :
    marker (mark ++ (VirtualId.start.toList ++ rest)) = (mark, VirtualId.start.toList ++ rest) := by
  simp only [markers, List.mem_cons, List.not_mem_nil, or_false] at hmark
  rcases hmark with rfl | rfl | rfl <;> rfl

/-- What is taken off as a marker is one. -/
lemma marker_spec (cs : List Char) :
    cs = (marker cs).1 ++ (marker cs).2 ∧ (marker cs).1 ∈ markers := by
  unfold marker
  split
  · simp [markers]
  · split
    · next h => simp [markers, h]
    · simp [markers]
  · simp [markers]

lemma isQuote_iff {c : Char} : isQuote c = true ↔ c = '\x22' ∨ c = '\x27' := by
  simp [isQuote]

lemma isGap_iff {c : Char} : isGap c = true ↔ c = ' ' ∨ c = '\t' := by
  simp [isGap]

/-- No quote is white space. -/
lemma isBlank_of_isQuote {c : Char} (h : isQuote c = true) : Text.isBlank c = false := by
  rcases isQuote_iff.mp h with rfl | rfl <;> decide

/-- The import at the start of a text, as a chain of steps that may fail. -/
lemma match?_eq (cs : List Char) :
    match? cs =
      (Text.stripList? "import".toList (run isGap cs).2).bind fun cs₁ =>
      (quote? (run Text.isBlank cs₁).2).bind fun (q, cs₂) =>
      (Text.stripList? VirtualId.start.toList (marker cs₂).2).bind fun cs₃ =>
      (quote? (run isPathChar cs₃).2).bind fun (q', cs₄) =>
      some ((run isGap cs).1 ++ "import".toList ++ (run Text.isBlank cs₁).1 ++ [q] ++
        (marker cs₂).1 ++ VirtualId.start.toList ++ (run isPathChar cs₃).1 ++ [q'] ++
        lineRest cs₄) :=
  rfl

/-- **The import at the start of a text**: its head, and the rest of the line as far as it may stand
there.

**Proof sketch.** A head is made of runs of characters with marks between them. From left to right,
each step of the recognition takes a run off as far as it goes. From right to left, each run ends
where the next mark starts, because that mark is no character of the run. -/
theorem match?_eq_some_iff {cs t : List Char} :
    match? cs = some t ↔
      ∃ head rest, IsHead head ∧ cs = head ++ rest ∧ t = head ++ lineRest rest := by
  rw [match?_eq]
  constructor
  · intro h
    obtain ⟨cs₁, h₁, h⟩ := Option.bind_eq_some_iff.mp h
    obtain ⟨⟨q, cs₂⟩, h₂, h⟩ := Option.bind_eq_some_iff.mp h
    obtain ⟨cs₃, h₃, h⟩ := Option.bind_eq_some_iff.mp h
    obtain ⟨⟨q', cs₄⟩, h₄, h⟩ := Option.bind_eq_some_iff.mp h
    rw [Text.stripList?_eq_some_iff] at h₁ h₃
    rw [quote?_eq_some_iff] at h₂ h₄
    obtain ⟨hcs, hgap⟩ := run_spec isGap cs
    obtain ⟨hcs₁, hblank⟩ := run_spec Text.isBlank cs₁
    obtain ⟨hcs₂, hmark⟩ := marker_spec cs₂
    obtain ⟨hcs₃, hpath⟩ := run_spec isPathChar cs₃
    rw [h₁] at hcs
    rw [h₂.1] at hcs₁
    rw [h₃] at hcs₂
    rw [h₄.1] at hcs₃
    refine ⟨_, cs₄, ⟨_, _, _, rfl, hgap, hblank, q, _, _, q', rfl, h₂.2, hmark, hpath, h₄.2⟩,
      ?_, ?_⟩
    · conv_lhs => rw [hcs, hcs₁, hcs₂, hcs₃]
      simp only [List.append_assoc, List.cons_append, List.nil_append]
    · simpa using (Option.some.inj h).symm
  · rintro ⟨_, rest, ⟨gap, blank, _, rfl, hgap, hblank, q, mark, path, q', rfl, hq, hmark, hpath,
      hq'⟩, rfl, rfl⟩
    -- each run ends at the character that starts the next piece
    have hgap' := run_append hgap (show isGap 'i' = false by decide)
    have hblank' := run_append hblank (isBlank_of_isQuote hq)
    have hpath' := run_append hpath (show isPathChar q' = false by simp [isPathChar, hq'])
    have hquote (cs) := quote?_eq_some_iff.mpr ⟨Eq.refl (q :: cs), hq⟩
    have hquote' (cs) := quote?_eq_some_iff.mpr ⟨Eq.refl (q' :: cs), hq'⟩
    have hword (cs) : "import".toList ++ cs = 'i' :: ("mport".toList ++ cs) := rfl
    simp only [List.append_assoc, List.cons_append, List.nil_append, hword, hgap']
    simp only [← hword, Text.stripList?_eq_some_iff.mpr rfl, Option.bind_some, hblank', hquote,
      marker_append hmark, hpath', hquote']

/-! ## The end of the line -/

/-- An optional character and what follows it make up the text. -/
lemma optionalChar_spec (x : Char) (cs : List Char) :
    cs = (optionalChar x cs).1 ++ (optionalChar x cs).2 ∧ ∀ c ∈ (optionalChar x cs).1, c = x := by
  cases cs with
  | nil => simp [optionalChar]
  | cons c cs =>
    by_cases h : c = x
    · simp [optionalChar, h]
    · simp [optionalChar, h]

/-- An optional character is looked for at the start of a text only. -/
lemma optionalChar_append (x : Char) {r : List Char} (hr : '\n' ∈ r) (s : List Char) :
    optionalChar x (r ++ s) = ((optionalChar x r).1, (optionalChar x r).2 ++ s) := by
  cases r with
  | nil => cases hr
  | cons c r =>
    by_cases h : c = x
    · simp [optionalChar, h]
    · simp [optionalChar, h]

/-- A run does not reach beyond a line feed that does not belong to it. -/
lemma run_append_of_mem {p : Char → Bool} (hp : p '\n' = false) {r : List Char} (hr : '\n' ∈ r)
    (s : List Char) : run p (r ++ s) = ((run p r).1, (run p r).2 ++ s) := by
  induction r with
  | nil => cases hr
  | cons c r ih =>
    cases hc : p c with
    | false => simp [run, hc]
    | true =>
      have hr : '\n' ∈ r := (List.mem_cons.mp hr).resolve_left fun h => by
        rw [← h, hp] at hc
        cases hc
      simp only [run, Prod.mk.injEq] at ih
      simp [run, hc, ih hr]

/-- What is taken as the rest of a line starts the text and holds no quotes.

**Proof sketch.** The rest of a line is taken off in four steps. Each takes characters off the
front, and none of these is a quote. -/
lemma lineRest_spec (cs : List Char) :
    (∃ rest, cs = lineRest cs ++ rest) ∧ ∀ c ∈ lineRest cs, isQuote c = false := by
  obtain ⟨h₁, hc₁⟩ := optionalChar_spec ';' cs
  obtain ⟨h₂, hc₂⟩ := run_spec isGap (optionalChar ';' cs).2
  obtain ⟨h₃, hc₃⟩ := optionalChar_spec '\r' (run isGap (optionalChar ';' cs).2).2
  obtain ⟨h₄, hc₄⟩ := optionalChar_spec '\n'
    (optionalChar '\r' (run isGap (optionalChar ';' cs).2).2).2
  constructor
  · refine ⟨(optionalChar '\n' (optionalChar '\r' (run isGap (optionalChar ';' cs).2).2).2).2, ?_⟩
    conv_lhs => rw [h₁, h₂, h₃, h₄]
    simp only [lineRest, List.append_assoc]
  · intro c hc
    simp only [lineRest, List.mem_append] at hc
    rcases hc with ((hc | hc) | hc) | hc
    · rw [hc₁ c hc]
      rfl
    · rcases isGap_iff.mp (hc₂ c hc) with rfl | rfl <;> rfl
    · rw [hc₃ c hc]
      rfl
    · rw [hc₄ c hc]
      rfl

/-- The rest of a line does not depend on what follows its line feed.

**Proof sketch.** Each of the four steps stops at the line feed at the latest, so none of them
reaches what follows. -/
lemma lineRest_append {r : List Char} (hr : '\n' ∈ r) (s : List Char) :
    lineRest (r ++ s) = lineRest r := by
  -- the line feed stays ahead until its own step
  have hoptional {x : Char} (hx : '\n' ≠ x) {cs : List Char} (hcs : '\n' ∈ cs) :
      '\n' ∈ (optionalChar x cs).2 := by
    obtain ⟨h, hc⟩ := optionalChar_spec x cs
    rw [h] at hcs
    exact (List.mem_append.mp hcs).resolve_left fun h => hx (hc _ h)
  have hrun {cs : List Char} (hcs : '\n' ∈ cs) : '\n' ∈ (run isGap cs).2 := by
    obtain ⟨h, hc⟩ := run_spec isGap cs
    rw [h] at hcs
    exact (List.mem_append.mp hcs).resolve_left fun h => absurd (hc _ h) (by decide)
  have h₁ := hoptional (x := ';') (by decide) hr
  have h₂ := hrun h₁
  have h₃ := hoptional (x := '\r') (by decide) h₂
  have hgap : isGap '\n' = false := by decide
  simp only [lineRest, optionalChar_append _ hr, run_append_of_mem hgap h₁,
    optionalChar_append _ h₂, optionalChar_append _ h₃]

/-! ## Lines -/

/-- Whether a line starts behind a text, given whether one starts before it. -/
def lineStart : Bool → List Char → Bool
  | flag, [] => flag
  | _, c :: cs => lineStart (c == '\n') cs

@[simp] lemma lineStart_nil (flag : Bool) : lineStart flag [] = flag := rfl

@[simp] lemma lineStart_cons (flag : Bool) (c : Char) (cs : List Char) :
    lineStart flag (c :: cs) = lineStart (c == '\n') cs := rfl

@[simp] lemma lineStart_append (flag : Bool) (a b : List Char) :
    lineStart flag (a ++ b) = lineStart (lineStart flag a) b := by
  induction a generalizing flag with
  | nil => rfl
  | cons c a ih => exact ih _

/-- Behind a text that is not empty it does not matter what stood before it. -/
lemma lineStart_eq_of_ne_nil {cs : List Char} (h : cs ≠ []) (flag flag' : Bool) :
    lineStart flag cs = lineStart flag' cs := by
  cases cs with
  | nil => exact absurd rfl h
  | cons c cs => rfl

/-- A line that starts behind a text also does if one starts before it. -/
lemma lineStart_true_of_lineStart {flag : Bool} {cs : List Char} (h : lineStart flag cs = true) :
    lineStart true cs = true := by
  cases cs with
  | nil => rfl
  | cons c cs => exact h

/-- A line starts behind a line feed only. -/
lemma mem_of_lineStart {cs : List Char} (h : lineStart false cs = true) : '\n' ∈ cs := by
  induction cs with
  | nil => cases h
  | cons c cs ih =>
    by_cases hc : c = '\n'
    · exact hc ▸ List.mem_cons_self
    · rw [lineStart_cons, beq_eq_false_iff_ne.mpr hc] at h
      exact List.mem_cons_of_mem _ (ih h)

/-- A text without line feeds behind which a line starts is empty. -/
lemma eq_nil_of_lineStart {flag : Bool} {cs : List Char} (h : lineStart flag cs = true)
    (hcs : '\n' ∉ cs) : cs = [] := by
  by_contra hne
  rw [lineStart_eq_of_ne_nil hne flag false] at h
  exact hcs (mem_of_lineStart h)

/-! ## Heads and lines -/

/-- The word of an import with the white space around it. -/
def IsOpening (cs : List Char) : Prop :=
  ∃ gap blank, cs = gap ++ ("import".toList ++ blank) ∧ (∀ c ∈ gap, isGap c = true) ∧
    ∀ c ∈ blank, Text.isBlank c = true

/-- White space and the quoted id of a virtual module behind it. -/
def IsClosing (cs : List Char) : Prop :=
  ∃ blank id, cs = blank ++ id ∧ (∀ c ∈ blank, Text.isBlank c = true) ∧ IsQuotedId id

/-- An opening and a closing make up a head. -/
lemma IsOpening.isHead_append {u v : List Char} (hu : IsOpening u) (hv : IsClosing v) :
    IsHead (u ++ v) := by
  obtain ⟨gap, blank, rfl, hgap, hblank⟩ := hu
  obtain ⟨blank', id, rfl, hblank', hid⟩ := hv
  refine ⟨gap, blank ++ blank', id, by simp only [List.append_assoc], hgap, ?_, hid⟩
  intro c hc
  exact (List.mem_append.mp hc).elim (hblank c) (hblank' c)

/-- A closing starts with white space or a quote. -/
lemma IsClosing.exists_cons {v : List Char} (h : IsClosing v) :
    ∃ c cs, v = c :: cs ∧ (Text.isBlank c = true ∨ isQuote c = true) := by
  obtain ⟨blank, _, rfl, hblank, q, mark, path, q', rfl, hq, -⟩ := h
  cases blank with
  | nil => exact ⟨q, _, rfl, .inr hq⟩
  | cons c blank => exact ⟨c, _, rfl, .inl (hblank c List.mem_cons_self)⟩

/-- No quote ends a line. -/
lemma ne_of_isQuote {c : Char} (h : isQuote c = true) : c ≠ '\n' := by
  rintro rfl
  exact absurd h (by decide)

/-- A quoted id stands on one line. -/
lemma IsQuotedId.not_mem {id : List Char} (h : IsQuotedId id) : '\n' ∉ id := by
  obtain ⟨q, mark, path, q', rfl, hq, hmark, hpath, hq'⟩ := h
  have hmark : '\n' ∉ mark := by
    simp only [markers, List.mem_cons, List.not_mem_nil, or_false] at hmark
    rcases hmark with rfl | rfl | rfl <;> decide
  have hstart : '\n' ∉ VirtualId.start.toList := by decide
  have hpath : '\n' ∉ path := fun h => absurd (hpath _ h) (by decide)
  simp only [List.mem_cons, List.mem_append, List.not_mem_nil, or_false, not_or]
  exact ⟨(ne_of_isQuote hq).symm, hmark, hstart, hpath, (ne_of_isQuote hq').symm⟩

/-- No line starts behind a head. -/
lemma IsHead.lineStart {head : List Char} (h : IsHead head) (flag : Bool) :
    lineStart flag head = false := by
  obtain ⟨gap, blank, _, rfl, -, -, q, mark, path, q', rfl, -, -, -, hq'⟩ := h
  simp [ne_of_isQuote hq']

lemma IsHead.ne_nil {head : List Char} (h : IsHead head) : head ≠ [] := by
  rintro rfl
  exact absurd (h.lineStart true) (by decide)

/-- **A head that goes on at the start of a line** is divided there into an opening and a closing:
its line feeds stand between the word and the id.

**Proof sketch.** The head is cut in its gap, in its word, in the blanks or in the id. Up to the
word and within the id there is no line feed, so a text that ends at the start of a line ends among
the blanks or right before the id. -/
lemma IsHead.split {u v : List Char} (h : IsHead (u ++ v))
    (hu : VirtualImport.lineStart false u = true) : IsOpening u ∧ IsClosing v := by
  have hmem : '\n' ∈ u := mem_of_lineStart hu
  obtain ⟨gap, blank, id, heq, hgap, hblank, hid⟩ := h
  have hword : '\n' ∉ gap ++ "import".toList := by
    rw [List.mem_append, not_or]
    exact ⟨fun h => absurd (hgap _ h) (by decide), by decide⟩
  rw [← List.append_assoc] at heq
  obtain ⟨tail, rfl, htail⟩ | ⟨rest, hrest, -⟩ := List.append_eq_append_iff.mp heq.symm
  · obtain ⟨tail', rfl, rfl⟩ | ⟨blank', rfl, rfl⟩ := List.append_eq_append_iff.mp htail
    · -- the text ends in the id, on the line of the id: it ends where the id starts
      have hid' : '\n' ∉ tail' := fun h => hid.not_mem (List.mem_append_left _ h)
      obtain rfl : tail' = [] := by
        rw [lineStart_append, lineStart_append] at hu
        exact eq_nil_of_lineStart hu hid'
      exact ⟨⟨gap, blank, by simp, hgap, hblank⟩, [], v, rfl, by simp, hid⟩
    · exact ⟨⟨gap, tail, by simp, hgap, fun c hc => hblank c (List.mem_append_left _ hc)⟩,
        blank', id, rfl, fun c hc => hblank c (List.mem_append_right _ hc), hid⟩
  · rw [hrest] at hword
    exact absurd (List.mem_append_left _ hmem) hword

/-- What follows the start of a line is not read if it cannot go on with an import.

**Proof sketch.** A head that goes over the cut would be an opening before and a closing behind it,
and a closing starts with a blank or a quote. A head before the cut has a line feed behind it, so
its line ends before the cut as well. -/
lemma match?_append {u s : List Char} (hu : lineStart false u = true)
    (hs : ∀ c ∈ s.head?, Text.isBlank c = false ∧ isQuote c = false) :
    match? (u ++ s) = match? u := by
  have hfeed {head r : List Char} (hhead : IsHead head) (h : u = head ++ r) : '\n' ∈ r := by
    rw [h, lineStart_append, hhead.lineStart] at hu
    exact mem_of_lineStart hu
  apply Option.ext
  intro t
  rw [match?_eq_some_iff, match?_eq_some_iff]
  constructor
  · rintro ⟨head, rest, hhead, heq, rfl⟩
    obtain ⟨v, rfl, rfl⟩ | ⟨r, hr, rfl⟩ := List.append_eq_append_iff.mp heq
    · obtain ⟨c, cs, rfl, hc⟩ := (hhead.split hu).2.exists_cons
      have := hs c rfl
      rcases hc with hc | hc <;> simp [hc] at this
    · exact ⟨head, r, hhead, hr, by rw [lineRest_append (hfeed hhead hr)]⟩
  · rintro ⟨head, r, hhead, hr, rfl⟩
    refine ⟨head, r ++ s, hhead, by rw [hr, List.append_assoc], ?_⟩
    rw [lineRest_append (hfeed hhead hr)]

/-! ## The division of a text -/

/-- The characters of a part. -/
def Part.text : Part → List Char
  | .char c => [c]
  | .import t => t

/-- The text that is made up of parts. -/
def textOf (ps : List Part) : List Char := ps.flatMap Part.text

@[simp] lemma textOf_nil : textOf [] = [] := rfl

@[simp] lemma textOf_char (c : Char) (ps : List Part) :
    textOf (.char c :: ps) = c :: textOf ps := rfl

@[simp] lemma textOf_import (t : List Char) (ps : List Part) :
    textOf (.import t :: ps) = t ++ textOf ps := rfl

@[simp] lemma textOf_append (a b : List Part) : textOf (a ++ b) = textOf a ++ textOf b := by
  simp [textOf]

@[simp] lemma textOf_chars (cs : List Char) : textOf (cs.map .char) = cs := by
  induction cs with
  | nil => rfl
  | cons c cs ih => simp [ih]

/-- **Parts divide their text**: an import stands wherever one is found at the start of a line
behind the parts before it. The flag says whether the text starts a line. -/
inductive Divides : Bool → List Part → Prop
  /-- The empty text has no parts. -/
  | nil (flag : Bool) : Divides flag []
  /-- A character is a part of its own unless an import starts a line with it. -/
  | char {flag : Bool} {c : Char} {ps : List Part}
    (hnone : flag = true → match? (c :: textOf ps) = none) (hps : Divides (c == '\n') ps) :
    Divides flag (.char c :: ps)
  /-- An import that starts a line is a part. -/
  | import {t : List Char} {ps : List Part} (hsome : match? (t ++ textOf ps) = some t)
    (hps : Divides (lineStart true t) ps) : Divides true (.import t :: ps)

/-- Skipped characters only decide whether a line starts. -/
lemma partsFrom_length (flag : Bool) (a cs : List Char) :
    partsFrom a.length flag (a ++ cs) = partsFrom 0 (lineStart flag a) cs := by
  induction a generalizing flag with
  | nil => rfl
  | cons c a ih =>
    rw [List.length_cons, List.cons_append, partsFrom, ih]
    rfl

/-- An import is a beginning of the text, with at least one character. -/
lemma exists_of_match?_eq_some {cs t : List Char} (h : match? cs = some t) :
    t ≠ [] ∧ ∃ rest, cs = t ++ rest := by
  obtain ⟨head, rest, hhead, rfl, rfl⟩ := match?_eq_some_iff.mp h
  obtain ⟨⟨rest', hrest⟩, -⟩ := lineRest_spec rest
  refine ⟨fun h => hhead.ne_nil (List.append_eq_nil_iff.mp h).1, rest', ?_⟩
  rw [List.append_assoc, ← hrest]

/-- A character that starts no import is a part of its own. -/
lemma partsFrom_char {flag : Bool} {c : Char} {cs : List Char}
    (h : flag = true → match? (c :: cs) = none) :
    partsFrom 0 flag (c :: cs) = .char c :: partsFrom 0 (c == '\n') cs := by
  rw [partsFrom]
  cases flag with
  | false => rfl
  | true => rw [if_pos rfl, h rfl]

/-- An import is one part, and the text behind it is divided on its own. -/
lemma partsFrom_import {t rest : List Char} (h : match? (t ++ rest) = some t) :
    partsFrom 0 true (t ++ rest) = .import t :: partsFrom 0 (lineStart true t) rest := by
  cases t with
  | nil => exact absurd rfl (exists_of_match?_eq_some h).1
  | cons c t =>
    rw [List.cons_append] at h ⊢
    rw [partsFrom, if_pos rfl, h]
    exact congrArg _ (partsFrom_length _ t rest)

/-- **The parts of a text divide it.**

**Proof sketch.** An import is taken off as a whole, so the induction is on the length of the text.
At the start of a line a part is an import if one is recognized there, and otherwise the next
character. -/
theorem divides_partsFrom (flag : Bool) (cs : List Char) :
    textOf (partsFrom 0 flag cs) = cs ∧ Divides flag (partsFrom 0 flag cs) := by
  -- an import is taken off as a whole, so the induction is on the length of the text
  induction hn : cs.length using Nat.strong_induction_on generalizing flag cs with
  | _ n ih =>
    cases cs with
    | nil => exact ⟨rfl, .nil flag⟩
    | cons c cs =>
      by_cases h : flag = true → match? (c :: cs) = none
      · obtain ⟨htext, hdiv⟩ := ih cs.length (by rw [← hn]; simp) (c == '\n') cs rfl
        rw [partsFrom_char h]
        refine ⟨by rw [textOf_char, htext], .char ?_ hdiv⟩
        rwa [htext]
      · rw [Classical.not_imp] at h
        obtain ⟨rfl, h⟩ := h
        obtain ⟨t, ht⟩ := Option.ne_none_iff_exists'.mp h
        obtain ⟨hne, rest, heq⟩ := exists_of_match?_eq_some ht
        rw [heq] at ht hn ⊢
        obtain ⟨htext, hdiv⟩ := ih rest.length
          (by rw [← hn, List.length_append]; have := List.length_pos_iff.mpr hne; omega)
          (lineStart true t) rest rfl
        rw [partsFrom_import ht]
        refine ⟨by rw [textOf_import, htext], .import ?_ hdiv⟩
        rwa [htext]

/-- **Only one list of parts divides a text.** -/
theorem Divides.eq_partsFrom {flag : Bool} {ps : List Part} (h : Divides flag ps) :
    partsFrom 0 flag (textOf ps) = ps := by
  induction h with
  | nil flag => rfl
  | char hnone _ ih => rw [textOf_char, partsFrom_char hnone, ih]
  | «import» hsome _ ih => rw [textOf_import, partsFrom_import hsome, ih]

/-- The parts of a text are the only ones that divide it. -/
lemma parts_eq_iff {cs : List Char} {ps : List Part} :
    parts cs = ps ↔ textOf ps = cs ∧ Divides true ps := by
  constructor
  · rintro rfl
    exact divides_partsFrom true cs
  · rintro ⟨rfl, h⟩
    exact h.eq_partsFrom

/-- **Texts that do not run into each other** are divided separately: the second starts a line, and
not with what can go on with an import.

**Proof sketch.** Induction on the first division. Recognizing an import looks beyond the end of a
line over blanks and for a quote only, and the second text starts with neither, so the same is found
with and without it. -/
lemma Divides.append {flag : Bool} {a b : List Part} (ha : Divides flag a) (hb : Divides true b)
    (hline : lineStart flag (textOf a) = true)
    (hhead : ∀ c ∈ (textOf b).head?, Text.isBlank c = false ∧ isQuote c = false) :
    Divides flag (a ++ b) := by
  induction ha with
  | nil flag =>
    obtain rfl : flag = true := hline
    exact hb
  | @char _ c ps hnone _ ih =>
    have hline' : lineStart false (c :: textOf ps) = true := hline
    rw [List.cons_append]
    refine .char (fun hflag => ?_) (ih hline)
    rw [textOf_append, ← List.cons_append, match?_append hline' hhead]
    exact hnone hflag
  | @«import» t ps hsome _ ih =>
    rw [textOf_import, lineStart_append] at hline
    have hne := (exists_of_match?_eq_some hsome).1
    rw [List.cons_append]
    refine .import ?_ (ih hline)
    rw [textOf_append, ← List.append_assoc, match?_append ?_ hhead]
    · exact hsome
    · rw [lineStart_append, lineStart_eq_of_ne_nil hne false true]
      exact hline

/-- The parts of texts that do not run into each other. -/
lemma parts_append {a b : List Char} (ha : lineStart true a = true)
    (hb : ∀ c ∈ b.head?, Text.isBlank c = false ∧ isQuote c = false) :
    parts (a ++ b) = parts a ++ parts b := by
  obtain ⟨htext, hdiv⟩ := parts_eq_iff.mp (Eq.refl (parts a))
  obtain ⟨htext', hdiv'⟩ := parts_eq_iff.mp (Eq.refl (parts b))
  rw [parts_eq_iff, textOf_append, htext, htext']
  refine ⟨rfl, hdiv.append hdiv' ?_ ?_⟩
  · rwa [htext]
  · rwa [htext']

/-- Characters up to the end of a line that has already begun are parts of their own. -/
lemma Divides.chars {cs : List Char} {ps : List Part} (hcs : '\n' ∉ cs) (hps : Divides true ps) :
    Divides false (cs.map .char ++ .char '\n' :: ps) := by
  induction cs with
  | nil => exact .char (fun h => nomatch h) hps
  | cons c cs ih =>
    rw [List.mem_cons, not_or] at hcs
    have hc : (c == '\n') = false := beq_eq_false_iff_ne.mpr (Ne.symm hcs.1)
    exact .char (fun h => nomatch h) (hc ▸ ih hcs.2)

/-- The last of the parts that divide a text divide the end of it. -/
lemma Divides.of_append {flag : Bool} {a b : List Part} (h : Divides flag (a ++ b)) :
    Divides (lineStart flag (textOf a)) b := by
  induction a generalizing flag with
  | nil => exact h
  | cons p a ih =>
    cases h with
    | char _ hps => exact ih hps
    | «import» _ hps =>
      rw [textOf_import, lineStart_append]
      exact ih hps

/-- No import starts a line with a character that is a part of its own. -/
lemma Divides.match?_eq_none {c : Char} {ps : List Part} (h : Divides true (.char c :: ps)) :
    match? (c :: textOf ps) = none := by
  cases h with
  | char hnone _ => exact hnone rfl

/-- An import part starts a line and is found there. -/
lemma Divides.of_import {flag : Bool} {a b : List Part} {t : List Char}
    (h : Divides flag (a ++ .import t :: b)) :
    lineStart flag (textOf a) = true ∧ match? (t ++ textOf b) = some t ∧
      Divides (lineStart true t) b := by
  cases hflag : lineStart flag (textOf a) with
  | false => exact nomatch hflag ▸ h.of_append
  | true =>
    cases hflag ▸ h.of_append with
    | «import» hsome hb => exact ⟨rfl, hsome, hb⟩

/-! ## Texts with imports -/

/-- **An import starts a line of a text.** -/
def HasImport (cs : List Char) : Prop :=
  ∃ a b, cs = a ++ b ∧ lineStart true a = true ∧ (match? b).isSome = true

/-- Parts without imports are the characters of their text. -/
lemma eq_chars_or_import (ps : List Part) :
    ps = (textOf ps).map .char ∨
      ∃ (cs t : List Char) (qs : List Part), ps = cs.map .char ++ .import t :: qs := by
  induction ps with
  | nil => exact .inl rfl
  | cons p ps ih =>
    cases p with
    | «import» t => exact .inr ⟨[], t, ps, rfl⟩
    | char c =>
      rcases ih with ih | ⟨cs, t, qs, rfl⟩
      · exact .inl (by rw [textOf_char, List.map_cons, ← ih])
      · exact .inr ⟨c :: cs, t, qs, rfl⟩

/-- An import is found whatever follows it. -/
lemma isSome_match?_iff {cs : List Char} :
    (match? cs).isSome = true ↔ ∃ head rest, IsHead head ∧ cs = head ++ rest := by
  rw [Option.isSome_iff_exists]
  constructor
  · rintro ⟨t, ht⟩
    obtain ⟨head, rest, hhead, hcs, -⟩ := match?_eq_some_iff.mp ht
    exact ⟨head, rest, hhead, hcs⟩
  · rintro ⟨head, rest, hhead, hcs⟩
    exact ⟨_, match?_eq_some_iff.mpr ⟨head, rest, hhead, hcs, rfl⟩⟩

/-- Characters that come before the other parts of a text have no import among them.

**Proof sketch.** An import among the characters would start a line, and there the division would
have taken it for an import. -/
lemma Divides.not_hasImport {cs : List Char} {ps : List Part}
    (h : Divides true (cs.map .char ++ ps)) : ¬ HasImport cs := by
  rintro ⟨a, b, rfl, ha, hb⟩
  obtain ⟨head, rest, hhead, rfl⟩ := isSome_match?_iff.mp hb
  rw [List.map_append, List.append_assoc] at h
  have hdiv := h.of_append
  rw [textOf_chars, ha] at hdiv
  have hsome : (match? (head ++ rest ++ textOf ps)).isSome = true :=
    isSome_match?_iff.mpr ⟨head, _, hhead, List.append_assoc _ _ _⟩
  cases head with
  | nil => exact absurd rfl hhead.ne_nil
  | cons c head =>
    have hnone : match? (c :: textOf ((head ++ rest).map .char ++ ps)) = none :=
      Divides.match?_eq_none hdiv
    rw [textOf_append, textOf_chars, ← List.cons_append, ← List.cons_append] at hnone
    rw [hnone] at hsome
    cases hsome

/-- **A text without imports** is divided into its characters. -/
lemma parts_eq_chars_iff {cs : List Char} : parts cs = cs.map .char ↔ ¬ HasImport cs := by
  obtain ⟨htext, hdiv⟩ := parts_eq_iff.mp (Eq.refl (parts cs))
  constructor
  · intro h
    rw [h, ← List.append_nil (cs.map _)] at hdiv
    exact hdiv.not_hasImport
  · intro h
    rcases eq_chars_or_import (parts cs) with hchars | ⟨a, t, b, hparts⟩
    · rwa [htext] at hchars
    · rw [hparts] at hdiv htext
      obtain ⟨ha, hsome, -⟩ := hdiv.of_import
      refine absurd ⟨textOf (a.map .char), t ++ textOf b, ?_, ha, ?_⟩ h
      · rw [← htext, textOf_append, textOf_import]
      · rw [hsome]
        rfl

/-- **A text has an import** exactly if one of its parts is. -/
theorem hasImport_iff {cs : List Char} : HasImport cs ↔ ∃ t, .import t ∈ parts cs := by
  rw [← not_iff_not, ← parts_eq_chars_iff]
  constructor
  · rintro h ⟨t, ht⟩
    rw [h] at ht
    simp at ht
  · intro h
    rcases eq_chars_or_import (parts cs) with hchars | ⟨a, t, b, hparts⟩
    · rwa [(parts_eq_iff.mp rfl).1] at hchars
    · exact absurd ⟨t, by simp [hparts]⟩ h

/-! ## Erasing imports -/

@[simp] lemma eraseParts_nil : eraseParts [] = [] := rfl

@[simp] lemma eraseParts_char (c : Char) (ps : List Part) :
    eraseParts (.char c :: ps) = c :: eraseParts ps := rfl

@[simp] lemma eraseParts_import (t : List Char) (ps : List Part) :
    eraseParts (.import t :: ps) = eraseParts ps := rfl

@[simp] lemma eraseParts_append (a b : List Part) :
    eraseParts (a ++ b) = eraseParts a ++ eraseParts b := by
  induction a with
  | nil => rfl
  | cons p a ih => cases p <;> simp [ih]

@[simp] lemma eraseParts_chars (cs : List Char) : eraseParts (cs.map .char) = cs := by
  induction cs with
  | nil => rfl
  | cons c cs ih => simp [ih]

/-- Nothing is put in the place of an import where there is none. -/
lemma redirectParts?_chars (new cs : List Char) : redirectParts? new (cs.map .char) = none := by
  induction cs with
  | nil => rfl
  | cons c cs ih => simp [redirectParts?, ih]

/-- A text is put in the place of the first import, and the others are erased. -/
lemma redirectParts?_import (new cs t : List Char) (ps : List Part) :
    redirectParts? new (cs.map .char ++ .import t :: ps) = some (cs ++ (new ++ eraseParts ps)) := by
  induction cs with
  | nil => rfl
  | cons c cs ih => simp [redirectParts?, ih]

lemma toList_erase (code : String) : (erase code).toList = eraseParts (parts code.toList) :=
  String.toList_ofList

/-- A text without imports gets the line at its start. -/
lemma redirect_of_not_hasImport {code : String} (h : ¬ HasImport code.toList) (new : String) :
    redirect new code = new ++ code := by
  rw [redirect, parts_eq_chars_iff.mpr h, redirectParts?_chars]

/-- A text with imports gets the line in the place of the first. -/
lemma toList_redirect {code : String} {cs t : List Char} {ps : List Part}
    (h : parts code.toList = cs.map .char ++ .import t :: ps) (new : String) :
    (redirect new code).toList = cs ++ (new.toList ++ eraseParts ps) := by
  rw [redirect, h, redirectParts?_import]
  exact String.toList_ofList

end StyleExtract.VirtualImport
