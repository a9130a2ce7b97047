import Mathlib.Data.List.Forall2
import StyleExtract.Bundle.Basic
import StyleExtract.Proofs.Bundle.ImportLine

/-!
# Imports that are left in a finished bundle

Finishing a bundle takes the imports of virtual modules out of the code of each chunk. This is done
in one pass, and the text that is put together from what is left can hold an import again, in two
ways: an import that stood on the line of another one is moved to its start, and an import that
stood between the word and the id of another one brings them together. This file proves that there
are no other ways.

## Main definitions

* `VirtualImport.Crowded` — an import stands behind another one on its line.
* `VirtualImport.Parted` — an import stands between a word and an id.
* `joined` — the parts of a chunk between which imports are erased.

## Main results

* `VirtualImport.Divides.hasImport_eraseParts_iff` — when erased parts leave an import.
* `hasImport_finished_iff` — which chunks of a finished bundle have an import.
-/

namespace StyleExtract

namespace VirtualImport

/-- **An import stands behind another one on its line**: the first ends before its line does, and
what follows it is again an import. -/
def Crowded (ps : List Part) : Prop :=
  ∃ a t b, ps = a ++ .import t :: b ∧ lineStart true t = false ∧ (match? (textOf b)).isSome = true

/-- **An import stands between the word and the id of another one**, so that without it these make
up an import. -/
def Parted (ps : List Part) : Prop :=
  ∃ a t b front opening closing behind, ps = a ++ .import t :: b ∧
    eraseParts a = front ++ opening ∧ lineStart true front = true ∧ IsOpening opening ∧
    eraseParts b = closing ++ behind ∧ IsClosing closing

/-! ## Erased parts -/

/-- What precedes an import part ends a line, and still does without its own imports. -/
lemma Divides.lineStart_eraseParts {flag : Bool} {a b : List Part} {t : List Char}
    (h : Divides flag (a ++ .import t :: b)) : lineStart flag (eraseParts a) = true := by
  induction a generalizing flag with
  | nil =>
    cases h with
    | «import» _ _ => rfl
  | cons p a ih =>
    cases h with
    | char _ hps => exact ih hps
    | «import» _ hps => exact lineStart_true_of_lineStart (ih hps)

/-- An erased text is the text of the characters of its parts, cut where it is cut.

**Proof sketch.** Induction on the parts. Imports leave nothing behind, so they can stand on the
left of the cut; a character is the first of the text and goes to the left until the left part is
used up. -/
lemma exists_of_eraseParts_eq_append {ps : List Part} {u v : List Char}
    (h : eraseParts ps = u ++ v) (hv : v ≠ []) :
    ∃ a c b, ps = a ++ .char c :: b ∧ eraseParts a = u ∧ eraseParts (.char c :: b) = v := by
  induction ps generalizing u with
  | nil => exact absurd (List.append_eq_nil_iff.mp h.symm).2 hv
  | cons p ps ih =>
    cases p with
    | «import» t =>
      obtain ⟨a, c, b, rfl, ha, hb⟩ := ih h
      exact ⟨.import t :: a, c, b, rfl, ha, hb⟩
    | char c =>
      cases u with
      | nil => exact ⟨[], c, ps, rfl, rfl, h⟩
      | cons d u =>
        rw [eraseParts_char, List.cons_append, List.cons.injEq] at h
        obtain ⟨a, c', b, rfl, ha, hb⟩ := ih h.2
        exact ⟨.char c :: a, c', b, rfl, by rw [eraseParts_char, ha, h.1], hb⟩

/-- No import starts where a word goes on with its id: behind the white space comes a quote, and not
a word. -/
lemma IsClosing.match?_append {v : List Char} (hv : IsClosing v) (rest : List Char) :
    match? (v ++ rest) = none := by
  obtain ⟨blank, _, rfl, hblank, q, mark, path, q', rfl, hq, -⟩ := hv
  rw [← Option.not_isSome_iff_eq_none, isSome_match?_iff]
  rintro ⟨_, rest', ⟨gap, blank', id, rfl, hgap, -⟩, heq⟩
  have hgap' : ∀ c ∈ gap, Text.isBlank c = true := by
    intro c hc
    rcases isGap_iff.mp (hgap c hc) with rfl | rfl <;> decide
  have hword (cs) : "import".toList ++ cs = 'i' :: ("mport".toList ++ cs) := rfl
  simp only [List.append_assoc, List.cons_append, hword] at heq
  have hrun := congrArg (fun cs => (run Text.isBlank cs).2) heq
  simp only [run_append hblank (isBlank_of_isQuote hq),
    run_append hgap' (show Text.isBlank 'i' = false by decide), List.cons.injEq] at hrun
  rw [hrun.1] at hq
  exact absurd hq (by decide)

/-- An import on a line that has already begun is kept as it is: no import part starts inside it. -/
lemma Divides.isSome_match?_eraseParts {ps : List Part} (h : Divides false ps)
    (hsome : (match? (textOf ps)).isSome = true) : (match? (eraseParts ps)).isSome = true := by
  rcases eq_chars_or_import ps with hchars | ⟨cs, t, qs, rfl⟩
  · rw [hchars, textOf_chars] at hsome
    rwa [hchars, eraseParts_chars]
  · obtain ⟨head, rest, hhead, heq⟩ := isSome_match?_iff.mp hsome
    obtain ⟨hline, ht, -⟩ := h.of_import
    rw [textOf_chars] at hline
    rw [textOf_append, textOf_chars, textOf_import] at heq
    obtain ⟨v, rfl, hv⟩ | ⟨w, rfl, -⟩ := List.append_eq_append_iff.mp heq
    · -- the part would start where the id comes next
      rw [hv, (hhead.split hline).2.match?_append] at ht
      cases ht
    · rw [eraseParts_append, eraseParts_chars, isSome_match?_iff]
      exact ⟨head, _, hhead, List.append_assoc _ _ _⟩

/-- An import behind another one on its line is left. -/
lemma Crowded.hasImport {flag : Bool} {ps : List Part} (h : Divides flag ps) (hps : Crowded ps) :
    HasImport (eraseParts ps) := by
  obtain ⟨a, t, b, rfl, hline, hsome⟩ := hps
  obtain ⟨-, -, hb⟩ := h.of_import
  rw [hline] at hb
  refine ⟨eraseParts a, eraseParts b, by simp, ?_, hb.isSome_match?_eraseParts hsome⟩
  exact lineStart_true_of_lineStart h.lineStart_eraseParts

/-- A word and an id that are brought together make up an import. -/
lemma Parted.hasImport {ps : List Part} (hps : Parted ps) : HasImport (eraseParts ps) := by
  obtain ⟨a, t, b, front, opening, closing, behind, rfl, ha, hfront, hopening, hb, hclosing⟩ := hps
  refine ⟨front, (opening ++ closing) ++ behind, by simp [ha, hb], hfront, ?_⟩
  exact isSome_match?_iff.mpr ⟨_, _, hopening.isHead_append hclosing, rfl⟩

/-- An import that was there before, and is none of the parts, stood on a line that had begun: at
the start of all parts, or behind another import.

**Proof sketch.** At the start of a line the import would be a part, so the line had begun. What
stands before it on this line is erased, so it is an import, unless nothing stands before. -/
lemma Divides.crowded_of_isSome_match? {flag : Bool} {a b : List Part} {c : Char}
    (h : Divides flag (a ++ .char c :: b)) (ha : lineStart true (eraseParts a) = true)
    (hsome : (match? (c :: textOf b)).isSome = true) :
    (flag = false ∧ a = []) ∨ Crowded (a ++ .char c :: b) := by
  have hline : lineStart flag (textOf a) = false := by
    by_contra hline
    have hdiv := h.of_append
    rw [Bool.not_eq_false] at hline
    rw [hline] at hdiv
    rw [hdiv.match?_eq_none] at hsome
    cases hsome
  obtain rfl | ⟨a, p, rfl⟩ := a.eq_nil_or_concat
  · exact .inl ⟨hline, rfl⟩
  · rw [List.concat_eq_append] at *
    cases p with
    | char d =>
      simp only [eraseParts_append, textOf_append, lineStart_append] at ha hline
      exact absurd (ha.symm.trans hline) (by decide)
    | «import» t =>
      refine .inr ⟨a, t, .char c :: b, List.append_assoc _ _ _, ?_, hsome⟩
      rw [List.append_assoc] at h
      rw [textOf_append, lineStart_append, h.of_import.1] at hline
      simpa using hline

/-- **What erased parts leave**: an import that the line before them had begun with, one behind
another one on its line, or one that was brought together.

**Proof sketch.** The head of an import in the erased text comes from characters of the parts. If
these stand next to each other, then the head was there before, and it belongs to a part of its own
unless its line had begun. Otherwise it is parted at the start of a line. -/
theorem Divides.hasImport_eraseParts_iff {flag : Bool} {ps : List Part} (h : Divides flag ps) :
    HasImport (eraseParts ps) ↔
      (flag = false ∧ (match? (textOf ps)).isSome = true) ∨ Crowded ps ∨ Parted ps := by
  constructor
  · rintro ⟨u, v, heq, hu, hv⟩
    obtain ⟨head, rest, hhead, rfl⟩ := isSome_match?_iff.mp hv
    obtain ⟨a, c, b, rfl, rfl, hb⟩ :=
      exists_of_eraseParts_eq_append heq (by simp [hhead.ne_nil])
    by_cases htext : ∃ rest', textOf (.char c :: b) = head ++ rest'
    · -- the head was there before
      obtain ⟨rest', htext⟩ := htext
      have hsome : (match? (c :: textOf b)).isSome = true :=
        isSome_match?_iff.mpr ⟨head, rest', hhead, htext⟩
      rcases h.crowded_of_isSome_match? hu hsome with ⟨hflag, rfl⟩ | hcrowded
      · exact .inl ⟨hflag, hsome⟩
      · exact .inr (.inl hcrowded)
    · -- an import part stands inside the head
      refine .inr (.inr ?_)
      rcases eq_chars_or_import (.char c :: b) with hchars | ⟨cs, t, qs, hcs⟩
      · rw [hchars, eraseParts_chars] at hb
        exact absurd ⟨rest, hb⟩ htext
      · rw [hcs] at hb htext h ⊢
        rw [eraseParts_append, eraseParts_chars, eraseParts_import] at hb
        obtain ⟨v, rfl, hqs⟩ | ⟨w, rfl, -⟩ := List.append_eq_append_iff.mp hb
        · have hcs' : cs ≠ [] := by
            rintro rfl
            cases hcs
          rw [← List.append_assoc] at h
          have hline := lineStart_true_of_lineStart h.lineStart_eraseParts
          rw [eraseParts_append, lineStart_append, eraseParts_chars,
            lineStart_eq_of_ne_nil hcs' _ false] at hline
          obtain ⟨hopening, hclosing⟩ := hhead.split hline
          exact ⟨a ++ cs.map .char, t, qs, eraseParts a, cs, v, rest, by simp, by simp, hu,
            hopening, hqs, hclosing⟩
        · exact absurd ⟨w ++ (t ++ textOf qs), by simp⟩ htext
  · rintro (⟨rfl, hsome⟩ | hcrowded | hparted)
    · exact ⟨[], eraseParts ps, rfl, rfl, h.isSome_match?_eraseParts hsome⟩
    · exact hcrowded.hasImport h
    · exact hparted.hasImport

/-! ## A line in the place of the first import -/

/-- The parts behind the first import. -/
def behindFirst : List Part → List Part
  | [] => []
  | .char _ :: ps => behindFirst ps
  | .import _ :: ps => ps

lemma behindFirst_chars (cs : List Char) : behindFirst (cs.map .char) = [] := by
  induction cs with
  | nil => rfl
  | cons c cs ih => exact ih

lemma behindFirst_import (cs t : List Char) (ps : List Part) :
    behindFirst (cs.map .char ++ .import t :: ps) = ps := by
  induction cs with
  | nil => rfl
  | cons c cs ih => exact ih

/-- Imports that stand on one line stand behind the characters before them. -/
lemma crowded_chars_append (cs : List Char) {ps : List Part} :
    Crowded (cs.map .char ++ ps) ↔ Crowded ps := by
  induction cs with
  | nil => rfl
  | cons c cs ih =>
    rw [← ih]
    constructor
    · rintro ⟨a, t, b, heq, h⟩
      cases a with
      | nil => cases heq
      | cons p a => exact ⟨a, t, b, (List.cons.inj heq).2, h⟩
    · rintro ⟨a, t, b, heq, h⟩
      exact ⟨.char c :: a, t, b, congrArg _ heq, h⟩

/-- Two imports on one line are the first and what follows it, or they follow it. -/
lemma crowded_import {t : List Char} {ps : List Part} :
    Crowded (.import t :: ps) ↔
      (lineStart true t = false ∧ (match? (textOf ps)).isSome = true) ∨ Crowded ps := by
  constructor
  · rintro ⟨a, t, b, heq, h⟩
    cases a with
    | nil =>
      cases heq
      exact .inl h
    | cons p a => exact .inr ⟨a, t, b, (List.cons.inj heq).2, h⟩
  · rintro (h | ⟨a, t', b, rfl, h⟩)
    · exact ⟨[], t, ps, rfl, h⟩
    · exact ⟨.import t :: a, t', b, rfl, h⟩

/-- The characters of the line that imports a style sheet. -/
lemma toList_assetImport (asset : String) :
    ∃ cs, (assetImport asset).toList = "import \"./".toList ++ (cs ++ ['\n']) ∧ '\n' ∉ cs := by
  refine ⟨(baseName asset).toList.flatMap Text.scriptEscape ++ "\";".toList, ?_, ?_⟩
  · have hstart : "./".toList.flatMap Text.scriptEscape = "./".toList := by decide
    simp only [assetImport, Text.scriptQuote, Text.quoteList, String.toList_append,
      String.toList_ofList, List.flatMap_append, hstart]
    simp
  · rw [List.mem_append, not_or]
    exact ⟨not_mem_flatMap_scriptEscape _, by decide⟩

/-- **The line that imports a style sheet** is no import of a virtual module: its first character
starts none, and the others do not start a line.

**Proof sketch.** The line starts with the word but has no id of a virtual module behind it. None of
its other characters starts a line, since the line feed is its last one. -/
lemma parts_assetImport (asset : String) (post : List Char) :
    parts ((assetImport asset).toList ++ post) =
      (assetImport asset).toList.map .char ++ parts post := by
  obtain ⟨cs, hline, hcs⟩ := toList_assetImport asset
  obtain ⟨htext, hdiv⟩ := parts_eq_iff.mp (Eq.refl (parts post))
  have hfirst : (assetImport asset).toList = 'i' :: ("mport \"./".toList ++ cs ++ ['\n']) := by
    rw [hline, List.append_assoc]
    rfl
  have hfeed : '\n' ∉ "mport \"./".toList ++ cs := by
    rw [List.mem_append, not_or]
    exact ⟨by decide, hcs⟩
  have hboth : textOf ((assetImport asset).toList.map .char ++ parts post) =
      (assetImport asset).toList ++ post := by
    rw [textOf_append, textOf_chars, htext]
  have hnone : match? ((assetImport asset).toList ++ post) = none := by
    rw [hline]
    rfl
  rw [parts_eq_iff]
  refine ⟨hboth, ?_⟩
  rw [← hboth, hfirst, List.map_cons, List.cons_append, textOf_char] at hnone
  rw [hfirst, List.map_cons, List.cons_append]
  refine .char (fun _ => hnone) ?_
  rw [List.map_append, List.append_assoc]
  exact .chars hfeed hdiv

/-- The line that imports a style sheet keeps what stands before and behind it apart. -/
lemma hasImport_assetImport_iff (asset : String) {pre : List Char}
    (hpre : lineStart true pre = true) (post : List Char) :
    HasImport (pre ++ ((assetImport asset).toList ++ post)) ↔ HasImport pre ∨ HasImport post := by
  have hhead : ∀ c ∈ ((assetImport asset).toList ++ post).head?,
      Text.isBlank c = false ∧ isQuote c = false := by
    obtain ⟨cs, hline, -⟩ := toList_assetImport asset
    intro c hc
    rw [hline] at hc
    obtain rfl : 'i' = c := by simpa using hc
    decide
  simp only [hasImport_iff, parts_append hpre hhead, parts_assetImport, List.mem_append,
    List.mem_map, reduceCtorEq, and_false, exists_false, false_or, exists_or]

/-- **What is left when a line is put in the place of the first import**: only what stands behind
that import can be brought together.

**Proof sketch.** If the code has an import, the line takes the place of the first one. What stands
before has no import and the line is none, so only what stands behind can have one, and there the
imports are erased. Without an import the code stays as it is behind the line. -/
theorem hasImport_redirect_iff (asset code : String) :
    HasImport (redirect (assetImport asset) code).toList ↔
      Crowded (parts code.toList) ∨ Parted (behindFirst (parts code.toList)) := by
  by_cases himport : HasImport code.toList
  · obtain hchars | ⟨cs, t, ps, hparts⟩ := eq_chars_or_import (parts code.toList)
    · rw [(parts_eq_iff.mp rfl).1] at hchars
      exact absurd himport (parts_eq_chars_iff.mp hchars)
    · have hdiv := (parts_eq_iff.mp hparts).2
      obtain ⟨hline, -, hps⟩ := hdiv.of_import
      rw [textOf_chars] at hline
      rw [toList_redirect hparts, hasImport_assetImport_iff asset hline, hparts,
        crowded_chars_append, crowded_import, behindFirst_import, hps.hasImport_eraseParts_iff,
        or_iff_right hdiv.not_hasImport, or_assoc]
  · have hchars := parts_eq_chars_iff.mpr himport
    have hnil : ¬ HasImport [] := parts_eq_chars_iff.mp rfl
    have hnew : HasImport ([] ++ ((assetImport asset).toList ++ code.toList)) ↔ _ :=
      hasImport_assetImport_iff asset rfl code.toList
    rw [List.nil_append, or_iff_right hnil] at hnew
    rw [redirect_of_not_hasImport himport, String.toList_append, hnew, hchars, behindFirst_chars,
      ← List.append_nil (code.toList.map _), crowded_chars_append]
    refine iff_of_false himport ?_
    rintro (⟨a, t, b, heq, -⟩ | ⟨a, t, b, _, _, _, _, heq, -⟩) <;> cases a <;> cases heq

end VirtualImport

open VirtualImport

/-- The parts of the code of a chunk that are put together when it is finished: those behind its
first import if a line is put there, and all of them otherwise. -/
def joined (registry : Registry) (c : Chunk) : List Part :=
  if registry.aggregate c.moduleIds = "" then parts c.code.toList
  else behindFirst (parts c.code.toList)

/-- **A chunk of a finished bundle has an import of a virtual module** exactly if two stood on one
line of its code, or one stood between the word and the id of another among the parts that were put
together.

**Proof sketch.** A chunk without styles is erased and one with styles is redirected. Erasing brings
together what stood around an import, and `Divides.hasImport_eraseParts_iff` and
`hasImport_redirect_iff` say when this makes a new one. -/
theorem hasImport_finished_iff (registry : Registry) (chunks : List Chunk) :
    List.Forall₂ (fun c finished => HasImport finished.code.toList ↔
        Crowded (parts c.code.toList) ∨ Parted (joined registry c))
      chunks (finishBundle registry chunks).result.1 := by
  simp only [finishBundle, List.map_map, List.forall₂_map_right_iff, List.forall₂_same]
  intro c _
  by_cases hcss : registry.aggregate c.moduleIds = ""
  · have hdiv := (parts_eq_iff.mp (Eq.refl (parts c.code.toList))).2
    simp only [Function.comp, finishChunk, joined, hcss, if_true, toList_erase]
    rw [hdiv.hasImport_eraseParts_iff]
    simp
  · simp only [Function.comp, finishChunk, joined, hcss, if_false]
    exact hasImport_redirect_iff _ _

/-- Of two imports on one line the second is left. -/
theorem second_import_left :
    let code := "import\"virtual:styled-static/a\";import\"virtual:styled-static/b\""
    let left := "import\"virtual:styled-static/b\""
    (finishBundle .empty [⟨"c.js", [], code⟩]).result.1 = [⟨"c.js", [], left⟩] ∧
      HasImport left.toList := by
  exact ⟨by decide, [], _, rfl, rfl, by decide⟩

-- the other way: a word and an id that an import stood between
example : erase "import\nimport 'virtual:styled-static/a'\n'virtual:styled-static/b'" =
    "import\n'virtual:styled-static/b'" := by decide

end StyleExtract
