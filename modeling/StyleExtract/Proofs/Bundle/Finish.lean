import Mathlib.Data.List.Forall2
import Mathlib.Tactic.Common
import StyleExtract.Proofs.Bundle.Assets
import StyleExtract.Proofs.Bundle.Residue
import StyleExtract.Proofs.Script.Binders
import StyleExtract.Session

/-!
# What finishing a bundle does

Finishing a bundle writes the style sheets of its chunks and changes the code of every chunk. This
file says what becomes of the code without saying how it is read, and what is left as it was.

## Main definitions

* `VirtualImport.IsErased` — a code without its imports of virtual modules.
* `VirtualImport.IsRedirected` — a code with a line in the place of the first of them.
* `IsImportLine` — a line on which a module is imported.
* `Finished` — a chunk and what it is finished to.

## Main results

* `VirtualImport.isErased_iff`, `VirtualImport.isRedirected_iff` — exactly one text is each of
  these.
* `isImportLine_assetImport` — the line that imports a style sheet.
* `Session.finish_spec` — what is written, what is changed and what is not.

## Design

The relations on codes are about parts that divide them, and not about the pass in which these are
found. Only one list of parts divides a text, so each relation holds of one text, and a chunk can be
finished in no other way once its line is known.
-/

namespace StyleExtract

/-! ## Codes without their imports -/

namespace VirtualImport

/-- **A text is what a code is without its imports.** -/
def IsErased (code left : List Char) : Prop :=
  ∃ ps, textOf ps = code ∧ Divides true ps ∧ left = eraseParts ps

/-- **A text is what a code is with a line put into it** and without its imports. -/
inductive IsRedirected (line : List Char) : List Char → List Char → Prop
  /-- The line stands in the place of the first import, which no other comes before. -/
  | first {cs t : List Char} {ps : List Part} (h : Divides true (cs.map .char ++ .import t :: ps)) :
    IsRedirected line (cs ++ (t ++ textOf ps)) (cs ++ (line ++ eraseParts ps))
  /-- The line stands at the start of a code that has none. -/
  | start {code : List Char} (h : ¬ HasImport code) : IsRedirected line code (line ++ code)

/-- A code without its imports is the one text that erasing them gives. -/
lemma isErased_iff {code : String} {left : List Char} :
    IsErased code.toList left ↔ left = (erase code).toList := by
  rw [toList_erase]
  constructor
  · rintro ⟨ps, htext, hdiv, rfl⟩
    rw [parts_eq_iff.mpr ⟨htext, hdiv⟩]
  · rintro rfl
    obtain ⟨htext, hdiv⟩ := parts_eq_iff.mp (Eq.refl (parts code.toList))
    exact ⟨_, htext, hdiv, rfl⟩

/-- A code with a line in the place of its imports is the one text that redirecting them gives.

**Proof sketch.** The parts of a code are unique (`parts_eq_iff`). If there is an import among them,
both sides put the line in the place of the first and leave the others out; if there is none, both
put it in front. -/
lemma isRedirected_iff {line code : String} {left : List Char} :
    IsRedirected line.toList code.toList left ↔ left = (redirect line code).toList := by
  constructor
  · intro h
    generalize hcode : code.toList = cs at h
    cases h with
    | @first cs t ps hdiv =>
      have hparts : parts code.toList = cs.map .char ++ .import t :: ps := by
        rw [parts_eq_iff, hcode, textOf_append, textOf_chars, textOf_import]
        exact ⟨rfl, hdiv⟩
      exact (toList_redirect hparts line).symm
    | start himport =>
      subst hcode
      rw [redirect_of_not_hasImport himport, String.toList_append]
  · rintro rfl
    obtain ⟨htext, hdiv⟩ := parts_eq_iff.mp (Eq.refl (parts code.toList))
    obtain hchars | ⟨cs, t, ps, hparts⟩ := eq_chars_or_import (parts code.toList)
    · rw [htext] at hchars
      have himport := parts_eq_chars_iff.mp hchars
      rw [redirect_of_not_hasImport himport, String.toList_append]
      exact .start himport
    · rw [hparts] at htext hdiv
      rw [toList_redirect hparts, ← htext, textOf_append, textOf_chars, textOf_import]
      exact .first hdiv

end VirtualImport

open VirtualImport

/-! ## The line that imports a style sheet -/

/-- **A module is imported on a line of its own**: the text ends with its only line feed, and all
that stands before it is the import. -/
def IsImportLine (line specifier : String) : Prop :=
  (∃ cs, line.toList = cs ++ ['\n'] ∧ '\n' ∉ cs) ∧ Script.readBareImport? line = some specifier

/-- The line that imports a style sheet has the name of its file behind a dot. -/
lemma isImportLine_assetImport (asset : String) :
    IsImportLine (assetImport asset) ("./" ++ baseName asset) := by
  refine ⟨?_, Script.readBareImport?_text _⟩
  obtain ⟨cs, hline, hfeed⟩ := toList_assetImport asset
  refine ⟨"import \"./".toList ++ cs, ?_, ?_⟩
  · rw [hline, List.append_assoc]
  · rw [List.mem_append, not_or]
    exact ⟨by decide, hfeed⟩

/-! ## Finished chunks -/

/-- **A chunk and what it is finished to.** -/
structure Finished (registry : Registry) (c finished : Chunk) : Prop where
  /-- The chunk keeps its file. -/
  fileName : finished.fileName = c.fileName
  /-- It is built from the same files and modules. -/
  moduleIds : finished.moduleIds = c.moduleIds
  /-- A chunk without styles loses its imports. -/
  erased : c.ownsStyles registry = false → IsErased c.code.toList finished.code.toList
  /-- One with styles gets a line that imports its style sheet from its own directory. -/
  redirected : c.ownsStyles registry = true →
    ∃ line specifier, IsImportLine line specifier ∧
      resolveFrom? c.fileName specifier = some (c.sheet registry).fileName ∧
      IsRedirected line.toList c.code.toList finished.code.toList

/-- Every chunk is finished as a chunk should be. -/
lemma finished_finishChunk (registry : Registry) (c : Chunk) :
    Finished registry c (finishChunk registry c).1 := by
  unfold finishChunk
  by_cases hcss : registry.aggregate c.moduleIds = ""
  · have hnone : c.ownsStyles registry = false := by simp [Chunk.ownsStyles, hcss]
    rw [if_pos hcss]
    refine ⟨rfl, rfl, fun _ => isErased_iff.mpr rfl, fun h => ?_⟩
    rw [hnone] at h
    cases h
  · have hsome : c.ownsStyles registry = true := by simp [Chunk.ownsStyles, hcss]
    rw [if_neg hcss]
    refine ⟨rfl, rfl, fun h => ?_, fun _ => ?_⟩
    · rw [hsome] at h
      cases h
    · exact ⟨_, _, isImportLine_assetImport _, resolveFrom?_assetName _, isRedirected_iff.mpr rfl⟩

namespace Session

/-- **What finishing a bundle does.** The style sheets are those of the chunks that own styles, in
their order. Each chunk is finished by itself: what becomes of it depends neither on the chunks
beside it nor on what the session holds besides its modules, and these stay.

**Proof sketch.** The bundle is finished chunk by chunk, and the function that finishes one chunk
takes the registry and the chunk and nothing else. -/
theorem finish_spec (s : Session) (chunks : List Chunk) :
    (s.finish chunks).registry = s.registry ∧
    (s.finish chunks).result.2 =
      (chunks.filter (Chunk.ownsStyles s.registry)).map (Chunk.sheet s.registry) ∧
    List.Forall₂ (Finished s.registry) chunks (s.finish chunks).result.1 ∧
    ∀ (s' : Session) (chunks' : List Chunk) (i j : ℕ), s'.registry = s.registry →
      chunks'[j]? = chunks[i]? →
      (s'.finish chunks').result.1[j]? = (s.finish chunks).result.1[i]? := by
  have hresult : ∀ (s : Session) (chunks : List Chunk), (s.finish chunks).result.1 =
      chunks.map fun c => (finishChunk s.registry c).1 := by
    intro s chunks
    simp only [finish, finishBundle, List.map_map, Function.comp_def]
  refine ⟨rfl, assets_finishBundle _ _, ?_, fun s' chunks' i j hregistry hchunk => ?_⟩
  · rw [hresult, List.forall₂_map_right_iff, List.forall₂_same]
    exact fun c _ => finished_finishChunk _ c
  · rw [hresult, hresult, List.getElem?_map, List.getElem?_map, hchunk, hregistry]

/-- Two chunks, and the same two in the other order in a session with other options. -/
theorem finish_spec_sample :
    let modules := Registry.run [.replaceFile "s.ts" ["x"]]
    let styled : Chunk :=
      ⟨"assets/a.js", ["s.ts"], "y;\nimport \"virtual:styled-static/s.ts/0.css\";\nz"⟩
    let plain : Chunk := ⟨"b.js", [], "import \"virtual:styled-static/s.ts/0.css\";\nw"⟩
    let styled' : Chunk := ⟨"assets/a.js", ["s.ts"], "y;\nimport \"./a.css\";\nz"⟩
    let finished := (finish ⟨.standard, modules⟩ [styled, plain]).result
    finished.1[0]? = some styled' ∧ finished.2 = [⟨"assets/a.css", "x"⟩] ∧
    Finished modules styled styled' ∧
    (finish ⟨.production, modules⟩ [plain, styled]).result.1[1]? = some styled' := by
  intro modules styled plain styled' finished
  obtain ⟨-, -, hfinished, hsame⟩ := finish_spec ⟨.standard, modules⟩ [styled, plain]
  have hfirst : finished.1[0]? = some styled' := by decide +kernel
  have hsheets : finished.2 = [⟨"assets/a.css", "x"⟩] := by decide +kernel
  have hother := hsame ⟨.production, modules⟩ [plain, styled] 0 1 rfl rfl
  refine ⟨hfirst, hsheets, ?_, hother.trans hfirst⟩
  obtain ⟨hlt, hget⟩ := List.getElem?_eq_some_iff.mp hfirst
  rw [← hget]
  exact hfinished.get (by decide) hlt

end Session

end StyleExtract
