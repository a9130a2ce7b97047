import Mathlib.Tactic.Common
import StyleExtract.Registry.Report

/-!
# Replacing the modules of one file

All modules of a file are replaced together, and a file without modules is not registered at all.
This file says what such an update does to a registry, and that it does nothing else.

## Main definitions

* `Registry.Sets` — an update of one file, which leaves all other files as they were.

## Main results

* `Registry.sets_replaceFile` — what replacing the modules of a file does.
* `Registry.Sets.entriesFor_eq` — the modules of every file afterwards.
* `Registry.replaceFile_replaceFile` — the same update once more changes nothing.
-/

namespace StyleExtract.Registry

/-! ## Numbered modules -/

@[simp] lemma length_number (file : String) (css : List String) :
    (number file css).length = css.length := by
  simp [number]

@[simp] lemma number_nil (file : String) : number file [] = [] := rfl

/-- Numbered modules have the given styles. -/
@[simp] lemma map_css_number (file : String) (css : List String) :
    (number file css).map CssModule.css = css := by
  refine List.ext_getElem (by simp) fun i hi hi' => ?_
  simp [number, CssModule.make]

/-- Modules are numbered from zero without gaps. -/
@[simp] lemma map_index_number (file : String) (css : List String) :
    (number file css).map CssModule.index = List.range css.length := by
  refine List.ext_getElem (by simp) fun i hi hi' => ?_
  simp [number, CssModule.make]

/-! ## Modules of files -/

section Modules

variable {r : Registry} {m : CssModule}

/-- The modules of a registry are those of its files. -/
lemma mem_modules_iff : m ∈ r.modules ↔ ∃ e ∈ r.files.entries, m ∈ e.2 := by
  rw [modules, OrderedMap.values, List.mem_flatten]
  constructor
  · rintro ⟨ms, hms, hm⟩
    obtain ⟨e, he, rfl⟩ := List.mem_map.mp hms
    exact ⟨e, he, hm⟩
  · rintro ⟨e, he, hm⟩
    exact ⟨e.2, List.mem_map_of_mem he, hm⟩

/-- The modules that a file id finds stand under its one form. -/
lemma mem_entriesFor_iff_exists {file : String} :
    m ∈ r.entriesFor file ↔ ∃ ms, (FileId.normalize file, ms) ∈ r.files.entries ∧ m ∈ ms := by
  simp only [entriesFor, OrderedMap.mem_entries_iff]
  cases r.files.get? (FileId.normalize file) <;> simp

end Modules

/-! ## Updates of one file -/

/-- **An update of one file**: afterwards its modules are those of the given styles, numbered from
zero, and it is not registered if there are none. Apart from this file the registries are the same,
and the other files stand in the same order. -/
structure Sets (before after : Registry) (file : String) (css : List String) : Prop where
  /-- The modules of the file. -/
  own : after.files.get? (FileId.normalize file) =
    if css = [] then none else some (number (FileId.normalize file) css)
  /-- The other files with their modules, in order. -/
  others : after.files.erase (FileId.normalize file) = before.files.erase (FileId.normalize file)

/-- **Replacing the modules of a file** updates this file. -/
theorem sets_replaceFile (r : Registry) (file : String) (css : List String) :
    r.Sets (r.replaceFile file css).2 file css := by
  unfold replaceFile
  by_cases hcss : css = []
  · subst hcss
    exact ⟨by simp, by simp⟩
  · have hms : (number (FileId.normalize file) css).isEmpty = false := by
      rw [List.isEmpty_eq_false_iff, ← List.length_pos_iff, length_number]
      exact List.length_pos_iff.mpr hcss
    exact ⟨by simp [hms, hcss], by simp [hms]⟩

/-- **Replacing the modules of a file by the same ones once more** leaves the registry as it is,
with all files in their places. -/
theorem replaceFile_replaceFile (r : Registry) (file : String) (css : List String) :
    ((r.replaceFile file css).2.replaceFile file css).2 = (r.replaceFile file css).2 := by
  unfold replaceFile
  dsimp only
  split
  · rw [OrderedMap.erase_erase]
  · rw [OrderedMap.insert_insert]

/-- Registries that are the same apart from one file have the same modules of every other file. -/
lemma entriesFor_of_erase_eq {before after : Registry} {file f : String}
    (h : after.files.erase (FileId.normalize file) = before.files.erase (FileId.normalize file))
    (hf : FileId.normalize f ≠ FileId.normalize file) :
    after.entriesFor f = before.entriesFor f := by
  rw [entriesFor, entriesFor, OrderedMap.get?_eq_of_erase_eq h hf]

namespace Sets

variable {before after : Registry} {file : String} {css : List String}

/-- **The modules of every file after an update**: those of the given styles for the file itself,
and the same as before for every other file. -/
theorem entriesFor_eq (h : before.Sets after file css) (f : String) :
    after.entriesFor f =
      if FileId.normalize f = FileId.normalize file then number (FileId.normalize file) css
      else before.entriesFor f := by
  split
  · next hf =>
    rw [entriesFor, hf, h.own]
    split
    · next hcss => simp [hcss]
    · rfl
  · next hf => exact entriesFor_of_erase_eq h.others hf

/-- The modules of the file itself. -/
lemma entriesFor_self (h : before.Sets after file css) :
    after.entriesFor file = number (FileId.normalize file) css := by
  rw [h.entriesFor_eq, if_pos rfl]

end Sets

end StyleExtract.Registry
