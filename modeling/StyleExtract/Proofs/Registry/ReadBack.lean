import Mathlib.Tactic.Common
import StyleExtract.Proofs.Registry.Refinement

/-!
# Loading what was written

Styles are loaded by the id of their module, which the registry searches for among the modules of
all files. An id tells the path of a file and not the file, so two files with the same path have
modules with the same ids, and only those of the first file are found. This file says which module
is found, and when that is the one that was written last.

## Main definitions

* `Registry.Foremost` — the first module with a path and a number.
* `Registry.Hides` — another file has the foremost module, with other styles.
* `Registry.Loads` — an id loads styles, with its marker and without.

## Main results

* `Registry.load?_ofFile_iff` — what the id of a module loads.
* `Registry.written_loads_iff` — written styles are loaded exactly if no other file hides them.
* `Registry.written_not_loaded` — two files of which the first hides the second.

## Design

The search is for ids, and `VirtualId.ofFile_eq_iff` turns it into one for paths and numbers. The
module that was written is a candidate, so the search finds something, and the question is only
whether a file further in front has a candidate too.
-/

namespace StyleExtract.Registry

/-! ## The module that is found -/

/-- **The foremost module with a path and a number**: it stands in the first file with this path
that has a module with this number. -/
structure Foremost (r : Registry) (path : String) (index : ℕ) (m : CssModule) : Prop where
  /-- It has the number. -/
  number : m.index = index
  /-- Its file has the path, and no file in front of it has the path and a module with the
  number. -/
  first : ∃ front key ms back, r.files.entries = front ++ (key, ms) :: back ∧
    VirtualId.path key = path ∧ m ∈ ms ∧
    ∀ e ∈ front, VirtualId.path e.1 = path → ∀ m' ∈ e.2, m'.index ≠ index

/-- **Another file hides styles** under a number of a file: it has the foremost module with the path
of the file and the number, and this module has other styles. -/
def Hides (r : Registry) (key : String) (index : ℕ) (css : String) : Prop :=
  ∃ m, r.Foremost (VirtualId.path key) index m ∧ m.file ≠ key ∧ m.css ≠ css

/-- **An id loads styles**, as it is and in its marked form. -/
structure Loads (r : Registry) (id css : String) : Prop where
  /-- The id as it is. -/
  plain : r.load? id = some css
  /-- The marked form. -/
  marked : ∃ marked, VirtualId.canonical? id = some marked ∧ r.load? marked = some css

/-- A list ordered by number has one module with each number. -/
lemma Ordered.eq_of_index_eq {ms : List CssModule} (h : Ordered ms) {m m' : CssModule}
    (hm : m ∈ ms) (hm' : m' ∈ ms) (heq : m.index = m'.index) : m = m' := by
  have hnodup : (ms.map CssModule.index).Nodup :=
    List.pairwise_map.mpr (h.imp fun hlt => Nat.ne_of_lt hlt)
  exact List.inj_on_of_nodup_map hnodup hm hm' heq

section Search

variable {r : Registry} {file : String} {index : ℕ}

/-- In a well-formed registry, a module has the id that belongs to a file and a number exactly if
its file has the path of the file and it has the number. -/
lemma WellFormed.id_eq_iff (h : r.WellFormed) {e : String × List CssModule}
    (he : e ∈ r.files.entries) {m : CssModule} (hm : m ∈ e.2) :
    m.id = VirtualId.ofFile file index ↔
      m.index = index ∧ VirtualId.path e.1 = VirtualId.path file := by
  rw [(h.made e he m hm).2.1, VirtualId.ofFile_eq_iff]

/-- **The search for an id finds the foremost module** with its path and its number.

**Proof sketch.** The search goes through the files in order, and through the modules of each file
in the order of their numbers, so no module before the one that is found has the id. Within a file
nothing has to be said about them: their numbers are smaller. -/
theorem entry?_ofFile_iff (h : r.WellFormed) {m : CssModule} :
    r.entry? (VirtualId.ofFile file index) = some m ↔
      r.Foremost (VirtualId.path file) index m := by
  unfold entry?
  rw [VirtualId.importForm_ofFile, modules, OrderedMap.values, List.find?_flatten_eq_some_iff]
  constructor
  · rintro ⟨hid, before, ys, zs, behind, hvalues, hbefore, -⟩
    obtain ⟨front, rest, hentries, rfl, hrest⟩ := List.map_eq_append_iff.mp hvalues
    obtain ⟨⟨key, ms⟩, back, rfl, hms, -⟩ := List.map_eq_cons_iff.mp hrest
    have hmem : m ∈ ms := by
      have hms : ms = ys ++ m :: zs := hms
      simp [hms]
    have hentry : (key, ms) ∈ r.files.entries := by simp [hentries]
    obtain ⟨hnumber, hpath⟩ := (h.id_eq_iff hentry hmem).mp (of_decide_eq_true hid)
    refine ⟨hnumber, front, key, ms, back, hentries, hpath, hmem, ?_⟩
    intro e he hpath' m' hm' hnumber'
    have hid' := hbefore e.2 (List.mem_map_of_mem he) m' hm'
    have heq := (h.id_eq_iff (by simp [hentries, he]) hm').mpr ⟨hnumber', hpath'⟩
    simp [heq] at hid'
  · rintro ⟨hnumber, front, key, ms, back, hentries, hpath, hmem, hfront⟩
    have hentry : (key, ms) ∈ r.files.entries := by simp [hentries]
    obtain ⟨ys, zs, rfl⟩ := List.append_of_mem hmem
    refine ⟨decide_eq_true ((h.id_eq_iff hentry hmem).mpr ⟨hnumber, hpath⟩), front.map Prod.snd,
      ys, zs, back.map Prod.snd, by simp [hentries], ?_, ?_⟩
    · intro ms' hms' m' hm'
      obtain ⟨e, he, rfl⟩ := List.mem_map.mp hms'
      have hid : m'.id ≠ VirtualId.ofFile file index := by
        intro hid
        obtain ⟨hnumber', hpath'⟩ := (h.id_eq_iff (by simp [hentries, he]) hm').mp hid
        exact hfront e he hpath' m' hm' hnumber'
      simpa using hid
    · intro m' hm'
      have hlt : m'.index < m.index :=
        (List.pairwise_append.mp (h.ordered _ hentry)).2.2 m' hm' m List.mem_cons_self
      have hid : m'.id ≠ VirtualId.ofFile file index := by
        intro hid
        obtain ⟨hnumber', -⟩ := (h.id_eq_iff hentry (by simp [hm'])).mp hid
        omega
      simpa using hid

/-- **What the id of a module loads**: the styles of the foremost module with its path and its
number. -/
theorem load?_ofFile_iff (h : r.WellFormed) {css : String} :
    r.load? (VirtualId.ofFile file index) = some css ↔
      ∃ m, r.Foremost (VirtualId.path file) index m ∧ m.css = css := by
  rw [load?, Option.map_eq_some_iff]
  exact exists_congr fun m => and_congr_left fun _ => entry?_ofFile_iff h

/-- A marked id loads what the id loads. -/
lemma load?_marked (r : Registry) (id : String) :
    r.load? (String.singleton idMarker ++ id) = r.load? id := by
  unfold load? entry?
  rw [VirtualId.importForm_marked]

/-- Both forms of the id of a module load the same. -/
lemma loads_ofFile_iff {css : String} :
    r.Loads (VirtualId.ofFile file index) css ↔
      r.load? (VirtualId.ofFile file index) = some css := by
  constructor
  · intro h
    exact h.plain
  · intro h
    exact ⟨h, _, VirtualId.canonical?_ofFile file index, (load?_marked r _).trans h⟩

/-- Where a file has styles under a number, their id loads them exactly if no other file hides
them.

**Proof sketch.** The search finds the first module with the id, and the module itself is a
candidate, so it finds something. Within one file there is only one module with the number. So what
is found has other styles exactly if it belongs to another file that comes first. -/
lemma loads_iff_not_hides (h : r.WellFormed) {key : String} {ms : List CssModule}
    (hkey : r.files.get? key = some ms) {m : CssModule} (hm : m ∈ ms) (hindex : m.index = index) :
    r.Loads (VirtualId.ofFile key index) m.css ↔ ¬ r.Hides key index m.css := by
  have hentry : (key, ms) ∈ r.files.entries := OrderedMap.mem_entries_iff.mpr hkey
  rw [loads_ofFile_iff]
  constructor
  · rintro hload ⟨m', hfirst, -, hne⟩
    have hload' := (load?_ofFile_iff h).mpr ⟨m', hfirst, rfl⟩
    exact hne (Option.some.inj (hload'.symm.trans hload))
  · intro hhides
    -- the module itself is a candidate, so the search finds something
    have hfound : (r.entry? (VirtualId.ofFile key index)).isSome := by
      unfold entry?
      rw [List.find?_isSome, VirtualId.importForm_ofFile]
      refine ⟨m, List.mem_flatten.mpr ⟨ms, List.mem_map_of_mem hentry, hm⟩, ?_⟩
      exact decide_eq_true ((h.id_eq_iff hentry hm).mpr ⟨hindex, rfl⟩)
    obtain ⟨m', hfound⟩ := Option.isSome_iff_exists.mp hfound
    have hfirst := (entry?_ofFile_iff h).mp hfound
    have hcss : m'.css = m.css := by
      by_contra hne
      refine hhides ⟨m', hfirst, fun hfile => ?_, hne⟩
      obtain ⟨front, key', ms', back, hentries, -, hm', -⟩ := hfirst.first
      have hentry' : (key', ms') ∈ r.files.entries := by simp [hentries]
      obtain rfl : key' = key := (h.made _ hentry' m' hm').1.symm.trans hfile
      obtain rfl : ms' = ms :=
        Option.some.inj ((OrderedMap.mem_entries_iff.mp hentry').symm.trans hkey)
      exact hne (congrArg CssModule.css
        ((h.ordered _ hentry).eq_of_index_eq hm' hm (hfirst.number.trans hindex.symm)))
    exact (load?_ofFile_iff h).mpr ⟨m', hfirst, hcss⟩

end Search

/-! ## The module that was written -/

section Writing

variable (ops : List Operation) (file : String)

/-- The registry after updates and one more is well formed. -/
lemma wellFormed_apply (op : Operation) : (op.apply (run ops)).WellFormed :=
  ((represents_run ops).apply op).wellFormed

/-- After the modules of a file are replaced, the id of each loads its styles exactly if no other
file hides them. -/
lemma replaced_loads_iff {css : List String} {i : ℕ} {s : String} (h : css[i]? = some s) :
    ∃ id, ((run ops).replaceFile file css).1[i]? = some id ∧
      (((run ops).replaceFile file css).2.Loads id s ↔
        ¬ ((run ops).replaceFile file css).2.Hides (FileId.normalize file) i s) := by
  have hne : css ≠ [] := by
    rintro rfl
    simp at h
  have hkey := ((run ops).sets_replaceFile file css).own
  rw [if_neg hne] at hkey
  refine ⟨VirtualId.ofFile (FileId.normalize file) i, ?_, ?_⟩
  · simp [replaceFile, number, h, CssModule.make]
  · exact loads_iff_not_hides (wellFormed_apply ops (.replaceFile file css)) hkey
      (mem_number.mpr ⟨i, s, h, rfl⟩) rfl

/-- After one module of a file is set, its id loads its styles exactly if no other file hides
them. -/
lemma registered_loads_iff (index : ℕ) (css : String) :
    ((run ops).register file index css).2.Loads ((run ops).register file index css).1 css ↔
      ¬ ((run ops).register file index css).2.Hides (FileId.normalize file) index css := by
  have hordered : Ordered ((run ops).entriesFor file) := by
    rw [(represents_run ops).entriesFor_eq]
    exact ordered_modulesOf _ _
  have hkey : ((run ops).register file index css).2.files.get? (FileId.normalize file) =
      some (place (CssModule.make (FileId.normalize file) index css)
        ((run ops).entriesFor file)) := by
    simp [register, entriesFor]
  exact loads_iff_not_hides (wellFormed_apply ops (.register file index css)) hkey
    ((mem_place hordered).mpr (.inl rfl)) rfl

/-- Where no other file has the path of a file, none hides what is written to the file. -/
lemma not_hides_of_path_unique {op : Operation} (hop : op.file? = some file)
    (hunique : ∀ key ∈ (run ops).files.keys,
      VirtualId.path key = VirtualId.path (FileId.normalize file) → key = FileId.normalize file)
    (index : ℕ) (css : String) :
    ¬ (op.apply (run ops)).Hides (FileId.normalize file) index css := by
  rintro ⟨m, hfirst, hfile, -⟩
  obtain ⟨front, key, ms, back, hentries, hpath, hm, -⟩ := hfirst.first
  have hentry : (key, ms) ∈ (op.apply (run ops)).files.entries := by simp [hentries]
  have hkey : key ≠ FileId.normalize file :=
    fun heq => hfile (((wellFormed_apply ops op).made _ hentry m hm).1.trans heq)
  have hold := mem_entries_of_apply hop hentry hkey
  exact hkey (hunique key (List.mem_map_of_mem hold) hpath)

/-- **Loading what was written**, after any updates. The ids that are returned load the styles that
were written, in both forms, exactly if no other file hides them; and none does where no other file
has the same path.

**Proof sketch.** After the write the file has the styles under their number, so by
`loads_iff_not_hides` only another file with the same path up to leading slashes can be in the
way. -/
theorem written_loads_iff :
    (∀ (css : List String) (i : ℕ) (s : String), css[i]? = some s →
      ∃ id, ((run ops).replaceFile file css).1[i]? = some id ∧
        (((run ops).replaceFile file css).2.Loads id s ↔
          ¬ ((run ops).replaceFile file css).2.Hides (FileId.normalize file) i s)) ∧
    (∀ (index : ℕ) (css : String),
      ((run ops).register file index css).2.Loads ((run ops).register file index css).1 css ↔
        ¬ ((run ops).register file index css).2.Hides (FileId.normalize file) index css) ∧
    ((∀ key ∈ (run ops).files.keys,
      VirtualId.path key = VirtualId.path (FileId.normalize file) → key = FileId.normalize file) →
      ∀ op : Operation, op.file? = some file → ∀ (index : ℕ) (css : String),
        ¬ (op.apply (run ops)).Hides (FileId.normalize file) index css) := by
  refine ⟨?_, registered_loads_iff ops file, ?_⟩
  · intro css i s h
    exact replaced_loads_iff ops file h
  · intro hunique op hop index css
    exact not_hides_of_path_unique ops file hop hunique index css

end Writing

/-- Beside a file with another path, both forms of the second id load the second styles. -/
theorem written_loads_sample :
    ∃ id, ((run [.register "b" 1 "x"]).replaceFile "file:///a" ["y", "z"]).1[1]? = some id ∧
      ((run [.register "b" 1 "x"]).replaceFile "file:///a" ["y", "z"]).2.Loads id "z" := by
  have hunique : ∀ key ∈ (run [.register "b" 1 "x"]).files.keys,
      VirtualId.path key = VirtualId.path (FileId.normalize "file:///a") →
        key = FileId.normalize "file:///a" := by decide +kernel
  obtain ⟨hreplaced, -, hhides⟩ := written_loads_iff [.register "b" 1 "x"] "file:///a"
  obtain ⟨id, hid, hloads⟩ := hreplaced ["y", "z"] 1 "z" rfl
  exact ⟨id, hid, hloads.mpr (hhides hunique (.replaceFile "file:///a" ["y", "z"]) rfl 1 "z")⟩

/-- The files `/a` and `a` have the same path: the id that is returned for `a` loads the styles of
`/a`, which was written before. -/
theorem written_not_loaded :
    ¬ ∀ (ops : List Operation) (file : String) (css : List String) (i : ℕ) (id s : String),
      ((run ops).replaceFile file css).1[i]? = some id → css[i]? = some s →
        ((run ops).replaceFile file css).2.load? id = some s := by
  intro h
  have hload := h [.replaceFile "/a" ["x"]] "a" ["y"] 0 "virtual:styled-static/a/0.css" "y"
    (by decide +kernel) rfl
  revert hload
  decide +kernel

end StyleExtract.Registry
