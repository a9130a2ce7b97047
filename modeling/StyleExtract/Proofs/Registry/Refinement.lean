import Mathlib
import StyleExtract.Proofs.Registry.Id
import StyleExtract.Proofs.Registry.Update

/-!
# Registries as maps

A registry keeps a list of modules for each file, and its updates search, overwrite, append and
remove. What it stands for is simpler: styles by file and number. This file gives the updates of
such a table, and shows that a registry cannot be told from the table that the same updates make.

## Main definitions

* `Registry.Operation`, `Registry.run` — the updates, and the registry after some of them.
* `StyleTable` — styles by file and number.
* `Registry.placeBySorting` — a module that is overwritten, or appended and sorted in.
* `Registry.WellFormed` — what holds of the lists in a registry.
* `Registry.Shows` — what a registry shows of a table.

## Main results

* `Registry.place_eq_placeBySorting`, `Registry.register_run` — a module is put at its place by
  overwriting, or by appending and sorting.
* `Registry.place_modulesOf`, `Registry.number_eq_modulesOf` — the two ways in which lists of
  modules come about give the modules of a table in the order of their numbers.
* `Registry.Represents.apply`, `Registry.represents_run` — what one update keeps, and what all of
  them keep.
* `Registry.run_refines` — the registry after any updates.

## Design

The invariant `Registry.Represents` says what is found under each key, so that an update is dealt
with by the rules for look-ups in both kinds of maps. Lists of modules are compared by their
members: ordered lists with the same members are the same (`Registry.Ordered.eq_of_mem_iff`). Both
the well-formedness of a registry and what it shows follow from the invariant.
-/

namespace StyleExtract

open Std (ExtTreeMap)

namespace Registry

/-! ## Updates -/

/-- An update of a registry. -/
inductive Operation where
  /-- Adds one module to a file, or replaces the one with that number. -/
  | register (file : String) (index : ℕ) (css : String)
  /-- Replaces all modules of a file. -/
  | replaceFile (file : String) (css : List String)
  /-- Removes the modules of a file. -/
  | invalidate (file : String)
  /-- Removes all modules. -/
  | clear

/-- The registry after an update. -/
def Operation.apply (r : Registry) : Operation → Registry
  | .register file index css => (r.register file index css).2
  | .replaceFile file css => (r.replaceFile file css).2
  | .invalidate file => (r.invalidate file).2
  | .clear => .empty

/-- The file that an update is about, if it is about one. -/
def Operation.file? : Operation → Option String
  | .register file _ _ | .replaceFile file _ | .invalidate file => some file
  | .clear => none

/-- The registry after some updates of the one without modules. -/
def run (ops : List Operation) : Registry := ops.foldl Operation.apply .empty

/-- An update of one file leaves all other files as they were, in the same order. -/
lemma erase_apply {op : Operation} {file : String} (h : op.file? = some file) (r : Registry) :
    (op.apply r).files.erase (FileId.normalize file) =
      r.files.erase (FileId.normalize file) := by
  cases op with
  | register f index css =>
    cases h
    exact OrderedMap.erase_insert _ _ _
  | replaceFile f css =>
    cases h
    exact (r.sets_replaceFile file css).others
  | invalidate f =>
    cases h
    exact OrderedMap.erase_erase _ _
  | clear => cases h

/-- After an update of one file, every other file has the modules that it had before. -/
lemma mem_entries_of_apply {op : Operation} {file : String} (h : op.file? = some file)
    {r : Registry} {e : String × List CssModule} (he : e ∈ (op.apply r).files.entries)
    (hkey : e.1 ≠ FileId.normalize file) : e ∈ r.files.entries := by
  obtain ⟨key, ms⟩ := e
  rw [OrderedMap.mem_entries_iff] at he ⊢
  rw [← he, OrderedMap.get?_eq_of_erase_eq (erase_apply h r) hkey]

end Registry

/-! ## Tables of styles -/

/-- Styles by file (in its one form) and number. -/
abbrev StyleTable := ExtTreeMap String (ExtTreeMap ℕ String)

namespace StyleTable

open Registry (Operation)

/-- The styles of a file by number. -/
def stylesOf (t : StyleTable) (file : String) : ExtTreeMap ℕ String :=
  t[FileId.normalize file]?.getD ∅

/-- How many styles there are. -/
def count (t : StyleTable) : ℕ := (t.toList.map fun p => p.2.size).sum

/-- Styles numbered from zero. -/
def numbered (css : List String) : ExtTreeMap ℕ String := .ofList (css.mapIdx fun i s => (i, s))

/-- The table after an update: one number is set, all numbers of a file are overwritten, or they are
removed. -/
def apply (t : StyleTable) : Operation → StyleTable
  | .register file index css =>
    t.insert (FileId.normalize file) ((t.stylesOf file).insert index css)
  | .replaceFile file css =>
    if css = [] then t.erase (FileId.normalize file)
    else t.insert (FileId.normalize file) (numbered css)
  | .invalidate file => t.erase (FileId.normalize file)
  | .clear => ∅

/-- The table after some updates of the one without styles. -/
def run (ops : List Operation) : StyleTable := ops.foldl apply ∅

/-- Numbered styles are found under their numbers.

**Proof sketch.** The numbers of a list are different, so each is found with its own styles. A
number behind the end of the list is that of none. -/
lemma getElem?_numbered (css : List String) (i : ℕ) : (numbered css)[i]? = css[i]? := by
  rcases Nat.lt_or_ge i css.length with hi | hi
  · have hdistinct : (css.mapIdx fun i s => (i, s)).Pairwise
        fun p q => ¬ compare p.1 q.1 = .eq := by
      rw [List.pairwise_iff_getElem]
      intro a b ha hb hab
      simp only [List.getElem_mapIdx, Nat.compare_eq_eq]
      omega
    have hmem : (i, css[i]) ∈ css.mapIdx fun i s => (i, s) :=
      List.mem_mapIdx.mpr ⟨i, hi, rfl⟩
    rw [List.getElem?_eq_getElem hi]
    exact ExtTreeMap.getElem?_ofList_of_mem (by simp) hdistinct hmem
  · have hnone : ((css.mapIdx fun i s => (i, s)).map Prod.fst).contains i = false := by
      simp only [List.contains_eq_mem, decide_eq_false_iff_not, List.mem_map, List.mem_mapIdx]
      rintro ⟨p, ⟨j, hj, rfl⟩, hij⟩
      dsimp only at hij
      omega
    rw [List.getElem?_eq_none hi]
    exact ExtTreeMap.getElem?_ofList_of_contains_eq_false hnone

/-- Numbered styles are none only if there are none. -/
lemma numbered_ne_empty {css : List String} (h : css ≠ []) : numbered css ≠ ∅ := by
  intro hempty
  have hzero := getElem?_numbered css 0
  rw [hempty] at hzero
  cases css with
  | nil => exact h rfl
  | cons s css => simp at hzero

end StyleTable

namespace Registry

open StyleTable (numbered getElem?_numbered numbered_ne_empty)

/-! ## Ordered lists of modules -/

/-- A list of modules with increasing numbers. -/
def Ordered (ms : List CssModule) : Prop := ms.Pairwise fun a b => a.index < b.index

/-- Ordered lists with the same members are the same. -/
lemma Ordered.eq_of_mem_iff {as bs : List CssModule} (ha : Ordered as) (hb : Ordered bs)
    (h : ∀ m, m ∈ as ↔ m ∈ bs) : as = bs := by
  have hnodup : ∀ {ms : List CssModule}, Ordered ms → ms.Nodup := by
    intro ms hms
    refine List.Pairwise.imp (fun {a b} hab => ?_) hms
    rintro rfl
    omega
  refine List.Perm.eq_of_pairwise (fun a b _ _ hab hba => ?_) ha hb
    ((List.perm_ext_iff_of_nodup (hnodup ha) (hnodup hb)).mpr h)
  omega

/-- After a module is put at its place, it is in the list, and so is every module with another
number that was.

**Proof sketch.** Induction on the list. Behind the place all numbers are larger, so a module with
the same number can only be the one that is written over. -/
lemma mem_place {m x : CssModule} : ∀ {ms : List CssModule}, Ordered ms →
    (x ∈ place m ms ↔ x = m ∨ x ∈ ms ∧ x.index ≠ m.index) := by
  intro ms
  induction ms with
  | nil => simp [place]
  | cons y ms ih =>
    intro hms
    obtain ⟨hy, hms⟩ := List.pairwise_cons.mp hms
    have hothers : m.index ≤ y.index → ∀ z ∈ ms, z.index ≠ m.index := by
      intro hle z hz
      have hlt := hy z hz
      omega
    unfold place
    split
    · next heq =>
      have hbehind := hothers (by omega)
      grind
    · next hne =>
      split
      · next hlt =>
        have hbehind := hothers (by omega)
        grind
      · rw [List.mem_cons, List.mem_cons, ih hms]
        grind

/-- A module that is put at its place leaves the list ordered.

**Proof sketch.** Induction on the list, along the search for the place. Over a module with the same
number or before a larger one the rest stays as it is, and otherwise the first module is smaller
than all that follow, the new one included (`mem_place`). -/
lemma ordered_place (m : CssModule) :
    ∀ {ms : List CssModule}, Ordered ms → Ordered (place m ms) := by
  intro ms
  induction ms with
  | nil =>
    intro _
    exact List.pairwise_singleton _ m
  | cons y ms ih =>
    intro hms
    obtain ⟨hy, htail⟩ := List.pairwise_cons.mp hms
    unfold place
    split
    · next heq =>
      exact List.pairwise_cons.mpr ⟨fun z hz => heq ▸ hy z hz, htail⟩
    · next hne =>
      split
      · next hlt =>
        refine List.pairwise_cons.mpr ⟨fun z hz => ?_, hms⟩
        rcases List.mem_cons.mp hz with rfl | hz
        · exact hlt
        · exact Nat.lt_trans hlt (hy z hz)
      · next hge =>
        refine List.pairwise_cons.mpr ⟨fun z hz => ?_, ih htail⟩
        rcases (mem_place htail).mp hz with rfl | ⟨hz, -⟩
        · omega
        · exact hy z hz

/-- A module over the first one with the same number. -/
def overwrite (m : CssModule) : List CssModule → List CssModule
  | [] => []
  | x :: xs => if x.index = m.index then m :: xs else x :: overwrite m xs

/-- **A module at its place, by sorting**: it is written over the first one with the same number if
there is one. Else it goes behind all others, and the list is sorted by number again. -/
def placeBySorting (m : CssModule) (ms : List CssModule) : List CssModule :=
  if ms.any (·.index = m.index) then overwrite m ms
  else (ms ++ [m]).mergeSort (·.index ≤ ·.index)

/-- A number that is taken is found by going up to its place.

**Proof sketch.** Induction on the list. The module with the number stands at or behind the first
one, so the first one has a smaller number or the same. -/
lemma place_eq_overwrite {m : CssModule} {ms : List CssModule} (h : Ordered ms)
    (htaken : ∃ x ∈ ms, x.index = m.index) : place m ms = overwrite m ms := by
  induction ms with
  | nil => simp at htaken
  | cons y ms ih =>
    obtain ⟨hy, hms⟩ := List.pairwise_cons.mp h
    obtain ⟨x, hx, hindex⟩ := htaken
    rw [place, overwrite]
    split
    · rfl
    · next hne =>
      have hmem : x ∈ ms := by
        rcases List.mem_cons.mp hx with rfl | hmem
        · exact absurd hindex hne
        · exact hmem
      have hlt := hy x hmem
      rw [if_neg (by omega), ih hms ⟨x, hmem, hindex⟩]

/-- A list without repeated numbers is ordered by sorting. -/
lemma ordered_mergeSort {ms : List CssModule} (h : ms.Pairwise fun a b => a.index ≠ b.index) :
    Ordered (ms.mergeSort (·.index ≤ ·.index)) := by
  have hsorted : (ms.mergeSort (·.index ≤ ·.index)).Pairwise fun a b => a.index ≤ b.index := by
    refine (List.pairwise_mergeSort (fun a b c hab hbc => ?_) (fun a b => ?_) ms).imp
      of_decide_eq_true
    · exact decide_eq_true ((of_decide_eq_true hab).trans (of_decide_eq_true hbc))
    · simpa using Nat.le_total a.index b.index
  have hdistinct : (ms.mergeSort (·.index ≤ ·.index)).Pairwise fun a b => a.index ≠ b.index :=
    h.perm (List.mergeSort_perm ms _).symm Ne.symm
  exact (hsorted.and hdistinct).imp fun hab => Nat.lt_of_le_of_ne hab.1 hab.2

/-- **In an ordered list a module is put at its place by sorting.**

**Proof sketch.** If the number is taken, going up to its place finds it (`place_eq_overwrite`). If
it is not, both lists are ordered and have the same members, so they are the same. -/
theorem place_eq_placeBySorting (m : CssModule) {ms : List CssModule} (h : Ordered ms) :
    place m ms = placeBySorting m ms := by
  unfold placeBySorting
  split
  · next htaken => exact place_eq_overwrite h (by simpa using htaken)
  · next hfree =>
    have hothers : ∀ x ∈ ms, x.index ≠ m.index := by simpa using hfree
    have hdistinct : (ms ++ [m]).Pairwise fun a b => a.index ≠ b.index := by
      refine List.pairwise_append.mpr ⟨h.imp Nat.ne_of_lt, List.pairwise_singleton _ m, ?_⟩
      simpa using hothers
    refine (ordered_place m h).eq_of_mem_iff (ordered_mergeSort hdistinct) fun x => ?_
    rw [mem_place h, List.mem_mergeSort, List.mem_append, List.mem_singleton]
    constructor
    · rintro (rfl | ⟨hx, -⟩)
      · exact .inr rfl
      · exact .inl hx
    · rintro (hx | rfl)
      · exact .inr ⟨hx, hothers x hx⟩
      · exact .inl rfl

/-- Numbered modules are ordered. -/
lemma ordered_number (key : String) (css : List String) : Ordered (number key css) := by
  refine List.pairwise_iff_getElem.mpr fun a b ha hb hab => ?_
  simpa [number, CssModule.make] using hab

/-- Numbered modules are made from the styles with their numbers. -/
lemma mem_number {key : String} {css : List String} {m : CssModule} :
    m ∈ number key css ↔ ∃ i s, css[i]? = some s ∧ m = CssModule.make key i s := by
  rw [number, List.mem_mapIdx]
  constructor
  · rintro ⟨i, hi, rfl⟩
    exact ⟨i, css[i], List.getElem?_eq_getElem hi, rfl⟩
  · rintro ⟨i, s, hs, rfl⟩
    obtain ⟨hi, rfl⟩ := List.getElem?_eq_some_iff.mp hs
    exact ⟨i, hi, rfl⟩

/-- The modules of a file with given styles, in the order of their numbers. -/
def modulesOf (key : String) (styles : ExtTreeMap ℕ String) : List CssModule :=
  styles.toList.map fun p => CssModule.make key p.1 p.2

@[simp] lemma modulesOf_empty (key : String) : modulesOf key ∅ = [] := by
  simp [modulesOf]

@[simp] lemma length_modulesOf (key : String) (styles : ExtTreeMap ℕ String) :
    (modulesOf key styles).length = styles.size := by
  rw [modulesOf, List.length_map, ExtTreeMap.length_toList]

/-- There are modules if there are styles. -/
lemma modulesOf_ne_nil (key : String) {styles : ExtTreeMap ℕ String} (h : styles ≠ ∅) :
    modulesOf key styles ≠ [] := by
  intro hnil
  exact h (ExtTreeMap.toList_eq_nil_iff.mp (List.map_eq_nil_iff.mp hnil))

/-- The modules of a file are ordered. -/
lemma ordered_modulesOf (key : String) (styles : ExtTreeMap ℕ String) :
    Ordered (modulesOf key styles) := by
  refine List.pairwise_map.mpr (ExtTreeMap.ordered_keys_toList.imp fun {p q} hpq => ?_)
  exact Nat.compare_eq_lt.mp hpq

/-- The modules of a file are made from its styles. -/
lemma mem_modulesOf {key : String} {styles : ExtTreeMap ℕ String} {m : CssModule} :
    m ∈ modulesOf key styles ↔ ∃ i s, styles[i]? = some s ∧ m = CssModule.make key i s := by
  rw [modulesOf, List.mem_map]
  constructor
  · rintro ⟨⟨i, s⟩, hp, rfl⟩
    exact ⟨i, s, ExtTreeMap.mem_toList_iff_getElem?_eq_some.mp hp, rfl⟩
  · rintro ⟨i, s, hs, rfl⟩
    exact ⟨(i, s), ExtTreeMap.mem_toList_iff_getElem?_eq_some.mpr hs, rfl⟩

/-- **Putting a module at its place** sets one number.

**Proof sketch.** Both lists are ordered, so it is enough to compare their members
(`Ordered.eq_of_mem_iff`): the new module, and those with other numbers. -/
theorem place_modulesOf (key : String) (styles : ExtTreeMap ℕ String) (index : ℕ) (css : String) :
    place (CssModule.make key index css) (modulesOf key styles) =
      modulesOf key (styles.insert index css) := by
  have hordered := ordered_modulesOf key styles
  refine (ordered_place _ hordered).eq_of_mem_iff (ordered_modulesOf key _) fun m => ?_
  rw [mem_place hordered, mem_modulesOf, mem_modulesOf]
  simp only [ExtTreeMap.getElem?_insert, Nat.compare_eq_eq]
  constructor
  · rintro (rfl | ⟨⟨i, s, hs, rfl⟩, hne⟩)
    · exact ⟨index, css, by simp, rfl⟩
    · have hi : index ≠ i := Ne.symm hne
      exact ⟨i, s, by rwa [if_neg hi], rfl⟩
  · rintro ⟨i, s, hs, rfl⟩
    split at hs
    · next heq =>
      cases hs
      exact .inl (by rw [heq])
    · next hne => exact .inr ⟨⟨i, s, hs, rfl⟩, Ne.symm hne⟩

/-- **Numbered modules** are those of numbered styles. -/
theorem number_eq_modulesOf (key : String) (css : List String) :
    number key css = modulesOf key (numbered css) := by
  refine (ordered_number key css).eq_of_mem_iff (ordered_modulesOf key _) fun m => ?_
  simp only [mem_number, mem_modulesOf, getElem?_numbered]

/-! ## Registries and tables -/

/-- **A registry represents a table**: under each key stand the modules of the styles that the table
has there, and no file is kept without styles. -/
structure Represents (r : Registry) (t : StyleTable) : Prop where
  /-- The modules under each key. -/
  files : ∀ key : String, r.files.get? key = t[key]?.map (modulesOf key)
  /-- No file is kept without styles. -/
  inhabited : ∀ (key : String) (styles : ExtTreeMap ℕ String), t[key]? = some styles → styles ≠ ∅

namespace Represents

variable {r : Registry} {t : StyleTable}

/-- The modules of a file are those of its styles. -/
lemma entriesFor_eq (h : r.Represents t) (file : String) :
    r.entriesFor file = modulesOf (FileId.normalize file) (t.stylesOf file) := by
  rw [entriesFor, h.files, StyleTable.stylesOf]
  cases t[FileId.normalize file]? <;> simp

/-- Giving a file modules gives it styles. -/
lemma insert (h : r.Represents t) (key : String) {styles : ExtTreeMap ℕ String}
    (hne : styles ≠ ∅) :
    Represents ⟨r.files.insert key (modulesOf key styles)⟩ (t.insert key styles) where
  files := by
    intro k
    rw [OrderedMap.get?_insert, ExtTreeMap.getElem?_insert, h.files k]
    by_cases hk : key = k
    · subst hk
      simp
    · simp [hk]
  inhabited := by
    intro k s hs
    rw [ExtTreeMap.getElem?_insert] at hs
    split at hs
    · cases hs
      exact hne
    · exact h.inhabited k s hs

/-- Removing a file removes its styles. -/
lemma erase (h : r.Represents t) (key : String) :
    Represents ⟨r.files.erase key⟩ (t.erase key) where
  files := by
    intro k
    rw [OrderedMap.get?_erase, ExtTreeMap.getElem?_erase, h.files k]
    by_cases hk : key = k <;> simp [hk]
  inhabited := by
    intro k s hs
    rw [ExtTreeMap.getElem?_erase] at hs
    split at hs
    · cases hs
    · exact h.inhabited k s hs

/-- **An update of a registry is the update of its table.**

**Proof sketch.** One case for each update. Setting one number and numbering all styles give the
modules of the new table (`place_modulesOf`, `number_eq_modulesOf`), and what stands under other
keys is not touched on either side. -/
theorem apply (h : r.Represents t) (op : Operation) : (op.apply r).Represents (t.apply op) := by
  cases op with
  | register file index css =>
    have hplace := place_modulesOf (FileId.normalize file) (t.stylesOf file) index css
    rw [← h.entriesFor_eq file] at hplace
    have hne : (t.stylesOf file).insert index css ≠ ∅ := ExtTreeMap.insert_ne_empty
    have hinsert := h.insert (FileId.normalize file) hne
    rw [← hplace] at hinsert
    exact hinsert
  | replaceFile file css =>
    simp only [Operation.apply, StyleTable.apply, replaceFile]
    by_cases hcss : css = []
    · subst hcss
      exact h.erase _
    · have hms : (number (FileId.normalize file) css).isEmpty = false := by
        rw [List.isEmpty_eq_false_iff, number_eq_modulesOf]
        exact modulesOf_ne_nil _ (numbered_ne_empty hcss)
      rw [if_neg hcss, hms, number_eq_modulesOf]
      exact h.insert _ (numbered_ne_empty hcss)
  | invalidate file => exact h.erase _
  | clear => exact ⟨by simp [Operation.apply, StyleTable.apply, empty], by simp [StyleTable.apply]⟩

end Represents

/-- **The registry after some updates represents the table after the same updates.** -/
theorem represents_run (ops : List Operation) : (run ops).Represents (StyleTable.run ops) := by
  have hall : ∀ (ops : List Operation) {r : Registry} {t : StyleTable}, r.Represents t →
      (ops.foldl Operation.apply r).Represents (ops.foldl StyleTable.apply t) := by
    intro ops
    induction ops with
    | nil =>
      intro r t h
      exact h
    | cons op ops ih =>
      intro r t h
      exact ih (h.apply op)
  exact hall ops ⟨by simp [empty], by simp⟩

/-- **Registering a module** after any updates writes it over the one with its number, or adds it
behind the other modules of its file and sorts them. -/
theorem register_run (ops : List Operation) (file : String) (index : ℕ) (css : String) :
    ((run ops).register file index css).2.files =
      (run ops).files.insert (FileId.normalize file)
        (placeBySorting (CssModule.make (FileId.normalize file) index css)
          ((run ops).entriesFor file)) := by
  have hordered : Ordered ((run ops).entriesFor file) := by
    rw [(represents_run ops).entriesFor_eq]
    exact ordered_modulesOf _ _
  rw [← place_eq_placeBySorting _ hordered]
  rfl

/-! ## What a registry shows -/

/-- **A well-formed registry**: no file stands twice, every file has modules, they have increasing
numbers, and each belongs to its file and has the id and the digest that belong to its number and
its styles. -/
structure WellFormed (r : Registry) : Prop where
  /-- No file stands twice. -/
  distinct : r.files.keys.Nodup
  /-- Every file has modules. -/
  nonempty : ∀ e ∈ r.files.entries, e.2 ≠ []
  /-- The modules of a file have increasing numbers. -/
  ordered : ∀ e ∈ r.files.entries, Ordered e.2
  /-- A module belongs to its file and has the id and the digest of its number and its styles. -/
  made : ∀ e ∈ r.files.entries, ∀ m ∈ e.2, m.file = e.1 ∧ m.id = VirtualId.ofFile e.1 m.index ∧
    m.hash = Digest.render (Digest.ofText m.css)

/-- **What a registry shows of a table**: the modules of every file, how many there are, whether
there are none, and which ids are returned when a file is removed. -/
structure Shows (r : Registry) (t : StyleTable) : Prop where
  /-- The modules of a file are made from its styles, in the order of their numbers. -/
  entries : ∀ file, r.entriesFor file = modulesOf (FileId.normalize file) (t.stylesOf file)
  /-- There are as many modules as styles. -/
  size : r.size = t.count
  /-- There are no modules exactly if there is no file. -/
  isEmpty : r.isEmpty = t.isEmpty
  /-- The ids that a removal returns are the marked ids of the numbers of the file, in order. -/
  invalidated : ∀ file, (r.invalidate file).1.map some = (t.stylesOf file).keys.map fun index =>
    VirtualId.canonical? (VirtualId.ofFile (FileId.normalize file) index)

namespace Represents

variable {r : Registry} {t : StyleTable}

/-- What stands under a key is made from styles of the table. -/
lemma exists_of_mem_entries (h : r.Represents t) {e : String × List CssModule}
    (he : e ∈ r.files.entries) :
    ∃ styles, t[e.1]? = some styles ∧ styles ≠ ∅ ∧ e.2 = modulesOf e.1 styles := by
  have hget := OrderedMap.mem_entries_iff.mp he
  rw [h.files] at hget
  obtain ⟨styles, hstyles, hms⟩ := Option.map_eq_some_iff.mp hget
  exact ⟨styles, hstyles, h.inhabited _ _ hstyles, hms.symm⟩

/-- A registry that represents a table is well formed. -/
theorem wellFormed (h : r.Represents t) : r.WellFormed where
  distinct := r.files.nodup
  nonempty := by
    intro e he
    obtain ⟨styles, -, hne, hms⟩ := h.exists_of_mem_entries he
    exact hms ▸ modulesOf_ne_nil e.1 hne
  ordered := by
    intro e he
    obtain ⟨styles, -, -, hms⟩ := h.exists_of_mem_entries he
    exact hms ▸ ordered_modulesOf e.1 styles
  made := by
    intro e he m hm
    obtain ⟨styles, -, -, hms⟩ := h.exists_of_mem_entries he
    rw [hms] at hm
    obtain ⟨i, s, -, rfl⟩ := mem_modulesOf.mp hm
    exact ⟨rfl, rfl, rfl⟩

/-- The files of a registry are those of the table, up to their order. -/
lemma entries_perm (h : r.Represents t) :
    r.files.entries.Perm (t.toList.map fun p => (p.1, modulesOf p.1 p.2)) := by
  have hentries : r.files.entries.Nodup := r.files.nodup.of_map _
  have htable : (t.toList.map fun p => (p.1, modulesOf p.1 p.2)).Nodup := by
    refine List.pairwise_map.mpr (ExtTreeMap.distinct_keys_toList.imp fun {p q} hpq heq => hpq ?_)
    simpa using congrArg Prod.fst heq
  refine (List.perm_ext_iff_of_nodup hentries htable).mpr fun e => ?_
  obtain ⟨key, ms⟩ := e
  rw [OrderedMap.mem_entries_iff, h.files, Option.map_eq_some_iff, List.mem_map]
  constructor
  · rintro ⟨styles, hstyles, rfl⟩
    exact ⟨(key, styles), ExtTreeMap.mem_toList_iff_getElem?_eq_some.mpr hstyles, rfl⟩
  · rintro ⟨⟨k, styles⟩, hp, heq⟩
    obtain ⟨rfl, rfl⟩ := Prod.mk.inj heq
    exact ⟨styles, ExtTreeMap.mem_toList_iff_getElem?_eq_some.mp hp, rfl⟩

/-- There are as many modules as styles. -/
lemma size_eq (h : r.Represents t) : r.size = t.count := by
  have hsum := (h.entries_perm.map fun e => e.2.length).sum_eq
  rw [List.map_map] at hsum
  simpa [size, modules, OrderedMap.values, List.length_flatten, StyleTable.count,
    Function.comp_def] using hsum

/-- There are no modules exactly if there is no file. -/
lemma isEmpty_eq (h : r.Represents t) : r.isEmpty = t.isEmpty := by
  rw [Bool.eq_iff_iff, ExtTreeMap.isEmpty_iff, isEmpty, beq_iff_eq, h.size_eq]
  constructor
  · intro hcount
    by_contra hne
    obtain ⟨p, hp⟩ := List.exists_mem_of_ne_nil _ (mt ExtTreeMap.toList_eq_nil_iff.mp hne)
    have hsize : p.2.size = 0 := List.sum_eq_zero_iff.mp hcount _ (List.mem_map_of_mem hp)
    exact h.inhabited p.1 p.2 (ExtTreeMap.mem_toList_iff_getElem?_eq_some.mp hp)
      (ExtTreeMap.eq_empty_iff_size_eq_zero.mpr hsize)
  · intro hempty
    rw [StyleTable.count, ExtTreeMap.toList_eq_nil_iff.mpr hempty]
    rfl

/-- What a registry shows of the table that it represents. -/
theorem shows_table (h : r.Represents t) : r.Shows t where
  entries := h.entriesFor_eq
  size := h.size_eq
  isEmpty := h.isEmpty_eq
  invalidated := by
    intro file
    rw [invalidate, h.entriesFor_eq, modulesOf, List.map_map, List.map_map,
      ← ExtTreeMap.map_fst_toList_eq_keys, List.map_map]
    refine List.map_congr_left fun p _ => ?_
    rw [Function.comp_apply, Function.comp_apply, Function.comp_apply, VirtualId.canonical?_ofFile]
    rfl

end Represents

/-- **The registry after any updates.** It is well formed, it shows the table that the same updates
make, and a further update of one file leaves the modules of every other file as they are.

**Proof sketch.** The registry after any updates represents the table after the same updates
(`represents_run`), by induction on the updates. Well-formedness and what is shown are read off
this, and an update of one file leaves the others as they are (`erase_apply`). -/
theorem run_refines (ops : List Operation) :
    (run ops).WellFormed ∧ (run ops).Shows (StyleTable.run ops) ∧
    ∀ (op : Operation) (file f : String), op.file? = some file →
      FileId.normalize f ≠ FileId.normalize file →
      (op.apply (run ops)).entriesFor f = (run ops).entriesFor f := by
  have h := represents_run ops
  refine ⟨h.wellFormed, h.shows_table, ?_⟩
  intro op file f hfile hf
  exact entriesFor_of_erase_eq (erase_apply hfile (run ops)) hf

end Registry

end StyleExtract
