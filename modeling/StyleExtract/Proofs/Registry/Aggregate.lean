import Mathlib.Data.List.Nodup
import Mathlib.Tactic.Common
import StyleExtract.Proofs.Registry.ReadBack

/-!
# The styles of a chunk

A chunk lists what it is built from: files, which stand for all their modules, and virtual modules,
which stand for themselves. Its styles are those of everything that is listed, from left to right,
and each module counts where it is listed first. This file says which modules these are, and which
ids can be left out of a list.

## Main definitions

* `Registry.listed` — the modules that a list of ids stands for.
* `Registry.firsts` — the modules that are the first with their id.
* `Registry.Covered` — an id stands for nothing that has not been listed before.
* `Registry.Resolves` — what the ids of files and of virtual modules stand for.

## Main results

* `Registry.distinct_append` — what is seen is all that one part of a list leaves to the next.
* `Registry.distinct_eq_firsts` — the pass over the modules keeps the first ones with their ids.
* `Registry.aggregate_of_covered` — an id that is covered can be left out.
* `Registry.aggregate_keeps_firsts` — the styles of a chunk.

## Design

The pass over the modules carries the ids that it has seen, and only their membership matters
(`Registry.distinct_congr`). So it splits along the list of ids, and an id that is covered changes
neither what is kept for it nor what is seen behind it.
-/

namespace StyleExtract.Registry

/-! ## First occurrences -/

/-- **The modules of a list that are the first with their id**, in order. -/
def firsts (ms : List CssModule) : List CssModule :=
  (ms.zipIdx.filter fun p => (ms.take p.2).all fun m => m.id ≠ p.1.id).map Prod.fst

/-- What is kept depends on which ids have been seen, and not on their order. -/
lemma distinct_congr {seen seen' : List String} (h : ∀ id, id ∈ seen ↔ id ∈ seen')
    (ms : List CssModule) : distinct seen ms = distinct seen' ms := by
  induction ms generalizing seen seen' with
  | nil => rfl
  | cons m ms ih =>
    have hcons : ∀ id, id ∈ m.id :: seen ↔ id ∈ m.id :: seen' := by
      intro id
      rw [List.mem_cons, List.mem_cons, h]
    rw [distinct, distinct, ih h, ih hcons, if_congr (h m.id) rfl rfl]

/-- **The modules of two lists are kept one list after the other**: what the first leaves to the
second are its ids.

**Proof sketch.** Induction on the first list. A module that is kept and one that is left out both
have their id among those that the second list starts with, though in different places. -/
theorem distinct_append (seen : List String) (as bs : List CssModule) :
    distinct seen (as ++ bs) = distinct seen as ++ distinct (as.map CssModule.id ++ seen) bs := by
  induction as generalizing seen with
  | nil => rfl
  | cons m as ih =>
    rw [List.cons_append, distinct, distinct, ih, ih]
    split
    · next hseen =>
      refine congrArg (distinct seen as ++ ·) (distinct_congr (fun id => ?_) bs)
      simp only [List.map_cons, List.cons_append, List.mem_cons, List.mem_append]
      constructor
      · exact .inr
      · rintro (rfl | h)
        · exact .inr hseen
        · exact h
    · rw [List.cons_append]
      refine congrArg (m :: distinct (m.id :: seen) as ++ ·) (distinct_congr (fun id => ?_) bs)
      simp only [List.map_cons, List.cons_append, List.mem_cons, List.mem_append]
      exact or_left_comm

/-- Nothing is kept of modules whose ids have been seen. -/
lemma distinct_eq_nil {seen : List String} {ms : List CssModule} (h : ∀ m ∈ ms, m.id ∈ seen) :
    distinct seen ms = [] := by
  induction ms with
  | nil => rfl
  | cons m ms ih =>
    obtain ⟨hm, hms⟩ := List.forall_mem_cons.mp h
    rw [distinct, if_pos hm, ih hms]

/-- One more module is kept if no module before it has its id. -/
lemma distinct_concat (ms : List CssModule) (m : CssModule) :
    distinct [] (ms ++ [m]) = distinct [] ms ++ if ∀ x ∈ ms, x.id ≠ m.id then [m] else [] := by
  have hseen : m.id ∈ ms.map CssModule.id ↔ ¬ ∀ x ∈ ms, x.id ≠ m.id := by simp
  rw [distinct_append, List.append_nil, distinct, if_congr hseen rfl rfl, ite_not]
  rfl

/-- One more module is a first one if no module before it has its id.

**Proof sketch.** What stands before a place of the list does not depend on the module behind the
list. So the others are first ones as before, and the new one is if no id before it is the same. -/
lemma firsts_concat (ms : List CssModule) (m : CssModule) :
    firsts (ms ++ [m]) = firsts ms ++ if ∀ x ∈ ms, x.id ≠ m.id then [m] else [] := by
  -- what stands before a place in the list stays the same
  have hfront : ∀ p ∈ ms.zipIdx, (((ms ++ [m]).take p.2).all fun x => x.id ≠ p.1.id) =
      ((ms.take p.2).all fun x => x.id ≠ p.1.id) := by
    intro p hp
    have hbound := List.snd_lt_add_of_mem_zipIdx hp
    rw [List.take_append_of_le_length (by omega)]
  have hlast : [m].zipIdx (0 + ms.length) = [(m, ms.length)] := by simp
  rw [firsts, List.zipIdx_append, List.filter_append, List.filter_congr hfront, List.map_append,
    hlast]
  refine congrArg (firsts ms ++ ·) ?_
  by_cases h : ∀ x ∈ ms, x.id ≠ m.id
  · rw [if_pos h, List.filter_cons_of_pos]
    · rfl
    · simpa using h
  · rw [if_neg h, List.filter_cons_of_neg]
    · rfl
    · simpa using h

/-- **The pass over the modules keeps the first ones with their ids.** -/
theorem distinct_eq_firsts (ms : List CssModule) : distinct [] ms = firsts ms := by
  induction ms using List.reverseRecOn with
  | nil => rfl
  | append_singleton ms m ih => rw [distinct_concat, firsts_concat, ih]

/-- What is kept is some of the modules. -/
lemma distinct_sublist (seen : List String) (ms : List CssModule) :
    (distinct seen ms).Sublist ms := by
  induction ms generalizing seen with
  | nil => exact .slnil
  | cons m ms ih =>
    rw [distinct]
    split
    · exact (ih seen).cons m
    · exact (ih _).cons_cons m

/-- No module is kept whose id has been seen. -/
lemma id_notMem_of_mem_distinct {seen : List String} {ms : List CssModule} {x : CssModule}
    (hx : x ∈ distinct seen ms) : x.id ∉ seen := by
  induction ms generalizing seen with
  | nil => cases hx
  | cons m ms ih =>
    rw [distinct] at hx
    split at hx
    · exact ih hx
    · next hseen =>
      rcases List.mem_cons.mp hx with rfl | hx
      · exact hseen
      · exact fun h => ih hx (List.mem_cons_of_mem _ h)

/-- No two modules that are kept have the same id. -/
lemma nodup_distinct (seen : List String) (ms : List CssModule) :
    ((distinct seen ms).map CssModule.id).Nodup := by
  induction ms generalizing seen with
  | nil => exact List.nodup_nil
  | cons m ms ih =>
    rw [distinct]
    split
    · exact ih seen
    · rw [List.map_cons, List.nodup_cons]
      refine ⟨fun h => ?_, ih _⟩
      obtain ⟨x, hx, hid⟩ := List.mem_map.mp h
      exact id_notMem_of_mem_distinct hx (hid ▸ List.mem_cons_self)

/-- Every id of the modules that has not been seen is kept.

**Proof sketch.** Induction on the list. If the first module has the id, it is kept for it, and
otherwise the id is still not seen behind it. -/
lemma exists_mem_distinct {seen : List String} {ms : List CssModule} {m : CssModule} (hm : m ∈ ms)
    (hseen : m.id ∉ seen) : ∃ x ∈ distinct seen ms, x.id = m.id := by
  induction ms generalizing seen with
  | nil => cases hm
  | cons y ms ih =>
    rw [distinct]
    split
    · next hy =>
      refine ih ((List.mem_cons.mp hm).resolve_left ?_) hseen
      rintro rfl
      exact hseen hy
    · by_cases hid : y.id = m.id
      · exact ⟨y, List.mem_cons_self, hid⟩
      · have hne : m ≠ y := by
          rintro rfl
          exact hid rfl
        have hseen' : m.id ∉ y.id :: seen := by simp [hseen, Ne.symm hid]
        obtain ⟨x, hx, hxid⟩ := ih ((List.mem_cons.mp hm).resolve_left hne) hseen'
        exact ⟨x, List.mem_cons_of_mem _ hx, hxid⟩

/-! ## Ids that can be left out -/

section Listed

variable (r : Registry)

/-- **The modules that a list of ids stands for**, from left to right. -/
def listed (ids : List String) : List CssModule := ids.flatMap r.resolve

/-- **An id is covered by ids before it**: each module that it stands for has the id of one that
these stand for. -/
def Covered (before : List String) (id : String) : Prop :=
  ∀ m ∈ r.resolve id, ∃ x ∈ r.listed before, x.id = m.id

/-- An id is covered by itself. -/
lemma covered_of_mem {before : List String} {id : String} (h : id ∈ before) :
    r.Covered before id :=
  fun m hm => ⟨m, List.mem_flatMap.mpr ⟨id, h, hm⟩, rfl⟩

/-- An id that stands for nothing is covered. -/
lemma covered_of_resolve_eq_nil (before : List String) {id : String} (h : r.resolve id = []) :
    r.Covered before id := by
  intro m hm
  rw [h] at hm
  cases hm

/-- The styles of a list of ids are those of the first modules with their ids. -/
lemma aggregate_eq (ids : List String) :
    r.aggregate ids = Text.join "\n" ((firsts (r.listed ids)).map CssModule.css) := by
  rw [aggregate, distinct_eq_firsts, listed]

/-- **An id that is covered can be left out**: nothing is kept for it, and what is seen behind it
has been seen before.

**Proof sketch.** All modules of the id have ids that have been seen, so none is kept. The ids that
are seen behind it are the same with and without it. -/
theorem aggregate_of_covered {before : List String} {id : String} (h : r.Covered before id)
    (behind : List String) :
    r.aggregate (before ++ id :: behind) = r.aggregate (before ++ behind) := by
  have hseen : ∀ m ∈ r.resolve id, m.id ∈ (r.listed before).map CssModule.id := by
    intro m hm
    obtain ⟨x, hx, hid⟩ := h m hm
    exact List.mem_map.mpr ⟨x, hx, hid⟩
  have hkept : distinct [] (r.listed (before ++ id :: behind)) =
      distinct [] (r.listed (before ++ behind)) := by
    simp only [listed, List.flatMap_append, List.flatMap_cons, distinct_append, List.append_nil]
    rw [← listed, distinct_eq_nil hseen, List.nil_append]
    refine congrArg (_ ++ ·) (distinct_congr (fun x => ?_) _)
    rw [List.mem_append]
    refine ⟨?_, .inr⟩
    rintro (hx | hx)
    · obtain ⟨m, hm, rfl⟩ := List.mem_map.mp hx
      exact hseen m hm
    · exact hx
  rw [aggregate_eq, aggregate_eq, ← distinct_eq_firsts, ← distinct_eq_firsts, hkept]

/-- What an id stands for are modules of the registry. -/
lemma mem_modules_of_mem_resolve {id : String} {m : CssModule} (hm : m ∈ r.resolve id) :
    m ∈ r.modules := by
  unfold resolve at hm
  split at hm
  · exact List.mem_of_find?_eq_some (Option.mem_toList.mp hm)
  · obtain ⟨ms, hentry, hm⟩ := mem_entriesFor_iff_exists.mp hm
    exact mem_modules_iff.mpr ⟨_, hentry, hm⟩

/-- **Where no two modules have the same id, each that is listed counts once.** -/
lemma count_firsts_eq_one (hdistinct : (r.modules.map CssModule.id).Nodup) {ids : List String}
    {m : CssModule} (hm : m ∈ r.listed ids) : (firsts (r.listed ids)).count m = 1 := by
  rw [← distinct_eq_firsts]
  refine List.count_eq_one_of_mem ((nodup_distinct _ _).of_map _) ?_
  have hregistered : ∀ x ∈ r.listed ids, x ∈ r.modules := by
    intro x hx
    obtain ⟨id, -, hx⟩ := List.mem_flatMap.mp hx
    exact r.mem_modules_of_mem_resolve hx
  obtain ⟨x, hx, hid⟩ := exists_mem_distinct hm List.not_mem_nil
  have hx' := hregistered x ((distinct_sublist [] _).subset hx)
  rwa [List.inj_on_of_nodup_map hdistinct hx' (hregistered m hm) hid] at hx

end Listed

/-! ## What ids stand for -/

/-- **What ids stand for** in a registry with the styles of a table. -/
structure Resolves (r : Registry) (t : StyleTable) : Prop where
  /-- An id that is not recognized stands for the modules of its file, in the order of their
  numbers. -/
  file : ∀ id, VirtualId.recognizes id = false →
    r.resolve id = modulesOf (FileId.normalize id) (t.stylesOf id)
  /-- The id of a virtual module stands for the foremost module with its path and number. -/
  module : ∀ file index m,
    r.resolve (VirtualId.ofFile file index) = [m] ↔ r.Foremost (VirtualId.path file) index m
  /-- The marked form of a recognized id stands for the same. -/
  marked : ∀ id, VirtualId.recognizes id = true →
    r.resolve (String.singleton idMarker ++ id) = r.resolve id
  /-- A recognized id that no module has stands for nothing. -/
  unknown : ∀ id, VirtualId.recognizes id = true →
    (∀ m ∈ r.modules, m.id ≠ VirtualId.importForm id) → r.resolve id = []

/-- A recognized id stands for the module that is found, if one is. -/
lemma resolve_of_recognizes (r : Registry) {id : String} (h : VirtualId.recognizes id = true) :
    r.resolve id = (r.entry? id).toList := by
  rw [resolve, if_pos h]

/-- What ids stand for in a registry that represents a table.

**Proof sketch.** An id that is none of a virtual module stands for the modules of the file. The id
of a virtual module stands for the first module with this id, marked or not. -/
lemma Represents.resolves {r : Registry} {t : StyleTable} (h : r.Represents t) :
    r.Resolves t where
  file := by
    intro id hid
    rw [resolve, hid, h.entriesFor_eq]
    rfl
  module := by
    intro file index m
    rw [r.resolve_of_recognizes (VirtualId.recognizes_ofFile file index),
      ← entry?_ofFile_iff h.wellFormed]
    cases r.entry? (VirtualId.ofFile file index) <;> simp
  marked := by
    intro id hid
    have hmarked : VirtualId.recognizes (String.singleton idMarker ++ id) = true := by
      rwa [VirtualId.recognizes, VirtualId.importForm_marked]
    rw [r.resolve_of_recognizes hid, r.resolve_of_recognizes hmarked, entry?, entry?,
      VirtualId.importForm_marked]
  unknown := by
    intro id hid hnone
    rw [r.resolve_of_recognizes hid, entry?, List.find?_eq_none.mpr]
    · rfl
    · simpa using hnone

/-- **The styles of a chunk**, after any updates. They are those of the modules that its ids stand
for, from left to right, each module where its id occurs first. An id can be left out if it has
occurred before, if it stands for nothing, and in general if it is covered by the ids before it.
Where no two modules have the same id, every module of a listed file counts exactly once.

**Proof sketch.** Leaving out modules whose id has occurred is keeping first occurrences
(`aggregate_eq`). An id that is covered adds modules with ids that have occurred only, so it adds
nothing. With different ids the modules of a file are all kept, and each of them once. -/
theorem aggregate_keeps_firsts (ops : List Operation) :
    (run ops).Resolves (StyleTable.run ops) ∧
    (∀ ids, (run ops).aggregate ids =
      Text.join "\n" ((firsts ((run ops).listed ids)).map CssModule.css)) ∧
    (∀ before id behind, id ∈ before ∨ (run ops).resolve id = [] ∨ (run ops).Covered before id →
      (run ops).aggregate (before ++ id :: behind) = (run ops).aggregate (before ++ behind)) ∧
    (((run ops).modules.map CssModule.id).Nodup →
      ∀ ids, ∀ id ∈ ids, VirtualId.recognizes id = false → ∀ m ∈ (run ops).entriesFor id,
        (firsts ((run ops).listed ids)).count m = 1) := by
  refine ⟨(represents_run ops).resolves, (run ops).aggregate_eq, ?_, ?_⟩
  · intro before id behind h
    refine (run ops).aggregate_of_covered ?_ behind
    rcases h with hmem | hnil | hcovered
    · exact (run ops).covered_of_mem hmem
    · exact (run ops).covered_of_resolve_eq_nil before hnil
    · exact hcovered
  · intro hdistinct ids id hid hfile m hm
    refine (run ops).count_firsts_eq_one hdistinct (List.mem_flatMap.mpr ⟨id, hid, ?_⟩)
    rw [resolve, hfile]
    exact hm

/-- A file, a module of it and a file that is not registered: the last two can be left out, and the
module counts once. -/
theorem aggregate_keeps_firsts_sample :
    let r := run [.replaceFile "a.js" ["x", "y"], .register "b.js" 3 "z"]
    let id := VirtualId.ofFile "a.js" 1
    r.aggregate ["b.js", "a.js", id, "c.js"] = "z\nx\ny" ∧
    (r.modules.map CssModule.id).Nodup ∧
    (firsts (r.listed ["b.js", "a.js", id, "c.js"])).count (CssModule.make "a.js" 1 "y") = 1 := by
  intro r id
  obtain ⟨-, -, hleft, hcount⟩ :=
    aggregate_keeps_firsts [.replaceFile "a.js" ["x", "y"], .register "b.js" 3 "z"]
  have hnone : r.resolve "c.js" = [] := by decide +kernel
  have hdistinct : (r.modules.map CssModule.id).Nodup := by decide +kernel
  have hmodule : r.Covered ["b.js", "a.js"] id := by
    unfold Covered
    decide +kernel
  refine ⟨?_, hdistinct, ?_⟩
  · calc r.aggregate ["b.js", "a.js", id, "c.js"]
        = r.aggregate ["b.js", "a.js", id] :=
          hleft ["b.js", "a.js", id] "c.js" [] (.inr (.inl hnone))
      _ = r.aggregate ["b.js", "a.js"] := hleft ["b.js", "a.js"] id [] (.inr (.inr hmodule))
      _ = "z\nx\ny" := by decide +kernel
  · exact hcount hdistinct _ "a.js" (by simp) (by decide +kernel) _ (by decide +kernel)

end StyleExtract.Registry
