/-!
# Maps that remember the order of insertion

A finite map whose keys stand in the order of their first insertion. Inserting a key that is
present keeps its place and replaces its value; erasing a key leaves the order of the others.

## Main definitions

* `OrderedMap` — a list of entries with pairwise different keys.
* `OrderedMap.insert`, `OrderedMap.erase`, `OrderedMap.get?` — the operations.

## Main results

* `OrderedMap.keys_insert_of_mem`, `OrderedMap.keys_insert_of_not_mem` — what an insertion does
  to the keys.
* `OrderedMap.get?_insert`, `OrderedMap.get?_erase` — what insertions and removals do to a look-up.
* `OrderedMap.erase_insert` — apart from its key, an insertion leaves a map as it was.
* `OrderedMap.insert_insert` — the same insertion once more changes nothing.
-/

namespace StyleExtract

universe u v

/-- A finite map whose entries stand in the order of first insertion. -/
structure OrderedMap (κ : Type u) (ν : Type v) where
  /-- The entries in order. -/
  entries : List (κ × ν)
  /-- No key stands twice. -/
  nodup : (entries.map Prod.fst).Nodup

namespace OrderedMap

variable {κ : Type u} {ν : Type v} [DecidableEq κ]

/-- The map without entries. -/
def empty : OrderedMap κ ν := ⟨[], by simp⟩

instance : Inhabited (OrderedMap κ ν) := ⟨empty⟩

instance [DecidableEq ν] : DecidableEq (OrderedMap κ ν) := fun a b =>
  decidable_of_iff (a.entries = b.entries) ⟨fun h => by cases a; cases b; simp_all, fun h => h ▸ rfl⟩

/-- The keys in order. -/
def keys (m : OrderedMap κ ν) : List κ := m.entries.map Prod.fst

/-- The values in the order of their keys. -/
def values (m : OrderedMap κ ν) : List ν := m.entries.map Prod.snd

/-- The number of entries. -/
def size (m : OrderedMap κ ν) : Nat := m.entries.length

/-- The value of a key in a list of entries. -/
def lookup (k : κ) : List (κ × ν) → Option ν
  | [] => none
  | (k', v) :: rest => if k' = k then some v else lookup k rest

/-- The value of a key. -/
def get? (m : OrderedMap κ ν) (k : κ) : Option ν := lookup k m.entries

/-- A list of entries with the value of `k` replaced, or with a new entry at its end. -/
def insertEntry (k : κ) (v : ν) : List (κ × ν) → List (κ × ν)
  | [] => [(k, v)]
  | (k', v') :: rest => if k' = k then (k', v) :: rest else (k', v') :: insertEntry k v rest

theorem map_fst_insertEntry_of_mem {k : κ} (v : ν) {l : List (κ × ν)}
    (h : k ∈ l.map Prod.fst) : (insertEntry k v l).map Prod.fst = l.map Prod.fst := by
  induction l with
  | nil => simp at h
  | cons e l ih =>
    obtain ⟨k', v'⟩ := e
    by_cases hk : k' = k
    · simp [insertEntry, hk]
    · have : k ∈ l.map Prod.fst := by simpa [Ne.symm hk] using h
      simp [insertEntry, hk, ih this]

theorem map_fst_insertEntry_of_not_mem {k : κ} (v : ν) {l : List (κ × ν)}
    (h : k ∉ l.map Prod.fst) : (insertEntry k v l).map Prod.fst = l.map Prod.fst ++ [k] := by
  induction l with
  | nil => simp [insertEntry]
  | cons e l ih =>
    obtain ⟨k', v'⟩ := e
    have hk : k' ≠ k := fun e => h (by simp [e])
    have : k ∉ l.map Prod.fst := fun m => h (by simp [m])
    simp [insertEntry, hk, ih this]

theorem nodup_insertEntry (k : κ) (v : ν) {l : List (κ × ν)} (h : (l.map Prod.fst).Nodup) :
    ((insertEntry k v l).map Prod.fst).Nodup := by
  by_cases hk : k ∈ l.map Prod.fst
  · rw [map_fst_insertEntry_of_mem v hk]; exact h
  · rw [map_fst_insertEntry_of_not_mem v hk]
    refine List.nodup_append.mpr ⟨h, by simp, ?_⟩
    intro a ha b hb
    rw [List.mem_singleton] at hb
    exact fun e => hk (hb ▸ e ▸ ha)

/-- Gives a key a value: in its place if the key is present, else at the end. -/
def insert (m : OrderedMap κ ν) (k : κ) (v : ν) : OrderedMap κ ν :=
  ⟨insertEntry k v m.entries, nodup_insertEntry k v m.nodup⟩

/-- Removes a key; the others keep their order. -/
def erase (m : OrderedMap κ ν) (k : κ) : OrderedMap κ ν :=
  ⟨m.entries.filter (fun e => e.1 ≠ k),
    m.nodup.sublist ((List.filter_sublist (l := m.entries)).map Prod.fst)⟩

/-- The map of a list of pairs, inserted one after the other. -/
def ofList (l : List (κ × ν)) : OrderedMap κ ν :=
  l.foldl (fun m (k, v) => m.insert k v) empty

/-- Whether a key is present. -/
def contains (m : OrderedMap κ ν) (k : κ) : Bool := (m.get? k).isSome

/-- A present key keeps its place. -/
theorem keys_insert_of_mem {m : OrderedMap κ ν} {k : κ} (v : ν) (h : k ∈ m.keys) :
    (m.insert k v).keys = m.keys :=
  map_fst_insertEntry_of_mem v h

/-- A new key goes to the end. -/
theorem keys_insert_of_not_mem {m : OrderedMap κ ν} {k : κ} (v : ν) (h : k ∉ m.keys) :
    (m.insert k v).keys = m.keys ++ [k] :=
  map_fst_insertEntry_of_not_mem v h

theorem lookup_insertEntry (k k' : κ) (v : ν) (l : List (κ × ν)) :
    lookup k' (insertEntry k v l) = if k = k' then some v else lookup k' l := by
  induction l with
  | nil => simp [insertEntry, lookup]
  | cons e l ih =>
    obtain ⟨a, w⟩ := e
    by_cases h : a = k
    · subst h
      by_cases h' : a = k' <;> simp [insertEntry, lookup, h']
    · by_cases h' : a = k'
      · subst h'
        simp [insertEntry, lookup, h, Ne.symm h]
      · simp [insertEntry, lookup, h, h', ih]

/-- After an insertion the key has the new value and every other key its old one. -/
@[simp] theorem get?_insert (m : OrderedMap κ ν) (k k' : κ) (v : ν) :
    (m.insert k v).get? k' = if k = k' then some v else m.get? k' :=
  lookup_insertEntry k k' v m.entries

omit [DecidableEq κ] in
/-- Maps with the same entries are the same. -/
theorem ext_entries {a b : OrderedMap κ ν} (h : a.entries = b.entries) : a = b := by
  cases a
  cases b
  simp_all

@[simp] theorem get?_empty (k : κ) : (empty : OrderedMap κ ν).get? k = none := rfl

theorem lookup_filter_ne (k k' : κ) (l : List (κ × ν)) :
    lookup k' (l.filter fun e => e.1 ≠ k) = if k = k' then none else lookup k' l := by
  induction l with
  | nil => simp [lookup]
  | cons e l ih =>
    obtain ⟨a, w⟩ := e
    by_cases h : a = k
    · subst h
      rw [List.filter_cons_of_neg (by simp), ih]
      by_cases h' : a = k' <;> simp [lookup, h']
    · by_cases h' : a = k'
      · subst h'
        simp [lookup, h, Ne.symm h]
      · simpa [lookup, h, h'] using ih

/-- After a removal the key has no value and every other key its old one. -/
@[simp] theorem get?_erase (m : OrderedMap κ ν) (k k' : κ) :
    (m.erase k).get? k' = if k = k' then none else m.get? k' :=
  lookup_filter_ne k k' m.entries

/-- Apart from its key, an insertion leaves the entries and their order as they were. -/
@[simp] theorem erase_insert (m : OrderedMap κ ν) (k : κ) (v : ν) :
    (m.insert k v).erase k = m.erase k := by
  refine ext_entries ?_
  show (insertEntry k v m.entries).filter _ = m.entries.filter _
  induction m.entries with
  | nil => simp [insertEntry]
  | cons e l ih =>
    obtain ⟨a, w⟩ := e
    by_cases h : a = k
    · simp [insertEntry, h]
    · simp only [insertEntry, if_neg h]
      rw [List.filter_cons_of_pos (by simpa using h), List.filter_cons_of_pos (by simpa using h),
        ih]

/-- Inserting the same entry once more leaves a map as it is, with all entries in their places. -/
@[simp] theorem insert_insert (m : OrderedMap κ ν) (k : κ) (v : ν) :
    (m.insert k v).insert k v = m.insert k v := by
  refine ext_entries ?_
  show insertEntry k v (insertEntry k v m.entries) = insertEntry k v m.entries
  induction m.entries with
  | nil => simp [insertEntry]
  | cons e l ih =>
    obtain ⟨a, w⟩ := e
    by_cases h : a = k
    · simp [insertEntry, h]
    · simp [insertEntry, h, ih]

@[simp] theorem erase_erase (m : OrderedMap κ ν) (k : κ) : (m.erase k).erase k = m.erase k :=
  ext_entries (by simp [erase])

/-- Maps that are the same apart from one key are the same under every other key. -/
theorem get?_eq_of_erase_eq {a b : OrderedMap κ ν} {k k' : κ} (h : a.erase k = b.erase k)
    (hk : k' ≠ k) : a.get? k' = b.get? k' := by
  have hget := congrArg (fun m => m.get? k') h
  simpa only [get?_erase, if_neg (Ne.symm hk)] using hget

/-- An entry of a map is what a look-up of its key finds. -/
theorem mem_entries_iff {m : OrderedMap κ ν} {k : κ} {v : ν} :
    (k, v) ∈ m.entries ↔ m.get? k = some v := by
  obtain ⟨entries, hnodup⟩ := m
  show (k, v) ∈ entries ↔ lookup k entries = some v
  induction entries with
  | nil => simp [lookup]
  | cons e l ih =>
    obtain ⟨a, w⟩ := e
    rw [List.map_cons, List.nodup_cons] at hnodup
    by_cases h : a = k
    · subst h
      have hnot : (a, v) ∉ l := fun hmem => hnodup.1 (List.mem_map.mpr ⟨_, hmem, rfl⟩)
      simp [lookup, hnot, eq_comm]
    · simp [lookup, h, Ne.symm h, ih hnodup.2]

end OrderedMap

end StyleExtract
