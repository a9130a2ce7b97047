import Mathlib.Tactic.Common
import StyleExtract.Proofs.Registry.Refinement

/-!
# File ids in their one form

A registry keeps the one form of each file id, and brings it to its one form again for the ids of
the modules, and once more when the form itself is used as a file id. Nothing happens then, unless
the id was a `file:` URL around another one, or around a marked id: only the outer scheme is taken
off, and what is left is no path. This file says which ids these are, and what they are no longer
good for.

## Main definitions

* `FileId.bare` — an id without markers and query, from which the scheme is taken off.
* `FileId.Settled` — an id that is in its one form.
* `FileId.wraps` — whether an id is a `file:` URL around another one or a marked id.

## Main results

* `FileId.normalize_eq_self_iff` — the ids that are their own one form.
* `FileId.normalize_normalize_iff` — the ids whose one form is its own.
* `VirtualId.ofFile_normalize_iff` — the ids whose one form has the same virtual modules.
* `Registry.WellFormed.mem_entriesFor_iff`, `Registry.WellFormed.mem_invalidate_iff` — the modules
  that a file id finds, and those that are left when it is removed.
* `Registry.reached_by_own_file_iff` — the modules that are found by their own file.
* `Registry.one_form_kept_iff` — what the one form of an id is good for.
* `Registry.wrapped_id_lost` — a module that is not found by its own file.

## Design

No step makes an id longer, and taking off a marker or a scheme makes it shorter. So an id with one
of them in front is not its own one form, and an id without them is, if it has no query and no
backslash. The one form of an id never has the latter two.
-/

namespace StyleExtract

namespace FileId

/-! ## Steps to the one form -/

/-- An id without markers and query, with forward slashes: what the scheme is taken off. -/
def bare (id : String) : String :=
  Text.replaceChar '\\' '/' (Text.before '?' (Text.dropLeading idMarker id))

lemma normalize_eq (id : String) : normalize id = stripScheme (bare id) := rfl

lemma toList_bare (id : String) : (bare id).toList =
    ((id.toList.dropWhile (· == idMarker)).takeWhile (· != '?')).map
      fun c => if c = '\\' then '/' else c := by
  simp [bare, Text.replaceChar, Text.before, Text.dropLeading]

/-- The one form of an id has no backslash. -/
lemma backslash_not_mem_normalize (id : String) : '\\' ∉ (normalize id).toList := by
  intro h
  have hmem : '\\' ∈ (bare id).toList := mem_stripScheme h
  rw [toList_bare] at hmem
  obtain ⟨x, -, heq⟩ := List.mem_map.mp hmem
  split at heq
  · exact absurd heq (by decide)
  · next hne => exact hne heq

/-- Without its markers, an id does not start with one. -/
lemma head?_bare (id : String) : (bare id).toList.head? ≠ some idMarker := by
  rw [toList_bare]
  cases hdrop : id.toList.dropWhile (· == idMarker) with
  | nil => simp
  | cons c cs =>
    have hc : c ≠ idMarker := by
      have hhead := List.head?_dropWhile_not (· == idMarker) id.toList
      simpa [hdrop] using hhead
    by_cases hquery : c = '?'
    · simp [hquery]
    · by_cases hback : c = '\\'
      · simp [hback, idMarker]
      · simp [hquery, hback, hc]

/-! ## Ids in their one form -/

/-- **An id that is in its one form**: it has no query and no backslash, and starts neither with a
marker nor with a scheme. -/
structure Settled (id : String) : Prop where
  /-- It has no query. -/
  query : '?' ∉ id.toList
  /-- It has no backslash. -/
  backslash : '\\' ∉ id.toList
  /-- It does not start with a marker. -/
  marker : id.toList.head? ≠ some idMarker
  /-- It does not start with a scheme. -/
  noScheme : ¬ scheme.toList <+: id.toList

/-- Before the scheme is taken off, no more of an id is left than stands behind its markers. -/
lemma length_bare_le (id : String) :
    (bare id).toList.length ≤ (id.toList.dropWhile (· == idMarker)).length := by
  rw [toList_bare, List.length_map]
  exact (List.takeWhile_sublist _).length_le

/-- A marker in front is dropped. -/
lemma length_bare_lt {id : String} (h : id.toList.head? = some idMarker) :
    (bare id).toList.length < id.toList.length := by
  have hbare := length_bare_le id
  obtain ⟨cs, hcs⟩ := List.head?_eq_some_iff.mp h
  have hdrop : (id.toList.dropWhile (· == idMarker)).length ≤ cs.length := by
    rw [hcs, List.dropWhile_cons_of_pos (by simp)]
    exact (List.dropWhile_sublist _).length_le
  rw [hcs, List.length_cons]
  omega

/-- A scheme in front stays until it is taken off. -/
lemma scheme_prefix_bare {id : String} (h : scheme.toList <+: id.toList) :
    scheme.toList <+: (bare id).toList := by
  obtain ⟨rest, hrest⟩ := h
  rw [toList_bare, ← hrest]
  simp [scheme, idMarker]

/-- Taking off a scheme makes a text shorter. -/
lemma length_stripScheme_lt {s : String} (h : scheme.toList <+: s.toList) :
    (stripScheme s).toList.length < s.toList.length := by
  have hscheme : scheme.toList.length = 7 := rfl
  rcases stripScheme_cases s with ⟨rest, hs, hstrip⟩ | ⟨rest, hs, hstrip⟩ | ⟨hs, -⟩
  · rw [hs, hstrip, List.length_append, hscheme, List.length_cons]
    omega
  · rw [hs, hstrip, List.length_append, hscheme]
    omega
  · exact absurd h hs

/-- Taking off a scheme never makes a text longer. -/
lemma length_stripScheme_le (s : String) : (stripScheme s).toList.length ≤ s.toList.length := by
  rcases stripScheme_cases s with ⟨rest, hs, -⟩ | ⟨rest, hs, -⟩ | ⟨-, hstrip⟩
  · exact (length_stripScheme_lt ⟨_, hs.symm⟩).le
  · exact (length_stripScheme_lt ⟨_, hs.symm⟩).le
  · rw [hstrip]

/-- **An id with a marker or a scheme in front is longer than its one form.** -/
theorem length_normalize_lt {id : String}
    (h : id.toList.head? = some idMarker ∨ scheme.toList <+: id.toList) :
    (normalize id).toList.length < id.toList.length := by
  rw [normalize_eq]
  rcases h with h | h
  · exact Nat.lt_of_le_of_lt (length_stripScheme_le _) (length_bare_lt h)
  · calc (stripScheme (bare id)).toList.length
        < (bare id).toList.length := length_stripScheme_lt (scheme_prefix_bare h)
      _ ≤ (id.toList.dropWhile (· == idMarker)).length := length_bare_le id
      _ ≤ id.toList.length := (List.dropWhile_sublist _).length_le

/-- Nothing is done to an id that is in its one form. -/
lemma Settled.bare_eq {id : String} (h : Settled id) : bare id = id := by
  rw [bare, Text.dropLeading_of_head?_ne h.marker, Text.before_of_not_mem h.query,
    Text.replaceChar_of_not_mem h.backslash]

lemma Settled.stripScheme_eq {id : String} (h : Settled id) : stripScheme id = id := by
  rcases stripScheme_cases id with ⟨rest, hs, -⟩ | ⟨rest, hs, -⟩ | ⟨-, hstrip⟩
  · exact absurd ⟨_, hs.symm⟩ h.noScheme
  · exact absurd ⟨_, hs.symm⟩ h.noScheme
  · exact hstrip

/-- **The ids that are their own one form** are those in their one form. -/
theorem normalize_eq_self_iff {id : String} : normalize id = id ↔ Settled id := by
  constructor
  · intro h
    have hlength : ¬ (normalize id).toList.length < id.toList.length := by
      rw [h]
      exact Nat.lt_irrefl _
    exact ⟨h ▸ question_not_mem_normalize id, h ▸ backslash_not_mem_normalize id,
      fun hmarker => hlength (length_normalize_lt (.inl hmarker)),
      fun hscheme => hlength (length_normalize_lt (.inr hscheme))⟩
  · intro h
    rw [normalize_eq, h.bare_eq, h.stripScheme_eq]

/-- The one form of an id is in its one form unless it starts with a marker or a scheme. -/
lemma settled_normalize_iff (id : String) :
    Settled (normalize id) ↔
      (normalize id).toList.head? ≠ some idMarker ∧ ¬ scheme.toList <+: (normalize id).toList :=
  ⟨fun h => ⟨h.marker, h.noScheme⟩, fun h =>
    ⟨question_not_mem_normalize id, backslash_not_mem_normalize id, h.1, h.2⟩⟩

/-- **Whether an id wraps another one**: it is a `file:` URL, and behind its scheme stands a scheme
or a marker. -/
def wraps (id : String) : Bool :=
  Text.startsWith (scheme ++ scheme) (bare id) ||
    Text.startsWith (scheme ++ String.singleton idMarker) (bare id)

/-- An id that wraps none has no scheme or marker behind its scheme. -/
lemma wraps_eq_false_iff {id : String} : wraps id = false ↔
    ¬ scheme.toList ++ scheme.toList <+: (bare id).toList ∧
      ¬ scheme.toList ++ [idMarker] <+: (bare id).toList := by
  rw [wraps, Bool.or_eq_false_iff, ← Bool.not_eq_true, ← Bool.not_eq_true, Text.startsWith_iff,
    Text.startsWith_iff, String.toList_append, String.toList_append, String.toList_singleton]

/-- **The ids whose one form is its own one form** are those that wrap no other one.

**Proof sketch.** Only what stands behind the scheme can start with a marker or a scheme: the
markers of the id itself are dropped before, and an id without a scheme keeps its start. -/
theorem normalize_normalize_iff (id : String) :
    normalize (normalize id) = normalize id ↔ wraps id = false := by
  rw [normalize_eq_self_iff, settled_normalize_iff, wraps_eq_false_iff, normalize_eq]
  rcases stripScheme_cases (bare id) with ⟨rest, hs, hstrip⟩ | ⟨rest, hs, hstrip⟩ | ⟨hs, hstrip⟩
  · rw [hs, hstrip, List.prefix_append_right_inj, List.prefix_append_right_inj]
    simp [scheme, idMarker]
  · rw [hs, hstrip, List.prefix_append_right_inj, List.prefix_append_right_inj,
      List.singleton_prefix_iff_head?_eq_some, and_comm]
  · rw [hstrip]
    exact ⟨fun _ => ⟨fun h => hs ((List.prefix_append _ _).trans h),
      fun h => hs ((List.prefix_append _ _).trans h)⟩, fun _ => ⟨head?_bare id, hs⟩⟩

end FileId

/-! ## Virtual modules -/

namespace VirtualId

/-- **The one form of a file id has the same virtual modules** exactly if it is its own one form.

**Proof sketch.** A form that is not its own starts with a marker or a scheme, so it has no leading
slashes, and its one form is shorter. -/
theorem ofFile_normalize_iff (file : String) (index : ℕ) :
    ofFile (FileId.normalize file) index = ofFile file index ↔
      FileId.normalize (FileId.normalize file) = FileId.normalize file := by
  refine ⟨fun h => ?_, fun h => by rw [ofFile, ofFile, h]⟩
  obtain ⟨-, hpath⟩ := ofFile_eq_iff.mp h
  by_contra hne
  rw [FileId.normalize_eq_self_iff, FileId.settled_normalize_iff, not_and_or, not_not, not_not]
    at hne
  have hslash : (FileId.normalize file).toList.head? ≠ some '/' := by
    rcases hne with hmarker | ⟨rest, hrest⟩
    · rw [hmarker]
      decide
    · rw [← hrest]
      simp [FileId.scheme]
  have hshorter := FileId.length_normalize_lt hne
  have hdrop : (path (FileId.normalize file)).toList.length ≤
      (FileId.normalize (FileId.normalize file)).toList.length := by
    rw [path, Text.dropLeading, String.toList_ofList]
    exact (List.dropWhile_sublist _).length_le
  rw [hpath, path, Text.dropLeading_of_head?_ne hslash] at hdrop
  omega

end VirtualId

/-! ## Registries -/

namespace Registry

variable {r : Registry}

/-- **The modules that a file id finds** are those of its one form. -/
theorem WellFormed.mem_entriesFor_iff (h : r.WellFormed) (file : String) {m : CssModule} :
    m ∈ r.entriesFor file ↔ m ∈ r.modules ∧ m.file = FileId.normalize file := by
  rw [mem_modules_iff, mem_entriesFor_iff_exists]
  generalize FileId.normalize file = key
  constructor
  · rintro ⟨ms, hentry, hm⟩
    exact ⟨⟨_, hentry, hm⟩, (h.made _ hentry m hm).1⟩
  · rintro ⟨⟨e, hentry, hm⟩, hfile⟩
    obtain rfl : e.1 = key := (h.made e hentry m hm).1.symm.trans hfile
    exact ⟨e.2, hentry, hm⟩

/-- **The modules that are left when a file is removed** are those of the other files. -/
theorem WellFormed.mem_invalidate_iff (h : r.WellFormed) (file : String) {m : CssModule} :
    m ∈ (r.invalidate file).2.modules ↔ m ∈ r.modules ∧ m.file ≠ FileId.normalize file := by
  have hentries : ∀ e : String × List CssModule, e ∈ (r.invalidate file).2.files.entries ↔
      e ∈ r.files.entries ∧ e.1 ≠ FileId.normalize file := by
    rintro ⟨key, ms⟩
    rw [OrderedMap.mem_entries_iff, OrderedMap.mem_entries_iff, invalidate, OrderedMap.get?_erase]
    by_cases hkey : FileId.normalize file = key
    · simp [hkey]
    · simp [hkey, Ne.symm hkey]
  simp only [mem_modules_iff, hentries]
  constructor
  · rintro ⟨e, ⟨hentry, hkey⟩, hm⟩
    exact ⟨⟨e, hentry, hm⟩, (h.made e hentry m hm).1 ▸ hkey⟩
  · rintro ⟨⟨e, hentry, hm⟩, hfile⟩
    exact ⟨e, ⟨hentry, (h.made e hentry m hm).1 ▸ hfile⟩, hm⟩

/-! ## The files of a registry -/

/-- After an update, the files are those of before and the one form of the file of the update. -/
lemma mem_keys_apply (op : Operation) {key : String} (h : key ∈ (op.apply r).files.keys) :
    key ∈ r.files.keys ∨ ∃ file, op.file? = some file ∧ key = FileId.normalize file := by
  cases hop : op.file? with
  | none =>
    cases op with
    | clear => cases h
    | register | replaceFile | invalidate => cases hop
  | some file =>
    by_cases hkey : key = FileId.normalize file
    · exact .inr ⟨file, rfl, hkey⟩
    · obtain ⟨e, hentry, rfl⟩ := List.mem_map.mp h
      exact .inl (List.mem_map_of_mem (mem_entries_of_apply hop hentry hkey))

/-- **The files of a registry** are the one forms of the files of the updates. -/
theorem mem_keys_run {ops : List Operation} {key : String} (h : key ∈ (run ops).files.keys) :
    ∃ file, (∃ op ∈ ops, op.file? = some file) ∧ key = FileId.normalize file := by
  induction ops using List.reverseRecOn with
  | nil => cases h
  | append_singleton ops op ih =>
    rw [run, List.foldl_concat] at h
    rcases mem_keys_apply op h with hold | ⟨file, hop, hkey⟩
    · obtain ⟨file, ⟨op', hmem, hop'⟩, hkey⟩ := ih hold
      exact ⟨file, ⟨op', List.mem_append_left _ hmem, hop'⟩, hkey⟩
    · exact ⟨file, ⟨op, by simp, hop⟩, hkey⟩

/-! ## What the one form is good for -/

/-- The ids that are returned for replaced modules belong to the one form of the file. -/
lemma ids_replaceFile (file : String) (css : List String) : (r.replaceFile file css).1 =
    (List.range css.length).map (VirtualId.ofFile (FileId.normalize file)) := by
  refine List.ext_getElem (by simp [replaceFile]) fun i hi hi' => ?_
  simp [replaceFile, number, CssModule.make]

/-- The ids that are returned for replaced modules are those of the file itself exactly if there are
none or the one form of the file is its own. -/
lemma ids_replaceFile_eq_iff (file : String) (css : List String) :
    (r.replaceFile file css).1 = (List.range css.length).map (VirtualId.ofFile file) ↔
      css = [] ∨ FileId.normalize (FileId.normalize file) = FileId.normalize file := by
  rw [ids_replaceFile, List.map_inj_left]
  simp only [VirtualId.ofFile_normalize_iff, List.mem_range]
  constructor
  · intro h
    cases css with
    | nil => exact .inl rfl
    | cons s css => exact .inr (h 0 (by simp))
  · rintro (rfl | h) i hi
    · cases hi
    · exact h

/-- **Using the one form of a file as a file.** Among the modules of a registry, those of a file are
found by the one form of the file, and removed by it, exactly if this is its own one form. -/
theorem reached_by_own_file_iff {ops : List Operation} {m : CssModule}
    (hm : m ∈ (run ops).modules) :
    (m ∈ (run ops).entriesFor m.file ↔ FileId.normalize m.file = m.file) ∧
    (m ∉ ((run ops).invalidate m.file).2.modules ↔ FileId.normalize m.file = m.file) := by
  have hwell := (represents_run ops).wellFormed
  constructor
  · rw [hwell.mem_entriesFor_iff, and_iff_right hm, eq_comm]
  · rw [hwell.mem_invalidate_iff, not_and_not_right, eq_comm]
    exact ⟨fun h => h hm, fun h _ => h⟩

/-- Every module belongs to the one form of the file of an update. -/
lemma exists_file_of_mem_modules {ops : List Operation} {m : CssModule}
    (hm : m ∈ (run ops).modules) :
    ∃ file, (∃ op ∈ ops, op.file? = some file) ∧ m.file = FileId.normalize file := by
  obtain ⟨e, hentry, hme⟩ := mem_modules_iff.mp hm
  rw [((represents_run ops).wellFormed.made e hentry m hme).1]
  exact mem_keys_run (List.mem_map_of_mem hentry)

/-- **What the one form of a file id is good for.** It is its own one form exactly if the id wraps
no other one. Exactly then the ids that are returned for the modules of the file are those of the
file and the number, and exactly then each of its modules is found and removed by the file that it
belongs to; the removal returns its marked id. Every module belongs to the one form of the file of
an update.

**Proof sketch.** Bringing an id to its one form a second time changes it exactly if it wraps
another one (`normalize_normalize_iff`). The ids of modules are made from the one form, and a module
is found under the one form of the file that is asked for, so all other parts come down to this. -/
theorem one_form_kept_iff (ops : List Operation) (file : String) :
    (FileId.normalize (FileId.normalize file) = FileId.normalize file ↔
      FileId.wraps file = false) ∧
    (∀ (r : Registry) (index : ℕ) (css : String),
      (r.register file index css).1 = VirtualId.ofFile file index ↔ FileId.wraps file = false) ∧
    (∀ (r : Registry) (css : List String),
      (r.replaceFile file css).1 = (List.range css.length).map (VirtualId.ofFile file) ↔
        css = [] ∨ FileId.wraps file = false) ∧
    (∀ m ∈ (run ops).modules, m.file = FileId.normalize file →
      (m ∈ (run ops).entriesFor m.file ↔ FileId.wraps file = false) ∧
      (m ∉ ((run ops).invalidate m.file).2.modules ↔ FileId.wraps file = false) ∧
      (FileId.wraps file = false →
        String.singleton idMarker ++ m.id ∈ ((run ops).invalidate m.file).1)) ∧
    ∀ m ∈ (run ops).modules, ∃ f, (∃ op ∈ ops, op.file? = some f) ∧
      m.file = FileId.normalize f := by
  have hfixed := FileId.normalize_normalize_iff file
  refine ⟨hfixed, fun r index css => ?_, fun r css => ?_, fun m hm hfile => ?_,
    fun m hm => exists_file_of_mem_modules hm⟩
  · rw [← hfixed, ← VirtualId.ofFile_normalize_iff file index]
    rfl
  · rw [ids_replaceFile_eq_iff, hfixed]
  · obtain ⟨hfinds, hremoves⟩ := reached_by_own_file_iff hm
    have hown : FileId.normalize m.file = m.file ↔ FileId.wraps file = false := by
      rw [hfile, hfixed]
    exact ⟨hfinds.trans hown, hremoves.trans hown,
      fun hwraps => List.mem_map_of_mem (hfinds.mpr (hown.mpr hwraps))⟩

/-- A URL with a query, of which one module is registered: the module is found by its own file, and
its marked id is returned when that file is removed. -/
theorem one_form_kept_sample :
    FileId.wraps "file:///a\\b?file://" = false ∧
    ∃ m ∈ (run [.register "file:///a\\b?file://" 2 "x"]).modules, m.file = "/a/b" ∧
      m ∈ (run [.register "file:///a\\b?file://" 2 "x"]).entriesFor m.file ∧
      String.singleton idMarker ++ m.id ∈
        ((run [.register "file:///a\\b?file://" 2 "x"]).invalidate m.file).1 := by
  have hwraps : FileId.wraps "file:///a\\b?file://" = false := by decide +kernel
  have hm : CssModule.make "/a/b" 2 "x" ∈
      (run [.register "file:///a\\b?file://" 2 "x"]).modules := by decide +kernel
  have hfile : "/a/b" = FileId.normalize "file:///a\\b?file://" := by decide +kernel
  obtain ⟨-, -, -, hmodules, -⟩ := one_form_kept_iff
    [.register "file:///a\\b?file://" 2 "x"] "file:///a\\b?file://"
  obtain ⟨hfinds, -, hreturned⟩ := hmodules _ hm hfile
  exact ⟨hwraps, _, hm, rfl, hfinds.mpr hwraps, hreturned hwraps⟩

/-- A `file:` URL around a `file:` URL: the one form of the id is the inner URL, which has another
one form. The id that is returned for a module is not that of the file, and the module is neither
found nor removed by the file that it belongs to. -/
theorem wrapped_id_lost :
    (¬ ∀ id : String, FileId.normalize (FileId.normalize id) = FileId.normalize id) ∧
    (¬ ∀ (ops : List Operation) (file : String) (index : ℕ) (css : String),
      ((run ops).register file index css).1 = VirtualId.ofFile file index) ∧
    (¬ ∀ (ops : List Operation), ∀ m ∈ (run ops).modules, m ∈ (run ops).entriesFor m.file) ∧
    ¬ ∀ (ops : List Operation), ∀ m ∈ (run ops).modules,
      m ∉ ((run ops).invalidate m.file).2.modules := by
  have hm : CssModule.make "file:///a.js" 0 "x" ∈
      (run [.register "file://file:///a.js" 0 "x"]).modules := by decide +kernel
  refine ⟨fun h => ?_, fun h => ?_, fun h => ?_, fun h => ?_⟩
  · exact absurd (h "file://file:///a.js") (by decide +kernel)
  · exact absurd (h [] "file://file:///a.js" 0 "x") (by decide +kernel)
  · exact absurd (h _ _ hm) (by decide +kernel)
  · exact absurd (h _ _ hm) (by decide +kernel)

end Registry

end StyleExtract
