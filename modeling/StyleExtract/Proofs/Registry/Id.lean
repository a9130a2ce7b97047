import Mathlib.Tactic.Common
import StyleExtract.Proofs.Text.Cut
import StyleExtract.Registry.Id

/-!
# Forms of ids

The one form of a file id has no query, so neither have the ids of the virtual modules of a file.
They are recognized, and the form that hosts use for them is the id behind one marker, whatever
markers and query the id came with. An id tells the number of the module and the path of the file,
but files that differ in leading slashes have the same path.

## Main definitions

* `FileId.scheme` — how a `file:` URL begins.
* `VirtualId.path` — what the id of a virtual module tells of its file.

## Main results

* `FileId.stripScheme_cases` — what is left of a `file:` URL.
* `FileId.question_not_mem_normalize` — the one form of a file id has no query.
* `VirtualId.recognizes_ofFile` — the ids of virtual modules are recognized.
* `VirtualId.canonical?_ofFile` — their marked form.
* `VirtualId.ofFile_eq_iff` — when two virtual modules have the same id.
* `VirtualId.canonical?_canonical`, `VirtualId.canonical?_markers`, `VirtualId.canonical?_query` —
  what does not change a canonical form.
* `VirtualId.ofFile_exact` — the ids of virtual modules and their canonical forms.
-/

namespace StyleExtract

namespace FileId

/-- How a `file:` URL begins. -/
def scheme : String := "file://"

/-- **Taking the scheme off**: a URL with three slashes keeps the last of them, one with two keeps
none, and everything else stays. -/
theorem stripScheme_cases (s : String) :
    (∃ rest, s.toList = scheme.toList ++ '/' :: rest ∧ (stripScheme s).toList = '/' :: rest) ∨
    (∃ rest, s.toList = scheme.toList ++ rest ∧ (stripScheme s).toList = rest) ∨
    (¬ scheme.toList <+: s.toList ∧ stripScheme s = s) := by
  unfold stripScheme
  cases hthree : Text.stripStart? "file:///" s with
  | some rest =>
    exact .inl ⟨rest.toList, Text.toList_eq_of_stripStart? hthree, by simp⟩
  | none =>
    cases htwo : Text.stripStart? "file://" s with
    | some rest => exact .inr (.inl ⟨rest.toList, Text.toList_eq_of_stripStart? htwo, rfl⟩)
    | none => exact .inr (.inr ⟨Text.stripStart?_eq_none_iff.mp htwo, rfl⟩)

/-- Taking the scheme off a `file:` URL adds no characters. -/
lemma mem_stripScheme {s : String} {x : Char} (h : x ∈ (stripScheme s).toList) : x ∈ s.toList := by
  rcases stripScheme_cases s with ⟨rest, hs, hstrip⟩ | ⟨rest, hs, hstrip⟩ | ⟨-, hstrip⟩
  · rw [hs]
    exact List.mem_append_right _ (hstrip ▸ h)
  · rw [hs]
    exact List.mem_append_right _ (hstrip ▸ h)
  · rwa [hstrip] at h

/-- The one form of a file id has no query. -/
lemma question_not_mem_normalize (id : String) : '?' ∉ (normalize id).toList := by
  intro h
  have hmem := mem_stripScheme h
  rw [Text.replaceChar, String.toList_ofList] at hmem
  obtain ⟨x, hx, heq⟩ := List.mem_map.mp hmem
  split at heq
  · exact absurd heq (by decide)
  · exact Text.not_mem_before '?' _ (heq ▸ hx)

end FileId

namespace VirtualId

variable (file : String) (index : ℕ)

/-- The ids of virtual modules have no query. -/
lemma question_not_mem_ofFile : '?' ∉ (ofFile file index).toList := by
  have hstart : '?' ∉ start.toList := by decide
  have hpath : '?' ∉ (Text.dropLeading '/' (FileId.normalize file)).toList := fun h =>
    FileId.question_not_mem_normalize file (Text.mem_of_mem_dropLeading h)
  have hdigits : '?' ∉ (toString index).toList := fun h =>
    absurd (Text.isDigit_of_mem_toString index h) (by decide)
  simp only [ofFile, String.toList_append, List.mem_append, not_or]
  exact ⟨⟨⟨⟨hstart, hpath⟩, by decide⟩, hdigits⟩, by decide⟩

/-- How the ids of virtual modules start. -/
lemma head?_ofFile : (ofFile file index).toList.head? = some 'v' := by
  simp only [ofFile, start, String.toList_append]
  rfl

/-- The ids of virtual modules have no marker. -/
@[simp] lemma importForm_ofFile : importForm (ofFile file index) = ofFile file index := by
  refine Text.dropLeading_of_head?_ne ?_
  rw [head?_ofFile]
  decide

/-- A marked id is the id behind its marker. -/
@[simp] lemma importForm_marked (id : String) :
    importForm (String.singleton idMarker ++ id) = importForm id :=
  Text.dropLeading_singleton_append idMarker id

/-- The ids of virtual modules are recognized. -/
@[simp] lemma recognizes_ofFile : recognizes (ofFile file index) = true := by
  rw [recognizes, importForm_ofFile, ofFile, String.append_assoc, String.append_assoc,
    String.append_assoc]
  exact Text.startsWith_append _ _

/-- **The marked form of the id of a virtual module** is the id behind one marker. -/
theorem canonical?_ofFile :
    canonical? (ofFile file index) = some (String.singleton idMarker ++ ofFile file index) := by
  rw [canonical?, recognizes_ofFile, if_pos rfl, importForm_ofFile,
    Text.before_of_not_mem (question_not_mem_ofFile file index)]

/-- What the id of a virtual module tells of its file: its one form without leading slashes. -/
def path : String := Text.dropLeading '/' (FileId.normalize file)

/-- The characters of the id of a virtual module. -/
lemma toList_ofFile : (ofFile file index).toList =
    start.toList ++ ((path file).toList ++ '/' :: (toString index).toList) ++ ".css".toList := by
  simp [ofFile, path]

/-- **Two virtual modules have the same id** exactly if they have the same number and their files
have the same path. -/
theorem ofFile_eq_iff {f g : String} {i j : ℕ} :
    ofFile f i = ofFile g j ↔ i = j ∧ path f = path g := by
  rw [← String.toList_inj, toList_ofFile, toList_ofFile, List.append_left_inj,
    List.append_right_inj, Text.append_toString_inj (by decide), String.toList_inj, and_comm]

/-! ## Canonical forms -/

/-- The form without markers has no more of them to drop. -/
@[simp] lemma importForm_importForm (id : String) : importForm (importForm id) = importForm id :=
  Text.dropLeading_dropLeading idMarker id

/-- Markers do not matter for the canonical form. -/
lemma canonical?_importForm (id : String) : canonical? (importForm id) = canonical? id := by
  rw [canonical?, canonical?, recognizes, recognizes, importForm_importForm]

/-- One more marker does not matter for the canonical form. -/
lemma canonical?_marked (id : String) :
    canonical? (String.singleton idMarker ++ id) = canonical? id := by
  rw [← canonical?_importForm, importForm_marked, canonical?_importForm]

/-- Any number of markers does not matter for the canonical form. -/
lemma canonical?_markers (n : ℕ) (id : String) :
    canonical? (String.ofList (List.replicate n idMarker) ++ id) = canonical? id := by
  induction n with
  | zero => simp
  | succ n ih =>
    have hmarkers : String.ofList (List.replicate (n + 1) idMarker) =
        String.singleton idMarker ++ String.ofList (List.replicate n idMarker) := by
      simp [List.replicate_succ]
    rw [hmarkers, String.append_assoc, canonical?_marked, ih]

/-- A query does not matter for the canonical form: the start of every id has none. -/
lemma canonical?_query (id query : String) :
    canonical? (id ++ (String.singleton '?' ++ query)) = canonical? id := by
  have hstart : '?' ∉ start.toList := by decide
  have himport : importForm (id ++ (String.singleton '?' ++ query)) =
      importForm id ++ (String.singleton '?' ++ query) :=
    Text.dropLeading_append_singleton (by decide) id query
  rw [canonical?, canonical?, recognizes, recognizes, himport,
    Text.startsWith_append_singleton hstart, Text.before_append]

/-- Cutting a query off does not matter for the canonical form. -/
lemma canonical?_before (id : String) : canonical? (Text.before '?' id) = canonical? id := by
  obtain hid | ⟨query, hid⟩ := Text.eq_before_or_append '?' id
  · rw [← hid]
  · conv_rhs => rw [hid, canonical?_query]

/-- **The canonical form of a canonical form is itself.** -/
theorem canonical?_canonical {id marked : String} (h : canonical? id = some marked) :
    canonical? marked = some marked := by
  have hmarked : marked = String.singleton idMarker ++ Text.before '?' (importForm id) := by
    rw [canonical?] at h
    split at h
    · exact (Option.some.inj h).symm
    · cases h
  calc canonical? marked
      = canonical? (Text.before '?' (importForm id)) := by rw [hmarked, canonical?_marked]
    _ = canonical? id := by rw [canonical?_before, canonical?_importForm]
    _ = some marked := h

/-- **The ids of virtual modules, exactly.** Two are the same exactly if they have the same number
and their files have the same one form up to leading slashes. Each is recognized, has no query and
no marker in front, and its canonical form has one. The canonical form of a canonical form is
itself, and an id with any number of further markers and any query has the same canonical form.

**Proof sketch.** The number stands behind the last slash of an id, so it can be cut off again, and
what stands before it is the path without leading slashes. The canonical form cuts markers and
queries off and puts one marker in front, so markers and queries do not matter to it. -/
theorem ofFile_exact :
    (∀ (f g : String) (i j : ℕ), ofFile f i = ofFile g j ↔ i = j ∧
      Text.dropLeading '/' (FileId.normalize f) = Text.dropLeading '/' (FileId.normalize g)) ∧
    (∀ (file : String) (index : ℕ), recognizes (ofFile file index) = true ∧
      '?' ∉ (ofFile file index).toList ∧ (ofFile file index).toList.head? ≠ some idMarker ∧
      canonical? (ofFile file index) =
        some (String.singleton idMarker ++ ofFile file index)) ∧
    (∀ id marked : String, canonical? id = some marked → canonical? marked = some marked) ∧
    ∀ (markers : ℕ) (id query : String),
      canonical? (String.ofList (List.replicate markers idMarker) ++
        (id ++ (String.singleton '?' ++ query))) = canonical? id := by
  refine ⟨fun f g i j => ofFile_eq_iff, fun file index => ⟨recognizes_ofFile file index,
    question_not_mem_ofFile file index, ?_, canonical?_ofFile file index⟩,
    fun id marked => canonical?_canonical, fun markers id query => ?_⟩
  · rw [head?_ofFile]
    decide
  · rw [canonical?_markers, canonical?_query]

/-- Two markers and two queries in front of and behind an id: one marker is left. -/
theorem ofFile_exact_sample :
    canonical? "\x00\x00virtual:styled-static/a?/0.css?v=1?w" =
      some "\x00virtual:styled-static/a" ∧
    canonical? "\x00virtual:styled-static/a" = some "\x00virtual:styled-static/a" := by
  obtain ⟨-, -, hcanonical, -⟩ := ofFile_exact
  have hid : canonical? "\x00\x00virtual:styled-static/a?/0.css?v=1?w" =
      some "\x00virtual:styled-static/a" := by decide
  exact ⟨hid, hcanonical _ _ hid⟩

end VirtualId

end StyleExtract
