import Mathlib.Data.List.Basic
import Mathlib.Tactic.Common
import StyleExtract.Proofs.VariantClasses

/-!
# Content keys determine styles

In production the class of a variant definition is a digest of its content key. The key is a plain
concatenation: it says neither how many dimensions there are nor where they end and combinations
begin. This file shows that it can be read back all the same, so that definitions with the same key
have the same styles.

## Main definitions

* `Variants.dimensionFields`, `Variants.compoundFields` — the fields of a dimension and of a
  combination.
* `Variants.segments` — the fields of everything behind the base styles.
* `Variants.Separated` — the styles are free of separators, and every combination has a condition.

## Main results

* `Variants.toList_contentKey` — a key is its segments, joined by one separator, with the fields of
  each joined by another.
* `Variants.contentKey_eq_iff` — equal keys come from equal styles.

## Design

Taking the key apart at its separators gives back the lists of fields. The first field of a
dimension is a name, and the first field of a combination is a condition with an equals sign, which
no name has. So the fields of the two kinds are told apart by their first field.
-/

namespace StyleExtract

/-! ## Fields -/

namespace Variants

/-- A text without the two separators of content keys. -/
def IsPlain (s : List Char) : Prop := '\x00' ∉ s ∧ '\x01' ∉ s

instance (s : List Char) : Decidable (IsPlain s) := inferInstanceAs (Decidable (_ ∧ _))

/-- The fields of a dimension: its name, and for each value its name and its styles. -/
def dimensionFields (e : Dimension × OrderedMap Value String) : List (List Char) :=
  e.1.text.toList :: e.2.entries.flatMap fun x => [x.1.text.toList, x.2.toList]

/-- The field of a condition. -/
def conditionField (p : Dimension × Value) : List Char :=
  p.1.text.toList ++ '=' :: p.2.text.toList

/-- The fields of a combination: its conditions and its styles. -/
def compoundFields (c : Compound) : List (List Char) :=
  c.conditions.entries.map conditionField ++ [c.css.toList]

/-- The fields of everything behind the base styles. -/
def segments (v : Variants) : List (List (List Char)) :=
  v.values.entries.map dimensionFields ++ v.compounds.map compoundFields

/-- **A content key in terms of its fields**: the base styles and the segments are joined by one
separator, and the fields of each segment by another.

**Proof sketch.** The key is written segment by segment, with a separator in front of each, or
behind each where the last field is added separately. Written with separators between the fields,
both are the same. -/
theorem toList_contentKey (v : Variants) :
    v.contentKey.toList = ['\x00'].intercalate
      ((v.baseCss.getD "").toList :: v.segments.map (['\x01'].intercalate ·)) := by
  have hdimension : ∀ e : Dimension × OrderedMap Value String,
      ['\x01'].intercalate (dimensionFields e) = e.1.text.toList ++
        e.2.entries.flatMap fun x => '\x01' :: (x.1.text.toList ++ '\x01' :: x.2.toList) := by
    intro e
    rw [dimensionFields, Text.intercalate_cons, List.flatMap_assoc]
    simp
  have hcompound : ∀ c : Compound, ['\x01'].intercalate (compoundFields c) =
      (c.conditions.entries.flatMap fun p => conditionField p ++ ['\x01']) ++ c.css.toList := by
    intro c
    rw [compoundFields, Text.intercalate_concat, List.flatMap_map]
  rw [Text.intercalate_cons, segments, List.map_append, List.map_map, List.map_map, contentKey]
  simp [Text.toList_concat, List.flatMap_map, Function.comp_def, hdimension, hcompound,
    conditionField]

/-! ## Reading fields back -/

/-- The fields of a dimension tell its name and its values with their styles.

**Proof sketch.** The first field is the name. Behind it values and styles take turns, so two fields
at a time give back one pair. -/
lemma dimensionFields_injective : Function.Injective dimensionFields := by
  have hvalues : Function.Injective fun es : List (Value × String) =>
      es.flatMap fun x => [x.1.text.toList, x.2.toList] := by
    intro es
    induction es with
    | nil =>
      intro fs h
      cases fs with
      | nil => rfl
      | cons f fs => simp at h
    | cons e es ih =>
      intro fs h
      cases fs with
      | nil => simp at h
      | cons f fs =>
        simp only [List.flatMap_cons, List.cons_append, List.nil_append, List.cons.injEq,
          String.toList_inj] at h
        rw [ih h.2.2, Prod.ext (Name.text_injective h.1) h.2.1]
  intro d e h
  obtain ⟨hname, hentries⟩ := List.cons_eq_cons.mp h
  exact Prod.ext (Name.text_injective (String.toList_injective hname))
    (OrderedMap.ext_entries (hvalues hentries))

/-- The characters of names are no separators and no equals signs. -/
lemma plain_dimension (d : Dimension) : IsPlain d.text.toList ∧ '=' ∉ d.text.toList :=
  ⟨⟨notMem_of_forall d.dimension_chars (by decide),
    notMem_of_forall d.dimension_chars (by decide)⟩,
    notMem_of_forall d.dimension_chars (by decide)⟩

lemma plain_value (x : Value) : IsPlain x.text.toList :=
  ⟨notMem_of_forall x.value_chars (by decide), notMem_of_forall x.value_chars (by decide)⟩

/-- The field of a condition tells its dimension and its value. -/
lemma conditionField_injective : Function.Injective conditionField := by
  intro p q h
  obtain ⟨hd, hx⟩ := (Text.append_inj_of_notMem (plain_dimension p.1).2 (plain_dimension q.1).2
    (by simp) (by simp)).mp h
  exact Prod.ext (Name.text_injective (String.toList_injective hd))
    (Name.text_injective (String.toList_injective (List.cons_eq_cons.mp hx).2))

/-- The fields of a combination tell its conditions and its styles. -/
lemma compoundFields_injective : Function.Injective compoundFields := by
  rintro ⟨p, s⟩ ⟨q, t⟩ h
  obtain ⟨hconditions, hcss⟩ := List.append_inj' h rfl
  obtain rfl : p = q :=
    OrderedMap.ext_entries (List.map_injective_iff.mpr conditionField_injective hconditions)
  obtain rfl : s = t := String.toList_injective (List.cons_eq_cons.mp hcss).1
  rfl

/-- Whether the first of some fields is a condition. -/
def startsWithCondition (fields : List (List Char)) : Bool := (fields.headD []).contains '='

lemma startsWithCondition_dimensionFields (e : Dimension × OrderedMap Value String) :
    startsWithCondition (dimensionFields e) = false := by
  simpa [startsWithCondition, dimensionFields] using (plain_dimension e.1).2

lemma startsWithCondition_compoundFields {c : Compound} (h : c.conditions.entries ≠ []) :
    startsWithCondition (compoundFields c) = true := by
  obtain ⟨p, ps, hps⟩ := List.exists_cons_of_ne_nil h
  simp [startsWithCondition, compoundFields, hps, conditionField]

/-! ## Keys -/

/-- **The styles of a definition are free of separators, and every combination has a condition.** -/
structure Separated (v : Variants) : Prop where
  /-- The base styles. -/
  base : IsPlain (v.baseCss.getD "").toList
  /-- The styles of values. -/
  values : ∀ e ∈ v.values.entries, ∀ x ∈ e.2.entries, IsPlain x.2.toList
  /-- The styles of combinations. -/
  compounds : ∀ c ∈ v.compounds, IsPlain c.css.toList
  /-- The conditions of combinations. -/
  conditions : ∀ c ∈ v.compounds, c.conditions.entries ≠ []

namespace Separated

variable {v : Variants}

/-- No field has a separator in it.

**Proof sketch.** Names have no control characters, and styles have no separators by assumption. The
fields of a segment are names, styles, or two names with a sign between them. -/
lemma plain_field (h : v.Separated) {fields : List (List Char)} (hf : fields ∈ v.segments)
    {a : List Char} (ha : a ∈ fields) : IsPlain a := by
  rcases List.mem_append.mp hf with hf | hf
  · obtain ⟨e, he, rfl⟩ := List.mem_map.mp hf
    rcases List.mem_cons.mp ha with rfl | ha
    · exact (plain_dimension e.1).1
    · obtain ⟨x, hx, ha⟩ := List.mem_flatMap.mp ha
      simp only [List.mem_cons, List.not_mem_nil, or_false] at ha
      rcases ha with rfl | rfl
      · exact plain_value x.1
      · exact h.values e he x hx
  · obtain ⟨c, hc, rfl⟩ := List.mem_map.mp hf
    rcases List.mem_append.mp ha with ha | ha
    · obtain ⟨p, -, rfl⟩ := List.mem_map.mp ha
      obtain ⟨⟨hd, hd'⟩, -⟩ := plain_dimension p.1
      obtain ⟨hx, hx'⟩ := plain_value p.2
      constructor <;> simp [conditionField, hd, hd', hx, hx']
    · rw [List.mem_singleton.mp ha]
      exact h.compounds c hc

/-- Every segment has a field. -/
lemma segment_ne_nil {fields : List (List Char)} (hf : fields ∈ v.segments) : fields ≠ [] := by
  rcases List.mem_append.mp hf with hf | hf
  · obtain ⟨e, -, rfl⟩ := List.mem_map.mp hf
    simp [dimensionFields]
  · obtain ⟨c, -, rfl⟩ := List.mem_map.mp hf
    simp [compoundFields]

/-- The parts of a key are free of the separator between them. -/
lemma nul_notMem (h : v.Separated) : ∀ a ∈
    (v.baseCss.getD "").toList :: v.segments.map (['\x01'].intercalate ·), '\x00' ∉ a := by
  intro a ha
  rcases List.mem_cons.mp ha with rfl | ha
  · exact h.base.1
  · obtain ⟨fields, hf, rfl⟩ := List.mem_map.mp ha
    intro hnul
    rcases Text.mem_of_mem_intercalate hnul with hnul | ⟨a, ha, hnul⟩
    · exact absurd hnul (by decide)
    · exact (h.plain_field hf ha).1 hnul

/-- A key tells the base styles and the segments. -/
lemma parts_eq {w : Variants} (hv : v.Separated) (hw : w.Separated)
    (h : v.contentKey = w.contentKey) :
    v.baseCss.getD "" = w.baseCss.getD "" ∧ v.segments = w.segments := by
  have hkeys := congrArg String.toList h
  rw [toList_contentKey, toList_contentKey] at hkeys
  have hparts := Text.intercalate_inj (by simp) (by simp) hv.nul_notMem hw.nul_notMem hkeys
  obtain ⟨hbase, hsegments⟩ := List.cons_eq_cons.mp hparts
  refine ⟨String.toList_injective hbase, ?_⟩
  have hread : ∀ u : Variants, u.Separated →
      (u.segments.map (['\x01'].intercalate ·)).map (Text.piecesList '\x01') = u.segments := by
    intro u hu
    rw [List.map_map]
    refine (List.map_congr_left fun fields hf => ?_).trans (List.map_id _)
    exact Text.piecesList_intercalate (segment_ne_nil hf) fun a ha => (hu.plain_field hf ha).2
  rw [← hread v hv, hsegments, hread w hw]

/-- The segments that start with a condition are those of combinations. -/
lemma filter_segments (h : v.Separated) :
    v.segments.filter startsWithCondition = v.compounds.map compoundFields := by
  rw [segments, List.filter_append, List.filter_eq_nil_iff.mpr, List.nil_append,
    List.filter_eq_self.mpr]
  · intro fields hf
    obtain ⟨c, hc, rfl⟩ := List.mem_map.mp hf
    exact startsWithCondition_compoundFields (h.conditions c hc)
  · intro fields hf
    obtain ⟨e, -, rfl⟩ := List.mem_map.mp hf
    simp [startsWithCondition_dimensionFields]

end Separated

/-- **Equal content keys come from equal styles.** For definitions whose styles are free of
separators and whose combinations have conditions, the keys are equal exactly if the base styles are
(where missing ones count as empty), the dimensions with their values and styles in order, and the
combinations with their conditions and styles in order. So if both or none have base styles, equal
keys give equal rules under every base class.

**Proof sketch.** The key is taken apart at its separators. The segments of combinations are those
that start with a condition; what is left are the dimensions. -/
theorem contentKey_eq_iff {v w : Variants} (hv : v.Separated) (hw : w.Separated) :
    (v.contentKey = w.contentKey ↔
      v.baseCss.getD "" = w.baseCss.getD "" ∧ v.values = w.values ∧ v.compounds = w.compounds) ∧
    (v.contentKey = w.contentKey → v.baseCss.isSome = w.baseCss.isSome →
      ∀ base, v.css base = w.css base) := by
  have hread : v.contentKey = w.contentKey →
      v.baseCss.getD "" = w.baseCss.getD "" ∧ v.values = w.values ∧
        v.compounds = w.compounds := by
    intro h
    obtain ⟨hbase, hsegments⟩ := hv.parts_eq hw h
    have hcompounds : v.compounds.map compoundFields = w.compounds.map compoundFields := by
      rw [← hv.filter_segments, hsegments, hw.filter_segments]
    rw [segments, segments, hcompounds, List.append_cancel_right_eq] at hsegments
    exact ⟨hbase,
      OrderedMap.ext_entries (List.map_injective_iff.mpr dimensionFields_injective hsegments),
      List.map_injective_iff.mpr compoundFields_injective hcompounds⟩
  refine ⟨⟨hread, ?_⟩, ?_⟩
  · rintro ⟨hbase, hvalues, hcompounds⟩
    rw [contentKey, contentKey, hbase, hvalues, hcompounds]
  · intro h hsome base
    obtain ⟨hbase, hvalues, hcompounds⟩ := hread h
    have hcss : v.baseCss = w.baseCss := by
      cases hb : v.baseCss <;> cases hc : w.baseCss <;> simp_all
    rw [css, css, rules, rules, hcss, hvalues, hcompounds]

/-- A definition of four values with a combination, made into a component without defaults: the key
and the rules stay the same, but not without the combination. -/
theorem contentKey_eq_sample :
    let v := Generator.sampleUse.variants
    let w : Variants := { v with kind := .component, defaults := .empty }
    let u : Variants := { v with compounds := [] }
    v.Separated ∧ w.Separated ∧ u.Separated ∧ v.contentKey = w.contentKey ∧
      (∀ base, v.css base = w.css base) ∧ u.contentKey ≠ v.contentKey := by
  intro v w u
  have hv : v.Separated := ⟨by decide, by decide, by decide, by decide⟩
  have hw : w.Separated := ⟨by decide, by decide, by decide, by decide⟩
  have hu : u.Separated := ⟨by decide, by decide, by decide, by decide⟩
  have hkey : v.contentKey = w.contentKey := (contentKey_eq_iff hv hw).1.mpr ⟨rfl, rfl, rfl⟩
  refine ⟨hv, hw, hu, hkey, (contentKey_eq_iff hv hw).2 hkey rfl, fun h => ?_⟩
  exact absurd ((contentKey_eq_iff hu hv).1.mp h).2.2 (by decide)

end Variants

end StyleExtract
