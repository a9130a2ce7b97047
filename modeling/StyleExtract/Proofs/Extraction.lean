import Mathlib.Data.List.Forall2
import Mathlib.Tactic.Common
import StyleExtract.Extraction

/-!
# What extraction guarantees

A variant definition that is read from an object refers only to what it declares: its defaults and
the conditions of its combinations are pairs of a dimension and one of the values of that
dimension.

## Main definitions

* `Extract.Ensures` — whatever a computation returns has a property.
* `Variants.Declares` — a pair of a dimension and one of its values.
* `Variants.Sound` — a definition that refers only to what it declares.

## Main results

* `Variants.declares_of_declared?` — a search among the declared pairs gives a declared pair.
* `SourceFile.ensures_variantDefinition` — definitions that are read are sound.

## Design

Reading may fail and writes a log, neither of which matters here. `Extract.Ensures` leaves them out
and has one rule for each way in which computations are put together, so that the lemma about a
reading step follows its text.
-/

namespace StyleExtract

/-! ## Properties of what is returned -/

namespace Extract

variable {α β : Type}

/-- Whatever a computation returns has a property. -/
def Ensures (m : Extract α) (P : α → Prop) : Prop :=
  ∀ log a log', m.run.run log = (.ok a, log') → P a

/-- Returning something with the property. -/
lemma ensures_pure {P : α → Prop} {a : α} (h : P a) : Ensures (pure a) P := by
  rintro log b log' hrun
  cases hrun
  exact h

/-- Nothing is required of what is returned. -/
lemma ensures_trivial (m : Extract α) : Ensures m fun _ => True := fun _ _ _ _ => trivial

/-- One computation after the other. -/
lemma ensures_bind {P : β → Prop} (Q : α → Prop) {m : Extract α} {k : α → Extract β}
    (hm : Ensures m Q) (hk : ∀ a, Q a → Ensures (k a) P) : Ensures (m >>= k) P := by
  intro log b log' hrun
  rcases hm' : m.run.run log with ⟨r, mid⟩
  have hbind : (m >>= k).run.run log =
      match r with
      | .ok a => (k a).run.run mid
      | .error e => (.error e, mid) := by
    simp only [ExceptT.run_bind, StateT.run_bind, hm']
    cases r <;> rfl
  rw [hbind] at hrun
  cases r with
  | error e => cases hrun
  | ok a => exact hk a (hm log a mid hm') mid b log' hrun

/-- One computation after another of which nothing is required. -/
lemma ensures_then {P : β → Prop} {m : Extract α} {k : α → Extract β}
    (hk : ∀ a, Ensures (k a) P) : Ensures (m >>= k) P :=
  ensures_bind _ (ensures_trivial m) fun a _ => hk a

/-- A property that every step keeps holds at the end. -/
lemma ensures_foldlM {P : β → Prop} {step : β → α → Extract β}
    (hstep : ∀ b a, P b → Ensures (step b a) P) :
    ∀ (l : List α) (b : β), P b → Ensures (l.foldlM step b) P := by
  intro l
  induction l with
  | nil => intro b hb; exact ensures_pure hb
  | cons a l ih =>
    intro b hb
    rw [List.foldlM_cons]
    exact ensures_bind P (hstep b a hb) ih

/-- What holds between each argument and its result holds between all of them. -/
lemma ensures_mapM {R : α → β → Prop} {step : α → Extract β}
    (hstep : ∀ a, Ensures (step a) (R a)) :
    ∀ l : List α, Ensures (l.mapM step) (List.Forall₂ R l) := by
  intro l
  induction l with
  | nil =>
    rw [List.mapM_nil]
    exact ensures_pure .nil
  | cons a l ih =>
    rw [List.mapM_cons]
    exact ensures_bind _ (hstep a) fun b hb => ensures_bind _ ih fun bs hbs =>
      ensures_pure (.cons hb hbs)

/-- A property of each result is one of all results. -/
lemma ensures_mapM_forall {P : β → Prop} {step : α → Extract β} (hstep : ∀ a, Ensures (step a) P)
    (l : List α) : Ensures (l.mapM step) fun bs => ∀ b ∈ bs, P b := by
  intro log bs log' hrun
  have hall := ensures_mapM (R := fun _ => P) hstep l log bs log' hrun
  clear hrun
  induction hall with
  | nil => simp
  | cons hb _ ih => exact List.forall_mem_cons.mpr ⟨hb, ih⟩

end Extract

/-! ## Declared pairs -/

/-- After an insertion there is the new entry, and otherwise only what was there. -/
lemma OrderedMap.mem_insert {κ ν : Type} [DecidableEq κ] {m : OrderedMap κ ν} {k : κ} {x : ν}
    {e : κ × ν} (h : e ∈ (m.insert k x).entries) : e = (k, x) ∨ e ∈ m.entries := by
  have key : ∀ l : List (κ × ν), e ∈ insertEntry k x l → e = (k, x) ∨ e ∈ l := by
    intro l
    induction l with
    | nil => simp [insertEntry]
    | cons a l ih =>
      unfold insertEntry
      split
      · next hk =>
        rintro (_ | ⟨_, h⟩)
        · exact .inl (by rw [hk])
        · exact .inr (List.mem_cons_of_mem _ h)
      · rintro (_ | ⟨_, h⟩)
        · exact .inr List.mem_cons_self
        · exact (ih h).imp_right (List.mem_cons_of_mem _)
  exact key m.entries h

namespace Variants

/-- A pair of a dimension and one of its values. -/
def Declares (values : OrderedMap Dimension (OrderedMap Value String)) (p : Dimension × Value) :
    Prop :=
  ∃ vs, (p.1, vs) ∈ values.entries ∧ p.2 ∈ vs.keys

/-- The pairs of a definition are the declared ones. -/
lemma mem_pairs {v : Variants} {p : Dimension × Value} : p ∈ v.pairs ↔ Declares v.values p := by
  obtain ⟨d, x⟩ := p
  rw [pairs, List.mem_flatMap]
  constructor
  · rintro ⟨⟨d', vs⟩, he, hx⟩
    obtain ⟨y, hy, heq⟩ := List.mem_map.mp hx
    obtain ⟨rfl, rfl⟩ := Prod.mk.inj heq
    exact ⟨vs, he, hy⟩
  · rintro ⟨vs, he, hx⟩
    exact ⟨(d, vs), he, List.mem_map_of_mem hx⟩

/-- A search among the declared pairs gives a declared pair. -/
lemma declares_of_declared? {values : OrderedMap Dimension (OrderedMap Value String)}
    {d x : String} {p : Dimension × Value} (h : declared? values d x = some p) :
    Declares values p := by
  unfold declared? at h
  obtain ⟨⟨dimension, vs⟩, hd, h⟩ := Option.bind_eq_some_iff.mp h
  obtain ⟨⟨value, css⟩, hx, h⟩ := Option.bind_eq_some_iff.mp h
  cases h
  exact ⟨vs, List.mem_of_find?_eq_some hd, List.mem_map_of_mem (List.mem_of_find?_eq_some hx)⟩

/-- A definition that refers only to what it declares. -/
structure Sound (v : Variants) : Prop where
  /-- A default is a declared pair. -/
  defaults : ∀ p ∈ v.defaults.entries, Declares v.values p
  /-- The conditions of a combination are declared pairs. -/
  conditions : ∀ c ∈ v.compounds, ∀ p ∈ c.conditions.entries, Declares v.values p

end Variants

/-! ## Reading definitions -/

namespace SourceFile

open Extract Variants

variable (f : SourceFile) (values : OrderedMap Dimension (OrderedMap Value String))

/-- The defaults that are read are declared pairs. -/
lemma ensures_defaultValues (e : Script.Expr) :
    Ensures (f.defaultValues values e) fun m => ∀ p ∈ m.entries, Declares values p := by
  unfold defaultValues
  split
  · refine ensures_foldlM (fun m entry hm => ?_) _ _ (by simp [OrderedMap.empty])
    obtain ⟨key, e⟩ := entry
    dsimp only
    split
    · exact ensures_then fun _ => ensures_pure hm
    · split
      · next d x hdx =>
        refine ensures_pure fun p hp => ?_
        rcases OrderedMap.mem_insert hp with rfl | hp
        · exact declares_of_declared? hdx
        · exact hm p hp
      · exact ensures_then fun _ => ensures_pure hm
  · exact ensures_then fun _ => ensures_pure (by simp [OrderedMap.empty])

/-- The conditions that are read are declared pairs.

**Proof sketch.** Induction on the properties of the combination: a property adds a pair that was
found among the declared ones, sets the styles, or ends the reading. -/
lemma ensures_compoundParts : ∀ (entries : List (String × Script.Expr)) (draft : CompoundDraft),
    (∀ p ∈ draft.conditions.entries, Declares values p) →
    Ensures (f.compoundParts values draft entries) fun r =>
      ∀ d ∈ r, ∀ p ∈ d.conditions.entries, Declares values p := by
  intro entries
  induction entries with
  | nil =>
    intro draft hd
    exact ensures_pure (by simpa using hd)
  | cons entry rest ih =>
    intro draft hd
    obtain ⟨key, e⟩ := entry
    rw [compoundParts]
    split
    · exact ensures_then fun css => ih _ hd
    · split
      · exact ensures_then fun _ => ensures_pure (by simp)
      · split
        · next d x hdx =>
          refine ih _ fun p hp => ?_
          rcases OrderedMap.mem_insert hp with rfl | hp
          · exact declares_of_declared? hdx
          · exact hd p hp
        · exact ensures_then fun _ => ensures_pure (by simp)

/-- The conditions of a combination that is read are declared pairs. -/
lemma ensures_compound (e : Script.Expr) :
    Ensures (f.compound values e) fun r =>
      ∀ c ∈ r, ∀ p ∈ c.conditions.entries, Declares values p := by
  unfold compound
  split
  · refine ensures_bind _ (f.ensures_compoundParts values _ {} (by simp [OrderedMap.empty])) ?_
    intro r hr
    split
    · exact ensures_pure (by simp)
    · split
      · split
        · exact ensures_then fun _ => ensures_pure (by simp)
        · exact ensures_pure (by simpa using hr)
      · exact ensures_then fun _ => ensures_pure (by simp)
  · exact ensures_then fun _ => ensures_pure (by simp)

/-- The conditions of all combinations that are read are declared pairs. -/
lemma ensures_compounds (e : Script.Expr) :
    Ensures (f.compounds values e) fun cs =>
      ∀ c ∈ cs, ∀ p ∈ c.conditions.entries, Declares values p := by
  unfold compounds
  split
  · refine ensures_bind _ (ensures_mapM_forall (fun a => f.ensures_compound values _) _) ?_
    intro found hfound
    refine ensures_pure fun c hc => ?_
    obtain ⟨r, hr, hc⟩ := List.mem_filterMap.mp hc
    exact hfound r hr c hc
  · exact ensures_then fun _ => ensures_pure (by simp)

/-- A property keeps a definition sound: the dimensions stay as they are. -/
lemma ensures_addProperty {v : Variants} (hv : v.Sound) (entry : String × Script.Expr) :
    Ensures (f.addProperty v entry) Sound := by
  obtain ⟨key, e⟩ := entry
  unfold addProperty
  dsimp only
  split
  · split
    · refine ensures_then fun target => ?_
      split
      · exact ensures_then fun _ => ensures_pure ⟨hv.defaults, hv.conditions⟩
      · exact ensures_pure ⟨hv.defaults, hv.conditions⟩
    · exact ensures_pure hv
  · refine ensures_then fun css => ?_
    split
    · exact ensures_then fun _ => ensures_pure ⟨hv.defaults, hv.conditions⟩
    · exact ensures_pure ⟨hv.defaults, hv.conditions⟩
  · exact ensures_bind _ (f.ensures_defaultValues v.values e) fun m hm =>
      ensures_pure ⟨hm, hv.conditions⟩
  · exact ensures_bind _ (f.ensures_compounds v.values e) fun cs hcs =>
      ensures_pure ⟨hv.defaults, hcs⟩
  · exact ensures_pure hv

/-- **Definitions that are read are sound.** -/
theorem ensures_variantDefinition (kind : VariantKind) (properties : List Script.Property) :
    Ensures (f.variantDefinition kind properties) Sound := by
  have hread : ∀ values, Ensures ((staticEntries properties).foldlM f.addProperty
      ⟨kind, none, none, values, .empty, []⟩) Sound := fun values =>
    ensures_foldlM (fun v entry hv => f.ensures_addProperty hv entry) _ _
      ⟨by simp [OrderedMap.empty], by simp⟩
  unfold variantDefinition
  dsimp only
  split
  · exact ensures_then hread
  · exact ensures_then hread

end SourceFile

end StyleExtract
