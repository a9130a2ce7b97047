import Mathlib.Tactic.Common
import StyleExtract.Proofs.Independence

/-!
# What a variant definition keeps of its object

A variant definition is read from an object whose properties may come in any order and any number of
times. This file says what the definition keeps of them: dimensions and values stand where they are
first declared, with what is declared last, everything that refers to them refers to a declared
pair, and the order of the properties of the object does not matter.

## Main definitions

* `OrderedMap.Keeps` — a map has the keys of a list at their first places, with their last values.
* `dimensionOf?`, `SourceFile.valueOf?` — the dimension or value that a property declares.
* `SourceFile.KeepsDimensions` — dimensions as they are declared by properties.
* `PropertyChange` — what one property changes in a definition.
* `definitionKeys` — the keys that a definition reads.

## Main results

* `SourceFile.ensures_dimensions` — the dimensions that are read are those that are declared.
* `PropertyChange.apply_comm` — changes under different keys can be made in any order.
* `SourceFile.returned_variantDefinition_perm` — the order of the properties does not matter.
* `SourceFile.variantDefinition_keeps` — what a definition keeps of its object.

## Design

Every property but the one that declares the dimensions sets one field of the definition and reads
nothing but its kind and dimensions, which no property changes. So reading the properties is a fold
over changes, of which those with different keys commute.
-/

namespace StyleExtract

open Script (Expr Property)

/-! ## Maps of repeated keys -/

/-- What a list has under a key at its last place. -/
def lastOf? {α : Type} (occurrences : List (String × α)) (key : String) : Option α :=
  (occurrences.reverse.find? (·.1 = key)).map Prod.snd

/-- One more occurrence is the last one of its key. -/
lemma lastOf?_append {α : Type} (occurrences : List (String × α)) (key key' : String) (a : α) :
    lastOf? (occurrences ++ [(key, a)]) key' =
      if key = key' then some a else lastOf? occurrences key' := by
  unfold lastOf?
  rw [List.reverse_append, List.reverse_singleton, List.singleton_append]
  by_cases h : key = key'
  · simp [h]
  · simp [h]

namespace OrderedMap

variable {kind : NameKind} {α ν : Type}

/-- **A map keeps a list of occurrences**: its keys stand in the order of their first occurrences,
and each has a value that belongs to its last one. -/
structure Keeps (m : OrderedMap (Name kind) ν) (occurrences : List (String × α))
    (R : α → ν → Prop) : Prop where
  /-- The keys are those of the occurrences, at their first places. -/
  keys : m.keys.map Name.text = (occurrences.map Prod.fst).eraseDups
  /-- The value of a key belongs to its last occurrence. -/
  last : ∀ p ∈ m.entries, ∃ a, lastOf? occurrences p.1.text = some a ∧ R a p.2

lemma keeps_empty (R : α → ν → Prop) : (empty : OrderedMap (Name kind) ν).Keeps [] R :=
  ⟨rfl, by simp [empty]⟩

/-- One more occurrence is kept by an insertion.

**Proof sketch.** A key that is there keeps its place and a new one goes behind all others, as it is
with repetitions left out. The last occurrence is the one just added if the key is the same, and the
one from before if it is another. -/
lemma Keeps.insert {m : OrderedMap (Name kind) ν} {occurrences : List (String × α)}
    {R : α → ν → Prop} (h : m.Keeps occurrences R) (k : Name kind) {a : α} {x : ν} (hx : R a x) :
    (m.insert k x).Keeps (occurrences ++ [(k.text, a)]) R where
  keys := by
    have hmem : k.text ∈ occurrences.map Prod.fst ↔ k ∈ m.keys := by
      rw [← List.mem_eraseDups, ← h.keys,
        List.mem_map_of_injective Name.text_injective]
    rw [List.map_append, List.eraseDups_append, ← h.keys]
    by_cases hk : k ∈ m.keys
    · rw [keys_insert_of_mem x hk]
      simp [List.removeAll, hmem.mpr hk]
    · rw [keys_insert_of_not_mem x hk]
      simp [List.removeAll, List.eraseDups_cons, mt hmem.mp hk]
  last := by
    rintro ⟨k', y⟩ hp
    rw [mem_entries_iff, get?_insert] at hp
    rw [lastOf?_append]
    split at hp
    · next hk =>
      cases hp
      exact ⟨a, if_pos (congrArg Name.text hk), hx⟩
    · next hk =>
      rw [if_neg fun htext => hk (Name.text_injective htext)]
      exact h.last (k', y) (mem_entries_iff.mpr hp)

end OrderedMap

/-! ## What an object declares -/

/-- The dimension that a property declares, if it is an object: its key and its properties. -/
def dimensionOf? (entry : String × Expr) : Option (String × List (String × Expr)) :=
  match entry.2.unwrap with
  | .object _ properties => some (entry.1, staticEntries properties)
  | _ => none

lemma dimensionOf?_of_object (key : String) {e : Expr} {s : Text.Span}
    {properties : List Property} (he : e.unwrap = .object s properties) :
    dimensionOf? (key, e) = some (key, staticEntries properties) := by
  simp [dimensionOf?, he]

lemma dimensionOf?_of_other (key : String) {e : Expr}
    (he : ∀ s properties, e.unwrap = .object s properties → False) :
    dimensionOf? (key, e) = none := by
  unfold dimensionOf?
  split
  · next s properties hobject => exact absurd hobject (he s properties)
  · rfl

/-- The properties that declare the dimensions of a definition: those of the first object for
them. -/
def declaringEntries (entries : List (String × Expr)) : List (String × Expr) :=
  match entries.find? (·.1 = "variants") with
  | some entry => ((dimensionOf? entry).map Prod.snd).getD []
  | none => []

namespace SourceFile

variable (f : SourceFile)

/-- The value that a property declares, if it has styles: its key and the styles. -/
def valueOf? (entry : String × Expr) : Option (String × String) :=
  match f.styles entry.2 with
  | .ok (some css) => some (entry.1, css)
  | _ => none

/-- **Values as they are declared by properties**: all keys are names of values, and the map keeps
the properties that have styles. -/
structure KeepsValues (entries : List (String × Expr)) (values : OrderedMap Value String) :
    Prop where
  /-- All keys are names of values. -/
  names : ∀ entry ∈ entries, NameKind.value.accepts entry.1 = true
  /-- The values stand at their first places, with their last styles. -/
  keeps : values.Keeps (entries.filterMap f.valueOf?) Eq

/-- **Dimensions as they are declared by properties**: all keys are names of dimensions, and the map
keeps the properties that are objects, with the values that these declare. -/
structure KeepsDimensions (entries : List (String × Expr))
    (values : OrderedMap Dimension (OrderedMap Value String)) : Prop where
  /-- All keys are names of dimensions. -/
  names : ∀ entry ∈ entries, NameKind.dimension.accepts entry.1 = true
  /-- The dimensions stand at their first places, with their last values. -/
  keeps : values.Keeps (entries.filterMap dimensionOf?) f.KeepsValues

end SourceFile

/-! ## Reading what is declared -/

/-- An invariant that grows with the members that have been read. -/
lemma Extract.ensures_foldlM_along {α β : Type} {P : List α → β → Prop} {step : β → α → Extract β}
    (hstep : ∀ done b a, P done b → Ensures (step b a) (P (done ++ [a]))) (l : List α) {b : β}
    (hb : P [] b) : Ensures (l.foldlM step b) (P l) := by
  have key : ∀ (rest done : List α) (b : β), P done b →
      Ensures (rest.foldlM step b) (P (done ++ rest)) := by
    intro rest
    induction rest with
    | nil =>
      intro done b hb
      exact ensures_pure (by simpa using hb)
    | cons a rest ih =>
      intro done b hb
      rw [List.foldlM_cons]
      refine ensures_bind _ (hstep done b a hb) fun b' hb' => ?_
      simpa using ih (done ++ [a]) b' hb'
  exact key l [] b hb

namespace SourceFile

open Extract

variable (f : SourceFile)

/-- A name that is accepted has the text. -/
lemma ensures_name (kind : NameKind) (s : String) :
    Ensures (f.name kind s) fun n => n.text = s := by
  unfold name
  split
  · next n hn => exact ensures_pure (Name.check_eq_ok_iff.mp hn).2
  · rintro log a log' ⟨⟩

/-- Styles that are read are the styles of the expression. -/
lemma ensures_styleText (e : Expr) : Ensures (f.styleText e) fun css => f.styles e = .ok css := by
  intro log css log' hrun
  rw [f.run_styleText e log] at hrun
  exact congrArg Prod.fst hrun

/-- All keys are names if the keys so far are and one more is. -/
lemma forall_accepts_append {kind : NameKind} {done : List (String × Expr)} {e : Expr}
    (h : ∀ entry ∈ done, kind.accepts entry.1 = true) (n : Name kind) :
    ∀ entry ∈ done ++ [(n.text, e)], kind.accepts entry.1 = true := by
  intro entry hentry
  rcases List.mem_append.mp hentry with hdone | hlast
  · exact h entry hdone
  · rw [List.mem_singleton.mp hlast]
    exact n.valid

/-- **The values that are read are those that are declared.**

**Proof sketch.** Along the properties, each one with styles adds its value to what is kept so far,
and each one without is left out of what is declared as well. -/
lemma ensures_valueStyles (entries : List (String × Expr)) :
    Ensures (f.valueStyles entries) (f.KeepsValues entries) := by
  refine ensures_foldlM_along (fun done styles entry h => ?_) entries
    ⟨by simp, OrderedMap.keeps_empty _⟩
  obtain ⟨key, e⟩ := entry
  refine ensures_bind _ (f.ensures_name .value key) fun value hvalue => ?_
  subst hvalue
  have hnames := forall_accepts_append (e := e) h.names value
  refine ensures_bind _ (f.ensures_styleText e) fun css hcss => ?_
  cases css with
  | none =>
    refine ensures_then fun _ => ensures_pure ⟨hnames, ?_⟩
    have hskipped : f.valueOf? (value.text, e) = none := by simp [valueOf?, hcss]
    simpa [List.filterMap_append, hskipped] using h.keeps
  | some css =>
    refine ensures_pure ⟨hnames, ?_⟩
    have hdeclared : f.valueOf? (value.text, e) = some (value.text, css) := by simp [valueOf?, hcss]
    simpa [List.filterMap_append, hdeclared] using h.keeps.insert value rfl

/-- **The dimensions that are read are those that are declared.**

**Proof sketch.** Along the properties, each object adds a dimension with the values that it
declares (`ensures_valueStyles`), and what is no object declares none. -/
lemma ensures_dimensions (entries : List (String × Expr)) :
    Ensures (f.dimensions entries) (f.KeepsDimensions entries) := by
  refine ensures_foldlM_along (fun done all entry h => ?_) entries
    ⟨by simp, OrderedMap.keeps_empty _⟩
  obtain ⟨key, e⟩ := entry
  refine ensures_bind _ (f.ensures_name .dimension key) fun dimension hdimension => ?_
  subst hdimension
  have hnames := forall_accepts_append (e := e) h.names dimension
  split
  · next s properties he =>
    refine ensures_bind _ (f.ensures_valueStyles (staticEntries properties))
      fun values hvalues => ?_
    refine ensures_pure ⟨hnames, ?_⟩
    have hdeclared := dimensionOf?_of_object dimension.text he
    simpa [List.filterMap_append, hdeclared] using h.keeps.insert dimension hvalues
  · next hother =>
    refine ensures_then fun _ => ensures_pure ⟨hnames, ?_⟩
    have hskipped := dimensionOf?_of_other dimension.text hother
    simpa [List.filterMap_append, hskipped] using h.keeps

/-- The dimensions of an expression are those that its properties declare, if it is an object. -/
lemma ensures_declaredValues (key : String) (e : Expr) : Ensures (f.declaredValues e)
    (f.KeepsDimensions (((dimensionOf? (key, e)).map Prod.snd).getD [])) := by
  unfold declaredValues
  split
  · next s properties he =>
    rw [dimensionOf?_of_object key he]
    exact f.ensures_dimensions _
  · next hother =>
    rw [dimensionOf?_of_other key hother]
    exact ensures_then fun _ => ensures_pure ⟨by simp, OrderedMap.keeps_empty _⟩

/-! ## Reading the rest -/

/-- A combination that is read has a condition. -/
lemma ensures_compound_nonempty (values : OrderedMap Dimension (OrderedMap Value String))
    (e : Expr) :
    Ensures (f.compound values e) fun r => ∀ c ∈ r, c.conditions.entries ≠ [] := by
  unfold compound
  split
  · refine ensures_then fun r => ?_
    split
    · exact ensures_pure (by simp)
    · next draft =>
      split
      · split
        · exact ensures_then fun _ => ensures_pure (by simp)
        · next hnonempty => exact ensures_pure (by simpa using hnonempty)
      · exact ensures_then fun _ => ensures_pure (by simp)
  · exact ensures_then fun _ => ensures_pure (by simp)

/-- All combinations that are read have a condition. -/
lemma ensures_compounds_nonempty (values : OrderedMap Dimension (OrderedMap Value String))
    (e : Expr) :
    Ensures (f.compounds values e) fun cs => ∀ c ∈ cs, c.conditions.entries ≠ [] := by
  unfold compounds
  split
  · refine ensures_bind _ (ensures_mapM_forall (fun a => f.ensures_compound_nonempty values _) _) ?_
    intro found hfound
    refine ensures_pure fun c hc => ?_
    obtain ⟨r, hr, hc⟩ := List.mem_filterMap.mp hc
    exact hfound r hr c hc
  · exact ensures_then fun _ => ensures_pure (by simp)

/-- What stays the same while the properties of a definition are read. -/
structure Reads (kind : VariantKind) (values : OrderedMap Dimension (OrderedMap Value String))
    (v : Variants) : Prop where
  /-- The kind is that of the call. -/
  kind_eq : v.kind = kind
  /-- The dimensions are those that were read first. -/
  values_eq : v.values = values
  /-- A function for classes renders nothing. -/
  target : kind = .className → v.target = none
  /-- Combinations have a condition. -/
  conditions : ∀ c ∈ v.compounds, c.conditions.entries ≠ []

/-- A property keeps all that.

**Proof sketch.** One case for each key. None of them touches the kind or the values, only a
component gets a target, and combinations are kept with a condition only. -/
lemma ensures_addProperty_reads {kind : VariantKind}
    {values : OrderedMap Dimension (OrderedMap Value String)} {v : Variants}
    (hv : Reads kind values v) (entry : String × Expr) :
    Ensures (f.addProperty v entry) (Reads kind values) := by
  obtain ⟨key, e⟩ := entry
  unfold addProperty
  dsimp only
  split
  · split
    · next hcomponent =>
      have htarget : kind ≠ .className := by
        rw [← hv.kind_eq, hcomponent]
        decide
      refine ensures_then fun target => ?_
      have hset : Reads kind values { v with target } :=
        ⟨hv.kind_eq, hv.values_eq, fun h => absurd h htarget, hv.conditions⟩
      split
      · exact ensures_then fun _ => ensures_pure hset
      · exact ensures_pure hset
    · exact ensures_pure hv
  · refine ensures_then fun css => ?_
    have hset : Reads kind values { v with baseCss := css } :=
      ⟨hv.kind_eq, hv.values_eq, hv.target, hv.conditions⟩
    split
    · exact ensures_then fun _ => ensures_pure hset
    · exact ensures_pure hset
  · exact ensures_then fun _ => ensures_pure ⟨hv.kind_eq, hv.values_eq, hv.target, hv.conditions⟩
  · refine ensures_bind _ (f.ensures_compounds_nonempty v.values e) fun cs hcs => ?_
    exact ensures_pure ⟨hv.kind_eq, hv.values_eq, hv.target, hcs⟩
  · exact ensures_pure hv

/-- **A definition keeps what its object declares**, and the rest of it stays as it should.

**Proof sketch.** The values are read from the first property with their key. All properties are
then added one after the other, which keeps the values as they are (`ensures_addProperty_reads`). -/
lemma ensures_variantDefinition_reads (kind : VariantKind) (properties : List Property) :
    Ensures (f.variantDefinition kind properties) fun v =>
      f.KeepsDimensions (declaringEntries (staticEntries properties)) v.values ∧
        Reads kind v.values v := by
  have hrest : ∀ values, f.KeepsDimensions (declaringEntries (staticEntries properties)) values →
      Ensures ((staticEntries properties).foldlM f.addProperty
        ⟨kind, none, none, values, .empty, []⟩) fun v =>
          f.KeepsDimensions (declaringEntries (staticEntries properties)) v.values ∧
            Reads kind v.values v := by
    intro values hvalues log v log' hrun
    have hreads := ensures_foldlM (fun v entry hv => f.ensures_addProperty_reads hv entry)
      (staticEntries properties) _ ⟨rfl, rfl, fun _ => rfl, by simp⟩ log v log' hrun
    rw [hreads.values_eq]
    exact ⟨hvalues, hreads⟩
  unfold variantDefinition
  dsimp only
  split
  · next key e hfind =>
    refine ensures_bind _ ?_ hrest
    simpa only [declaringEntries, hfind] using f.ensures_declaredValues key e
  · next hfind =>
    refine ensures_bind _ (ensures_pure ?_) hrest
    simp only [declaringEntries, hfind]
    exact ⟨by simp, OrderedMap.keeps_empty _⟩

end SourceFile

/-! ## The order of the properties -/

/-- What one property changes in a definition. -/
inductive PropertyChange where
  /-- What the component renders. -/
  | target (t : Option Target)
  /-- The styles of every selection. -/
  | baseCss (css : Option String)
  /-- The defaults. -/
  | defaults (m : OrderedMap Dimension Value)
  /-- The combinations. -/
  | compounds (cs : List Compound)
  /-- Nothing. -/
  | nothing

namespace PropertyChange

/-- Makes a change. -/
def apply : PropertyChange → Variants → Variants
  | target t, v => { v with target := t }
  | baseCss css, v => { v with baseCss := css }
  | defaults m, v => { v with defaults := m }
  | compounds cs, v => { v with compounds := cs }
  | nothing, v => v

/-- The key of the properties that make such a change. -/
def key? : PropertyChange → Option String
  | target _ => some "component"
  | baseCss _ => some "css"
  | defaults _ => some "defaultVariants"
  | compounds _ => some "compoundVariants"
  | nothing => none

/-- A change leaves the kind and the dimensions as they are. -/
lemma apply_keeps (a : PropertyChange) (v : Variants) :
    (a.apply v).kind = v.kind ∧ (a.apply v).values = v.values := by
  cases a <;> exact ⟨rfl, rfl⟩

/-- **Changes under different keys can be made in any order.** -/
lemma apply_comm {a b : PropertyChange} (h : ∀ k ∈ a.key?, k ∉ b.key?) (v : Variants) :
    a.apply (b.apply v) = b.apply (a.apply v) := by
  cases a <;> cases b
  case target.target | baseCss.baseCss | defaults.defaults | compounds.compounds =>
    exact absurd rfl (h _ rfl)
  all_goals rfl

end PropertyChange

namespace SourceFile

open Extract

variable (f : SourceFile)

/-- What a property changes in a definition of a kind with given dimensions, if it can be read. -/
def change? (kind : VariantKind) (values : OrderedMap Dimension (OrderedMap Value String))
    (entry : String × Expr) : Option PropertyChange :=
  match entry.1 with
  | "component" =>
    if kind = .component then (f.renderTarget entry.2).returned.map .target else some .nothing
  | "css" => (f.styleText entry.2).returned.map .baseCss
  | "defaultVariants" => (f.defaultValues values entry.2).returned.map .defaults
  | "compoundVariants" => (f.compounds values entry.2).returned.map .compounds
  | _ => some .nothing

/-- The key of a change is that of the property. -/
lemma key?_of_change? {kind : VariantKind}
    {values : OrderedMap Dimension (OrderedMap Value String)} {entry : String × Expr}
    {a : PropertyChange} (h : f.change? kind values entry = some a) :
    ∀ k ∈ a.key?, k = entry.1 := by
  unfold change? at h
  split at h
  · next hkey =>
    split at h
    · obtain ⟨_, -, rfl⟩ := Option.map_eq_some_iff.mp h
      simp [PropertyChange.key?, hkey]
    · cases h
      simp [PropertyChange.key?]
  · next hkey =>
    obtain ⟨_, -, rfl⟩ := Option.map_eq_some_iff.mp h
    simp [PropertyChange.key?, hkey]
  · next hkey =>
    obtain ⟨_, -, rfl⟩ := Option.map_eq_some_iff.mp h
    simp [PropertyChange.key?, hkey]
  · next hkey =>
    obtain ⟨_, -, rfl⟩ := Option.map_eq_some_iff.mp h
    simp [PropertyChange.key?, hkey]
  · cases h
    simp [PropertyChange.key?]

/-- **Adding a property makes its change.**

**Proof sketch.** One case for each key. What is only reported does not change what is returned, so
each case reads one thing and sets it. -/
lemma returned_addProperty (v : Variants) (entry : String × Expr) :
    (f.addProperty v entry).returned = (f.change? v.kind v.values entry).map (·.apply v) := by
  have hskip : ∀ {α : Type} (what : String) (s : Text.Span) (a : α) (b : Bool),
      returned (if b = true then do f.skip what s; return a else return a) = some a := by
    intro α what s a b
    cases b <;> rfl
  have hsteady : ∀ {α : Type} (what : String) (s : Text.Span) (a : α) (b : Bool),
      Agree (if b = true then do f.skip what s; return a else return a)
        (if b = true then do f.skip what s; return a else return a) := fun _ _ _ _ =>
    agree_ite (agree_report_then (agree_pure _)) (agree_pure _)
  obtain ⟨key, e⟩ := entry
  unfold addProperty change?
  dsimp only
  split
  · split
    · rw [returned_bind _ fun _ => hsteady _ _ _ _]
      simp only [hskip]
      cases (f.renderTarget e).returned <;> rfl
    · rfl
  · rw [returned_bind _ fun _ => hsteady _ _ _ _]
    simp only [hskip]
    cases (f.styleText e).returned <;> rfl
  · rw [returned_bind _ fun _ => agree_pure _]
    cases (f.defaultValues v.values e).returned <;> rfl
  · rw [returned_bind _ fun _ => agree_pure _]
    cases (f.compounds v.values e).returned <;> rfl
  · simp [PropertyChange.apply]

/-- A step of reading the properties. -/
def addChange (v? : Option Variants) (entry : String × Expr) : Option Variants :=
  v?.bind fun v => (f.change? v.kind v.values entry).map (·.apply v)

/-- Reading properties makes their changes, one after the other. -/
lemma returned_foldlM_addProperty (entries : List (String × Expr)) (v : Variants) :
    (entries.foldlM f.addProperty v).returned = entries.foldl f.addChange (some v) := by
  have hsteady : ∀ v entry, Agree (f.addProperty v entry) (f.addProperty v entry) :=
    f.agree_addProperty f.id f.skipLevel
  have hnone : ∀ entries : List (String × Expr), entries.foldl f.addChange none = none := by
    intro entries
    induction entries with
    | nil => rfl
    | cons entry entries ih => exact ih
  induction entries generalizing v with
  | nil => rfl
  | cons entry entries ih =>
    rw [List.foldlM_cons, returned_bind _ fun v => agree_foldlM hsteady entries v,
      returned_addProperty, List.foldl_cons, addChange, Option.bind_some]
    cases f.change? v.kind v.values entry with
    | none => exact (hnone entries).symm
    | some a => exact ih (a.apply v)

/-- **Properties with different keys can be read in any order.**

**Proof sketch.** A change leaves the kind and the values as they are, so the other change is the
same before and after it. Changes for different keys set different parts of the definition. -/
lemma addChange_comm {x y : String × Expr} (h : x.1 ≠ y.1) (v? : Option Variants) :
    f.addChange (f.addChange v? x) y = f.addChange (f.addChange v? y) x := by
  cases v? with
  | none => rfl
  | some v =>
    have hkept : ∀ (a : PropertyChange) (entry : String × Expr),
        f.change? (a.apply v).kind (a.apply v).values entry = f.change? v.kind v.values entry := by
      intro a entry
      rw [(a.apply_keeps v).1, (a.apply_keeps v).2]
    simp only [addChange, Option.bind_some]
    cases hx : f.change? v.kind v.values x with
    | none => cases f.change? v.kind v.values y <;> simp [hkept, hx]
    | some a =>
      cases hy : f.change? v.kind v.values y with
      | none => simp [hkept, hy]
      | some b =>
        have hkeys : ∀ k ∈ b.key?, k ∉ a.key? := fun k hb ha =>
          h ((f.key?_of_change? hx k ha).symm.trans (f.key?_of_change? hy k hb))
        simp [hkept, hx, hy, PropertyChange.apply_comm hkeys v]

end SourceFile

/-- The keys that a definition reads. -/
def definitionKeys : List String :=
  ["variants", "defaultVariants", "compoundVariants", "css", "component"]

/-- A list in which at most one member has a property is the same as another order of it, as far
as this property goes. -/
lemma filter_eq_of_perm {α : Type} {p : α → Bool} {l l' : List α} (hperm : l.Perm l')
    (hcount : l.countP p ≤ 1) : l.filter p = l'.filter p := by
  have hfilter := hperm.filter p
  rw [List.countP_eq_length_filter] at hcount
  rcases hl : l.filter p with _ | ⟨x, _ | ⟨y, rest⟩⟩
  · rw [hl] at hfilter
    exact hfilter.nil_eq
  · rw [hl] at hfilter
    exact List.singleton_perm.mp hfilter
  · rw [hl] at hcount
    simp at hcount

/-- Two members with a property that at most one has are the same. -/
lemma eq_of_countP_le_one {α : Type} {p : α → Bool} {l : List α} {x y : α}
    (hcount : l.countP p ≤ 1) (hx : x ∈ l) (hy : y ∈ l) (hpx : p x = true) (hpy : p y = true) :
    x = y := by
  rw [List.countP_eq_length_filter] at hcount
  have hx' := List.mem_filter.mpr ⟨hx, hpx⟩
  have hy' := List.mem_filter.mpr ⟨hy, hpy⟩
  rcases hl : l.filter p with _ | ⟨z, _ | ⟨w, rest⟩⟩
  · rw [hl] at hx'
    cases hx'
  · rw [hl, List.mem_singleton] at hx' hy'
    rw [hx', hy']
  · rw [hl] at hcount
    simp at hcount

namespace SourceFile

open Extract

variable (f : SourceFile)

/-- Properties that a definition does not read change nothing. -/
lemma addChange_of_notMem {entry : String × Expr} (h : entry.1 ∉ definitionKeys)
    (v? : Option Variants) : f.addChange v? entry = v? := by
  have hnothing : ∀ kind values, f.change? kind values entry = some .nothing := by
    intro kind values
    unfold change?
    split
    · next hkey => exact absurd (by simp [hkey, definitionKeys]) h
    · next hkey => exact absurd (by simp [hkey, definitionKeys]) h
    · next hkey => exact absurd (by simp [hkey, definitionKeys]) h
    · next hkey => exact absurd (by simp [hkey, definitionKeys]) h
    · rfl
  cases v? with
  | none => rfl
  | some v => simp [addChange, hnothing, PropertyChange.apply]

/-- **The order of the properties does not matter**, as long as no key of a definition is given
twice.

**Proof sketch.** Without repeated keys the property with the values is found wherever it stands.
Adding a property makes a change of its own part of the definition, so changes for different keys
can be swapped, and a permutation is made of such swaps. -/
lemma returned_variantDefinition_perm (kind : VariantKind) {properties properties' : List Property}
    (hperm : properties.Perm properties')
    (honce : ∀ key ∈ definitionKeys, (staticEntries properties).countP (·.1 = key) ≤ 1) :
    (f.variantDefinition kind properties).returned =
      (f.variantDefinition kind properties').returned := by
  have hentries : (staticEntries properties).Perm (staticEntries properties') := hperm.filterMap _
  have hfind : (staticEntries properties).find? (·.1 = "variants") =
      (staticEntries properties').find? (·.1 = "variants") := by
    rw [← List.head?_filter, ← List.head?_filter,
      filter_eq_of_perm hentries (honce "variants" (by simp [definitionKeys]))]
  have hfold : ∀ v, ((staticEntries properties).foldlM f.addProperty v).returned =
      ((staticEntries properties').foldlM f.addProperty v).returned := by
    intro v
    rw [returned_foldlM_addProperty, returned_foldlM_addProperty]
    refine hentries.foldl_eq' (fun x hx y hy v? => ?_) _
    by_cases hkey : x.1 = y.1
    · by_cases hmem : x.1 ∈ definitionKeys
      · rw [eq_of_countP_le_one (honce x.1 hmem) hx hy (by simp) (by simp [hkey])]
      · rw [f.addChange_of_notMem hmem, f.addChange_of_notMem hmem]
    · exact f.addChange_comm hkey v?
  have hsteady : ∀ (entries : List (String × Expr)) v,
      Agree (entries.foldlM f.addProperty v) (entries.foldlM f.addProperty v) := fun entries v =>
    agree_foldlM (f.agree_addProperty f.id f.skipLevel) entries v
  have hread : ∀ (m : Extract (OrderedMap Dimension (OrderedMap Value String))),
      returned (m >>= fun values => (staticEntries properties).foldlM f.addProperty
        ⟨kind, none, none, values, .empty, []⟩) =
      returned (m >>= fun values => (staticEntries properties').foldlM f.addProperty
        ⟨kind, none, none, values, .empty, []⟩) := by
    intro m
    rw [returned_bind m fun _ => hsteady _ _, returned_bind m fun _ => hsteady _ _]
    simp only [hfold]
  unfold variantDefinition
  dsimp only
  rw [← hfind]
  split
  · exact hread _
  · exact hread _

/-- **What a definition keeps of its object.** Its defaults and the conditions of its combinations
are declared pairs, and every combination has a condition. Only components render something. All
names obey the rules of their kinds. The dimensions stand where they are first declared, with the
values that are declared last, and so do the values with their styles. The order of the properties
of the object does not matter, as long as none of the keys of a definition is given twice.

**Proof sketch.** What holds of the parts of a definition is kept by each step of reading it
(`ensures_variantDefinition`, `ensures_variantDefinition_reads`). Names carry the proof that they
obey their rules. That the order does not matter is `returned_variantDefinition_perm`, since what is
returned depends on no earlier report. -/
theorem variantDefinition_keeps {kind : VariantKind} {properties : List Property}
    {log log' : List LogEntry} {v : Variants}
    (h : (f.variantDefinition kind properties).run.run log = (.ok v, log')) :
    v.Sound ∧ (∀ c ∈ v.compounds, c.conditions.entries ≠ []) ∧
    v.kind = kind ∧ (kind = .className → v.target = none) ∧
    (∀ p ∈ v.values.entries, NameKind.dimension.accepts p.1.text = true ∧
      ∀ q ∈ p.2.entries, NameKind.value.accepts q.1.text = true) ∧
    f.KeepsDimensions (declaringEntries (staticEntries properties)) v.values ∧
    ∀ properties', properties.Perm properties' →
      (∀ key ∈ definitionKeys, (staticEntries properties).countP (·.1 = key) ≤ 1) →
      ∀ before, ∃ behind,
        (f.variantDefinition kind properties').run.run before = (.ok v, behind) := by
  have hsteady : ∀ properties, Agree (f.variantDefinition kind properties)
      (f.variantDefinition kind properties) := f.agree_variantDefinition f.id f.skipLevel kind
  obtain ⟨hdimensions, hreads⟩ := f.ensures_variantDefinition_reads kind properties log v log' h
  refine ⟨f.ensures_variantDefinition kind properties log v log' h, hreads.conditions,
    hreads.kind_eq, hreads.target, fun p _ => ⟨p.1.valid, fun q _ => q.1.valid⟩, hdimensions, ?_⟩
  intro properties' hperm honce before
  rw [← returned_eq_some_iff (hsteady properties') before,
    ← f.returned_variantDefinition_perm kind hperm honce,
    returned_eq_some_iff (hsteady properties) log]
  exact ⟨log', h⟩

/-! ## Repeated dimensions and values -/

/-- A file whose text is five quoted letters. -/
def lettersFile : SourceFile := ⟨"f.js", "'a''b''c''d''e'".toList, .empty, .debug⟩

/-- One of the letters as an expression. -/
def letter (index : ℕ) : Expr := .text ⟨3 * index, 3 * index + 3⟩ ""

/-- The properties of an object that gives a default, and declares a dimension and one of its values
twice. -/
def repeatedProperties : List Property :=
  [.keyValue (.name "defaultVariants") (.object ⟨0, 0⟩ [.keyValue (.name "g") (.text ⟨0, 0⟩ "j")]),
    .keyValue (.name "variants") (.object ⟨0, 0⟩
      [.keyValue (.name "g") (.object ⟨0, 0⟩ [.keyValue (.name "k") (letter 0)]),
        .keyValue (.name "h") (.object ⟨0, 0⟩ [.keyValue (.name "n") (letter 1)]),
        .keyValue (.name "g") (.object ⟨0, 0⟩ [.keyValue (.name "j") (letter 2),
          .keyValue (.name "k") (letter 3), .keyValue (.name "j") (letter 4)])])]

/-- The definition that is read from them. -/
def repeatedDefinition : Variants where
  kind := .className
  target := none
  baseCss := none
  values := .ofList [(⟨"g", by decide⟩, .ofList [(⟨"j", by decide⟩, "e"), (⟨"k", by decide⟩, "d")]),
    (⟨"h", by decide⟩, .ofList [(⟨"n", by decide⟩, "b")])]
  defaults := .ofList [(⟨"g", by decide⟩, ⟨"j", by decide⟩)]
  compounds := []

/-- The dimension stands at its first place with the values of the last one, in which the value
stands at its first place with the last styles. The other order of the properties gives the same. -/
theorem variantDefinition_keeps_sample :
    (lettersFile.variantDefinition .className repeatedProperties).run.run [] =
      (.ok repeatedDefinition, []) ∧
    lettersFile.KeepsDimensions (declaringEntries (staticEntries repeatedProperties))
      repeatedDefinition.values ∧
    ∃ log, (lettersFile.variantDefinition .className repeatedProperties.reverse).run.run [] =
      (.ok repeatedDefinition, log) := by
  have hrun : (lettersFile.variantDefinition .className repeatedProperties).run.run [] =
      (.ok repeatedDefinition, []) := by
    change (_ : Except Failure Variants × List LogEntry) = _
    decide +kernel
  obtain ⟨-, -, -, -, -, hkeeps, hperm⟩ := lettersFile.variantDefinition_keeps hrun
  exact ⟨hrun, hkeeps, hperm _ (List.reverse_perm _).symm (by decide +kernel) []⟩

end SourceFile

end StyleExtract
