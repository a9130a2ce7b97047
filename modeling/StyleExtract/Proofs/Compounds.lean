import Mathlib.Data.List.Forall2
import Mathlib.Data.List.Induction
import Mathlib.Data.List.ReduceOption
import Mathlib.Tactic.Common
import StyleExtract.Proofs.Extraction
import StyleExtract.Proofs.Resolver.Agreement
import StyleExtract.Proofs.Transform.Exits

/-!
# Which combinations are read, and what they leave out

A combination is written as an object: the property `css` holds its styles, and every other property
is a condition. An object is read as a combination only if all its conditions count, but properties
whose keys are not fixed (names that are key and value at once, spread objects, computed keys,
methods) are dropped before anything is asked about them. This file says which objects are read,
with which conditions, and when these conditions stand for all properties of the object.

## Main definitions

* `Extract.outcome`, `Extract.Silent` — what a computation returns, and computations that report
  nothing.
* `condition?` — the condition that a property with a fixed key states.
* `SourceFile.Combines` — the combination that an object stands for.
* `Compound.Covers` — every property of an object is its styles or one of the conditions.

## Main results

* `SourceFile.outcome_compound_iff` — an object is read as the combination that it stands for.
* `Compound.covers_iff` — a combination covers its object exactly if all keys are fixed and no
  condition overrides another.
* `SourceFile.compounds_cover_iff` — both for all objects of an array.
* `SourceFile.shorthand_condition_lost` — a name that is key and value is lost.
-/

namespace StyleExtract

open Script (Argument Expr Property)

/-! ## Outcomes -/

namespace Extract

variable {α β : Type}

/-- What a computation returns, or why it fails, after some reports. -/
def outcome (m : Extract α) (log : List LogEntry) : Except Failure α := (m.run.run log).1

@[simp] lemma outcome_pure (a : α) (log : List LogEntry) :
    outcome (pure a) log = .ok a := rfl

@[simp] lemma outcome_report (level : Level) (notice : Notice) (k : Unit → Extract α)
    (log : List LogEntry) :
    outcome (report level notice >>= k) log = outcome (k ()) (log ++ [⟨level, notice⟩]) := rfl

/-- One computation after the other. -/
lemma outcome_bind (m : Extract α) (k : α → Extract β) (log : List LogEntry) :
    outcome (m >>= k) log =
      match m.run.run log with
      | (.ok a, mid) => outcome (k a) mid
      | (.error e, _) => .error e := by
  rcases hm : m.run.run log with ⟨r, mid⟩
  simp only [outcome, ExceptT.run_bind, StateT.run_bind, hm]
  cases r <;> rfl

/-- A computation that reports nothing and does not depend on earlier reports. -/
def Silent (m : Extract α) : Prop := ∀ log, m.run.run log = (m.outcome [], log)

lemma silent_pure (a : α) : Silent (pure a) := fun _ => rfl

lemma silent_throw (e : Failure) : Silent (throw e : Extract α) := fun _ => rfl

lemma silent_map {m : Extract α} (hm : Silent m) (g : α → β) :
    Silent (do return g (← m)) := by
  intro log
  have hrun : ∀ log, (do return g (← m) : Extract β).run.run log =
      ((m.run.run log).1.map g, (m.run.run log).2) := by
    intro log
    simp only [ExceptT.run_bind, StateT.run_bind]
    rcases m.run.run log with ⟨_ | _, mid⟩ <;> rfl
  rw [outcome, hrun, hrun, hm log, hm []]

end Extract

/-! ## Maps of lists -/

namespace OrderedMap

variable {κ ν : Type} [DecidableEq κ]

/-- Of the values that a list gives a key, the last one counts. -/
lemma get?_ofList (l : List (κ × ν)) (k : κ) :
    (ofList l).get? k = (l.reverse.find? (·.1 = k)).map Prod.snd := by
  induction l using List.reverseRec with
  | nil => rfl
  | append_singleton l p ih =>
    have hinsert : ofList (l ++ [p]) = (ofList l).insert p.1 p.2 := by
      simp [ofList]
    rw [hinsert, get?_insert, ih, List.reverse_append, List.reverse_singleton,
      List.singleton_append]
    by_cases hk : p.1 = k
    · simp [hk]
    · simp [hk]

/-- The map of a list is empty only if the list is. -/
lemma entries_ofList_ne_nil {l : List (κ × ν)} (h : l ≠ []) : (ofList l).entries ≠ [] := by
  obtain ⟨p, hp⟩ := List.exists_mem_of_ne_nil l h
  intro hnil
  have hnone : (ofList l).get? p.1 = none := by
    rw [get?, hnil]
    rfl
  rw [get?_ofList, Option.map_eq_none_iff, List.find?_eq_none] at hnone
  exact hnone p (List.mem_reverse.mpr hp) (by simp)

/-- **All pairs of a list are entries of its map** exactly if no key is given two values.

**Proof sketch.** An entry of the map is the last pair with its key. So if all pairs are entries,
two pairs with one key are the same entry, and if no key is given two values, the last pair with a
key is as good as any. -/
lemma subset_ofList_iff {l : List (κ × ν)} :
    (∀ p ∈ l, p ∈ (ofList l).entries) ↔ ∀ p ∈ l, ∀ q ∈ l, p.1 = q.1 → p.2 = q.2 := by
  constructor
  · intro h p hp q hq hkey
    have hp' := mem_entries_iff.mp (h p hp)
    have hq' := mem_entries_iff.mp (h q hq)
    rw [hkey, hq'] at hp'
    exact (Option.some.inj hp').symm
  · intro h p hp
    refine mem_entries_iff.mpr ?_
    rw [get?_ofList]
    cases hfind : l.reverse.find? (·.1 = p.1) with
    | none =>
      rw [List.find?_eq_none] at hfind
      exact absurd (by simp) (hfind p (List.mem_reverse.mpr hp))
    | some q =>
      have hq : q ∈ l := List.mem_reverse.mp (List.mem_of_find?_eq_some hfind)
      have hkey : q.1 = p.1 := by simpa using List.find?_some hfind
      rw [Option.map_some, h q hq p hp hkey]

end OrderedMap

/-! ## What an object stands for -/

/-- The condition that a property with a fixed key states: its value is a literal, and key and
literal name a declared pair. -/
def condition? (values : OrderedMap Dimension (OrderedMap Value String)) (entry : String × Expr) :
    Option (Dimension × Value) :=
  (literalText? entry.2).bind (Variants.declared? values entry.1)

/-- The properties with a key other than `css` state conditions, in this order. -/
def StateConditions (values : OrderedMap Dimension (OrderedMap Value String))
    (entries : List (String × Expr)) (pairs : List (Dimension × Value)) : Prop :=
  (entries.filter (·.1 ≠ "css")).map (condition? values) = pairs.map some

namespace SourceFile

/-- The styles of an expression, or why they cannot be read. -/
def styles (f : SourceFile) (e : Expr) : Except Failure (Option String) :=
  (f.styleText e).outcome []

/-- The properties with the key `css` can be read, and give these styles, in this order. -/
def GivesStyles (f : SourceFile) (entries : List (String × Expr)) (texts : List (Option String)) :
    Prop :=
  (entries.filter (·.1 = "css")).map (fun entry => f.styles entry.2) = texts.map .ok

/-- **The combination that an object stands for.** Every property with a fixed key other than `css`
states a condition, and there is one. Of a repeated condition the last value counts, and of repeated
styles the last ones. -/
structure Combines (f : SourceFile) (values : OrderedMap Dimension (OrderedMap Value String))
    (properties : List Property) (c : Compound) : Prop where
  /-- The conditions. -/
  conditions : ∃ pairs, StateConditions values (staticEntries properties) pairs ∧ pairs ≠ [] ∧
    c.conditions = .ofList pairs
  /-- The styles. -/
  styles : ∃ texts, f.GivesStyles (staticEntries properties) texts ∧
    texts.getLast? = some (some c.css)

end SourceFile

section Entries

variable {values : OrderedMap Dimension (OrderedMap Value String)} {f : SourceFile} {key : String}
  {e : Expr} {rest : List (String × Expr)}

/-- Styles are no condition. -/
lemma stateConditions_css {pairs : List (Dimension × Value)} :
    StateConditions values (("css", e) :: rest) pairs ↔ StateConditions values rest pairs := by
  simp [StateConditions]

/-- Any other property has to state a condition. -/
lemma stateConditions_cons (hkey : key ≠ "css") {pairs : List (Dimension × Value)} :
    StateConditions values ((key, e) :: rest) pairs ↔
      ∃ p ps, condition? values (key, e) = some p ∧ StateConditions values rest ps ∧
        pairs = p :: ps := by
  unfold StateConditions
  rw [List.filter_cons_of_pos (by simpa using hkey), List.map_cons]
  cases pairs with
  | nil => simp
  | cons p ps => simp

/-- Styles are read one after the other. -/
lemma givesStyles_css {texts : List (Option String)} :
    f.GivesStyles (("css", e) :: rest) texts ↔
      ∃ t ts, f.styles e = .ok t ∧ f.GivesStyles rest ts ∧ texts = t :: ts := by
  unfold SourceFile.GivesStyles
  rw [List.filter_cons_of_pos (by simp), List.map_cons]
  cases texts with
  | nil => simp
  | cons t ts => simp

/-- A condition gives no styles. -/
lemma givesStyles_cons (hkey : key ≠ "css") {texts : List (Option String)} :
    f.GivesStyles ((key, e) :: rest) texts ↔ f.GivesStyles rest texts := by
  simp [SourceFile.GivesStyles, hkey]

end Entries

/-! ## Reading an object -/

namespace SourceFile

open Extract

variable (f : SourceFile) (values : OrderedMap Dimension (OrderedMap Value String))

/-- Cutting out a text reports nothing. -/
lemma silent_inner (s : Text.Span) : Silent (f.inner s) := by
  unfold inner
  split
  · exact silent_pure _
  · unfold slice
    split
    · exact silent_pure _
    · exact silent_throw _

/-- The styles of a template are read without reports. -/
lemma silent_templateText (s : Text.Span) (holes : List Expr) :
    Silent (f.templateText s holes) := by
  unfold templateText
  split
  · exact silent_map (f.silent_inner s) some
  · exact silent_pure _

/-- Styles are read without reports. -/
lemma silent_styleText (e : Expr) : Silent (f.styleText e) := by
  unfold styleText
  split
  · exact silent_map (f.silent_inner _) some
  · exact f.silent_templateText _ _
  · split
    · exact f.silent_templateText _ _
    · exact silent_pure _
  · exact silent_pure _

/-- What reading styles does after some reports. -/
lemma run_styleText (e : Expr) (log : List LogEntry) :
    (f.styleText e).run.run log = (f.styles e, log) := f.silent_styleText e log

/-- **The parts that are read** are all conditions, of which each has to count, and the last
styles.

**Proof sketch.** Induction on the properties: one with the key `css` sets the styles, one that
states a condition adds it, and any other ends the reading with nothing. -/
lemma outcome_compoundParts_iff :
    ∀ (entries : List (String × Expr)) (draft d : CompoundDraft) (log : List LogEntry),
      (f.compoundParts values draft entries).outcome log = .ok (some d) ↔
        ∃ pairs texts, StateConditions values entries pairs ∧ f.GivesStyles entries texts ∧
          d.conditions = pairs.foldl (fun m (k, v) => m.insert k v) draft.conditions ∧
          d.css = texts.getLastD draft.css := by
  intro entries
  induction entries with
  | nil =>
    rintro ⟨conditions, css⟩ ⟨conditions', css'⟩ log
    have hread : (f.compoundParts values ⟨conditions, css⟩ []).outcome log =
        .ok (some ⟨conditions, css⟩) := rfl
    rw [hread]
    constructor
    · intro h
      cases h
      exact ⟨[], [], rfl, rfl, rfl, rfl⟩
    · rintro ⟨pairs, texts, hpairs, htexts, rfl, rfl⟩
      obtain rfl : pairs = [] := by simpa [StateConditions] using hpairs
      obtain rfl : texts = [] := by simpa [GivesStyles] using htexts
      rfl
  | cons entry rest ih =>
    intro draft d log
    obtain ⟨key, e⟩ := entry
    rw [compoundParts]
    by_cases hkey : key = "css"
    · subst hkey
      rw [if_pos rfl, outcome_bind, f.run_styleText e log]
      cases hstyles : f.styles e with
      | error failure => simp [givesStyles_css, hstyles]
      | ok css =>
        simp only [ih, stateConditions_css, givesStyles_css, hstyles, Except.ok.injEq]
        constructor
        · rintro ⟨pairs, texts, hpairs, htexts, hconditions, hcss⟩
          exact ⟨pairs, css :: texts, hpairs, ⟨css, texts, rfl, htexts, rfl⟩, hconditions,
            by rw [List.getLastD_cons, hcss]⟩
        · rintro ⟨pairs, _, hpairs, ⟨_, texts, rfl, htexts, rfl⟩, hconditions, hcss⟩
          rw [List.getLastD_cons] at hcss
          exact ⟨pairs, texts, hpairs, htexts, hconditions, hcss⟩
    · rw [if_neg hkey]
      simp only [stateConditions_cons hkey, givesStyles_cons hkey, condition?]
      cases hliteral : literalText? e with
      | none => simp only [skip, outcome_report, outcome_pure]; simp
      | some text =>
        simp only [Option.bind_some]
        cases hpair : Variants.declared? values key text with
        | none => simp only [outcome_report, outcome_pure]; simp
        | some pair =>
          obtain ⟨dimension, value⟩ := pair
          simp only [ih]
          constructor
          · rintro ⟨pairs, texts, hpairs, htexts, hconditions, hcss⟩
            exact ⟨(dimension, value) :: pairs, texts, ⟨_, pairs, rfl, hpairs, rfl⟩, htexts,
              hconditions, hcss⟩
          · rintro ⟨_, texts, ⟨_, pairs, hp, hpairs, rfl⟩, htexts, hconditions, hcss⟩
            obtain rfl := Option.some.inj hp
            exact ⟨pairs, texts, hpairs, htexts, hconditions, hcss⟩

/-- A draft with styles and a condition is a combination.

**Proof sketch.** The object is read into a draft first. What is left to decide is whether the draft
has styles and a condition, so the proof goes through the results of the first step. -/
lemma outcome_compound_iff_draft {e : Expr} {s : Text.Span} {properties : List Property}
    (he : e.unwrap = .object s properties) (c : Compound) (log : List LogEntry) :
    (f.compound values e).outcome log = .ok (some c) ↔
      (f.compoundParts values {} (staticEntries properties)).outcome log =
          .ok (some ⟨c.conditions, some c.css⟩) ∧ c.conditions.entries ≠ [] := by
  rcases hrun : (f.compoundParts values {} (staticEntries properties)).run.run log with ⟨r, mid⟩
  have hparts : (f.compoundParts values {} (staticEntries properties)).outcome log = r := by
    rw [outcome, hrun]
  unfold compound
  rw [he, hparts]
  dsimp only
  rw [outcome_bind, hrun]
  rcases r with failure | _ | ⟨conditions, _ | css⟩
  · simp
  · simp
  · simp only [skip, outcome_report, outcome_pure]
    simp
  · by_cases hempty : conditions.entries = []
    · simp only [hempty, List.isEmpty_nil, if_true, skip, outcome_report, outcome_pure]
      constructor
      · intro h
        cases h
      · rintro ⟨h, hne⟩
        cases h
        exact absurd hempty hne
    · simp only [List.isEmpty_iff, hempty, if_false]
      constructor
      · intro h
        cases h
        exact ⟨rfl, hempty⟩
      · rintro ⟨h, -⟩
        cases h
        rfl

/-- **An object is read as the combination that it stands for**, and as none if it stands for
none.

**Proof sketch.** What is read is a draft with styles and a condition
(`outcome_compound_iff_draft`). The conditions of the draft are the map of the pairs that the object
states, and its styles are the last that the object gives. -/
theorem outcome_compound_iff {e : Expr} {s : Text.Span} {properties : List Property}
    (he : e.unwrap = .object s properties) (c : Compound) (log : List LogEntry) :
    (f.compound values e).outcome log = .ok (some c) ↔ f.Combines values properties c := by
  rw [f.outcome_compound_iff_draft values he, outcome_compoundParts_iff]
  have hlast : ∀ texts : List (Option String),
      some c.css = texts.getLastD none ↔ texts.getLast? = some (some c.css) := by
    intro texts
    rw [List.getLastD_eq_getLast?]
    rcases texts.getLast? with _ | _ | css <;> simp [eq_comm]
  constructor
  · rintro ⟨⟨pairs, texts, hpairs, htexts, hconditions, hcss⟩, hne⟩
    refine ⟨⟨pairs, hpairs, ?_, hconditions⟩, ⟨texts, htexts, (hlast texts).mp hcss⟩⟩
    rintro rfl
    dsimp only at hconditions
    exact hne (by rw [hconditions]; rfl)
  · rintro ⟨⟨pairs, hpairs, hne, hconditions⟩, ⟨texts, htexts, hcss⟩⟩
    refine ⟨⟨pairs, texts, hpairs, htexts, hconditions, (hlast texts).mpr hcss⟩, ?_⟩
    rw [hconditions]
    exact OrderedMap.entries_ofList_ne_nil hne

end SourceFile

/-! ## What a combination covers -/

/-- **Every property of an object is accounted for**: it has a fixed key, and is the styles or
states one of the conditions. -/
def Compound.Covers (values : OrderedMap Dimension (OrderedMap Value String)) (c : Compound)
    (properties : List Property) : Prop :=
  ∀ p ∈ properties, ∃ entry, p.static? = some entry ∧
    (entry.1 = "css" ∨ ∃ pair ∈ c.conditions.entries, condition? values entry = some pair)

/-- No condition overrides another one with a different literal. -/
def ConditionsAgree (entries : List (String × Expr)) : Prop :=
  ∀ a ∈ entries, ∀ b ∈ entries, a.1 ≠ "css" → a.1 = b.1 → literalText? a.2 = literalText? b.2

/-- A declared pair is found by its two texts. -/
lemma Variants.texts_of_declared? {values : OrderedMap Dimension (OrderedMap Value String)}
    {d x : String} {p : Dimension × Value} (h : declared? values d x = some p) :
    p.1.text = d ∧ p.2.text = x := by
  unfold declared? at h
  obtain ⟨⟨dimension, vs⟩, hd, h⟩ := Option.bind_eq_some_iff.mp h
  obtain ⟨⟨value, css⟩, hx, h⟩ := Option.bind_eq_some_iff.mp h
  cases h
  exact ⟨by simpa using List.find?_some hd, by simpa using List.find?_some hx⟩

section Covers

variable {values : OrderedMap Dimension (OrderedMap Value String)}

/-- A condition names its property: the dimension is the key and the value is the literal. -/
lemma texts_of_condition? {entry : String × Expr} {p : Dimension × Value}
    (h : condition? values entry = some p) :
    p.1.text = entry.1 ∧ literalText? entry.2 = some p.2.text := by
  obtain ⟨text, htext, hpair⟩ := Option.bind_eq_some_iff.mp h
  obtain ⟨hd, hx⟩ := Variants.texts_of_declared? hpair
  exact ⟨hd, by rw [htext, hx]⟩

/-- Properties with a key other than `css` state the conditions, and only these. -/
lemma StateConditions.mem_iff {entries : List (String × Expr)} {pairs : List (Dimension × Value)}
    (h : StateConditions values entries pairs) (p : Dimension × Value) :
    p ∈ pairs ↔ ∃ entry ∈ entries, entry.1 ≠ "css" ∧ condition? values entry = some p := by
  have hmem : some p ∈ pairs.map some ↔ p ∈ pairs := by simp
  rw [← hmem, ← h]
  simp [and_assoc]

/-- Every property with a key other than `css` states one of the conditions. -/
lemma StateConditions.exists_condition {entries : List (String × Expr)}
    {pairs : List (Dimension × Value)} (h : StateConditions values entries pairs)
    {entry : String × Expr} (hentry : entry ∈ entries) (hkey : entry.1 ≠ "css") :
    ∃ p ∈ pairs, condition? values entry = some p := by
  have hmem : condition? values entry ∈ pairs.map some := by
    rw [← h]
    exact List.mem_map_of_mem (List.mem_filter.mpr ⟨hentry, by simpa using hkey⟩)
  obtain ⟨p, hp, heq⟩ := List.mem_map.mp hmem
  exact ⟨p, hp, heq.symm⟩

/-- Conditions agree exactly if no dimension is given two values.

**Proof sketch.** Every key but that of the styles states one pair, with the key as its dimension
and the text as its value, and every pair is stated by such a key. So the two sides say the same of
keys and of pairs. -/
lemma StateConditions.agree_iff {entries : List (String × Expr)}
    {pairs : List (Dimension × Value)} (h : StateConditions values entries pairs) :
    ConditionsAgree entries ↔ ∀ p ∈ pairs, ∀ q ∈ pairs, p.1 = q.1 → p.2 = q.2 := by
  constructor
  · intro hagree p hp q hq hdim
    obtain ⟨a, ha, hkey, hpa⟩ := (h.mem_iff p).mp hp
    obtain ⟨b, hb, -, hqb⟩ := (h.mem_iff q).mp hq
    obtain ⟨hpd, hpx⟩ := texts_of_condition? hpa
    obtain ⟨hqd, hqx⟩ := texts_of_condition? hqb
    have hsame := hagree a ha b hb hkey (by rw [← hpd, ← hqd, hdim])
    rw [hpx, hqx] at hsame
    exact Name.text_injective (Option.some.inj hsame)
  · intro hpairs a ha b hb hkey hab
    obtain ⟨p, hp, hpa⟩ := h.exists_condition ha hkey
    obtain ⟨q, hq, hqb⟩ := h.exists_condition hb (hab ▸ hkey)
    obtain ⟨hpd, hpx⟩ := texts_of_condition? hpa
    obtain ⟨hqd, hqx⟩ := texts_of_condition? hqb
    have hdim : p.1 = q.1 := Name.text_injective (by rw [hpd, hqd, hab])
    rw [hpx, hqx, hpairs p hp q hq hdim]

/-- **A combination covers its object** exactly if every key of the object is fixed and no condition
overrides another.

**Proof sketch.** The conditions of a combination are made from the pairs of the fixed keys, in
which a later pair overrides an earlier one with the same dimension. So a key is covered if it is
fixed and its pair has survived, and all pairs survive exactly if no two of them disagree. -/
theorem Compound.covers_iff {f : SourceFile} {properties : List Property} {c : Compound}
    (h : f.Combines values properties c) :
    c.Covers values properties ↔
      (∀ p ∈ properties, p.static?.isSome) ∧ ConditionsAgree (staticEntries properties) := by
  obtain ⟨pairs, hpairs, -, hconditions⟩ := h.conditions
  rw [hpairs.agree_iff, ← OrderedMap.subset_ofList_iff, ← hconditions]
  constructor
  · intro hcovers
    refine ⟨fun p hp => ?_, fun pair hpair => ?_⟩
    · obtain ⟨entry, hentry, -⟩ := hcovers p hp
      simp [hentry]
    · obtain ⟨entry, hentry, hkey, hpair'⟩ := (hpairs.mem_iff pair).mp hpair
      obtain ⟨p, hp, hstatic⟩ := List.mem_filterMap.mp hentry
      obtain ⟨entry', hentry', hcss | ⟨q, hq, hq'⟩⟩ := hcovers p hp
      · rw [hstatic] at hentry'
        cases hentry'
        exact absurd hcss hkey
      · rw [hstatic] at hentry'
        cases hentry'
        rw [hpair'] at hq'
        cases hq'
        exact hq
  · rintro ⟨hfixed, hsubset⟩ p hp
    obtain ⟨entry, hentry⟩ := Option.isSome_iff_exists.mp (hfixed p hp)
    refine ⟨entry, hentry, ?_⟩
    by_cases hkey : entry.1 = "css"
    · exact .inl hkey
    · have hmem : entry ∈ staticEntries properties := List.mem_filterMap.mpr ⟨p, hp, hentry⟩
      obtain ⟨pair, hpair, hcond⟩ := hpairs.exists_condition hmem hkey
      exact .inr ⟨pair, hsubset pair hpair, hcond⟩

end Covers

namespace SourceFile

open Extract

/-- What is no object is no combination. -/
lemma outcome_compound_of_not_object (f : SourceFile)
    (values : OrderedMap Dimension (OrderedMap Value String)) {e : Expr}
    (he : ∀ s properties, e.unwrap ≠ .object s properties) (log : List LogEntry) :
    (f.compound values e).outcome log = .ok none := by
  unfold compound
  split
  · next s properties hobject => exact absurd hobject (he s properties)
  · rfl

/-- What becomes of an element of an array: if it is an object that stands for a combination, then
this combination, and else nothing. -/
def ReadsAs (f : SourceFile) (values : OrderedMap Dimension (OrderedMap Value String)) (e : Expr)
    (r : Option Compound) : Prop :=
  ∀ c, r = some c ↔
    ∃ s properties, e.unwrap = .object s properties ∧ f.Combines values properties c

/-- Elements of arrays become what their objects stand for. -/
lemma ensures_readsAs (f : SourceFile) (values : OrderedMap Dimension (OrderedMap Value String))
    (e : Expr) : Ensures (f.compound values e) (f.ReadsAs values e) := by
  intro log r log' hrun c
  have hout : (f.compound values e).outcome log = .ok r := by rw [outcome, hrun]
  by_cases hobject : ∃ s properties, e.unwrap = .object s properties
  · obtain ⟨s, properties, he⟩ := hobject
    rw [← Except.ok.injEq, ← hout, f.outcome_compound_iff values he c log]
    constructor
    · intro hc
      exact ⟨s, properties, he, hc⟩
    · rintro ⟨s', properties', he', hc⟩
      rw [he] at he'
      cases he'
      exact hc
  · have hnone := f.outcome_compound_of_not_object values (fun s properties he =>
      hobject ⟨s, properties, he⟩) log
    rw [hout, Except.ok.injEq] at hnone
    subst hnone
    simp only [reduceCtorEq, false_iff]
    rintro ⟨s, properties, he, -⟩
    exact hobject ⟨s, properties, he⟩

/-- **Which conditions are lost.** The objects of an array that stand for a combination are read as
this combination, and nothing else is read. What is read covers its object exactly if every key of
the object is fixed and no condition overrides another.

**Proof sketch.** Each element of the array is read by itself (`ensures_readsAs`), and those that
give no combination are left out. Which keys of an object a combination covers is then
`Compound.covers_iff`. -/
theorem compounds_cover_iff (f : SourceFile)
    (values : OrderedMap Dimension (OrderedMap Value String)) {e : Expr} {s : Text.Span}
    {items : List (Option Argument)} (he : e.unwrap = .array s items) {log log' : List LogEntry}
    {cs : List Compound} (h : (f.compounds values e).run.run log = (.ok cs, log')) :
    ∃ found : List (Option Compound), cs = found.reduceOption ∧
      List.Forall₂ (fun (a : Argument) r => f.ReadsAs values a.value r) items.reduceOption found ∧
      ∀ properties c, f.Combines values properties c →
        (c.Covers values properties ↔
          (∀ p ∈ properties, p.static?.isSome) ∧ ConditionsAgree (staticEntries properties)) := by
  have hread : Ensures (f.compounds values e) fun cs => ∃ found : List (Option Compound),
      cs = found.reduceOption ∧ List.Forall₂ (fun (a : Argument) r => f.ReadsAs values a.value r)
        items.reduceOption found := by
    unfold compounds
    rw [he]
    refine ensures_bind _ (ensures_mapM (fun (a : Argument) => f.ensures_readsAs values a.value) _) ?_
    intro found hfound
    exact ensures_pure ⟨found, rfl, hfound⟩
  obtain ⟨found, hcs, hfound⟩ := hread log cs log' h
  exact ⟨found, hcs, hfound, fun properties c hc => Compound.covers_iff hc⟩

/-! ## A lost condition -/

/-- A definition with two combinations. The second one has a name that is key and value. -/
def shorthandSource : String :=
  "import\x7bcssVariants as v\x7dfrom'styled-static';const a=v(\x7bvariants:\x7bs:\x7bp:'q'\x7d\x7d," ++
    "compoundVariants:[\x7bs:'p',css:'b'\x7d,\x7bs:'p',t,css:'c'\x7d]\x7d)"

/-- The file of this definition. -/
def shorthandFile : SourceFile := ⟨"f.js", shorthandSource.toList, .empty, .debug⟩

/-- Its dimension and value. -/
def shorthandValues : OrderedMap Dimension (OrderedMap Value String) :=
  .ofList [(⟨"s", by decide⟩, .ofList [(⟨"p", by decide⟩, "q")])]

/-- The properties of its first combination. -/
def plainProperties : List Property :=
  [.keyValue (.name "s") (.text ⟨97, 100⟩ "p"), .keyValue (.name "css") (.text ⟨105, 108⟩ "b")]

/-- The properties of its second combination. -/
def shorthandProperties : List Property :=
  [.keyValue (.name "s") (.text ⟨113, 116⟩ "p"), .shorthand "t",
    .keyValue (.name "css") (.text ⟨123, 126⟩ "c")]

/-- Its combinations as an array. -/
def shorthandArray : Expr :=
  .array ⟨93, 128⟩ [some (.mk false (.object ⟨94, 109⟩ plainProperties)),
    some (.mk false (.object ⟨110, 127⟩ shorthandProperties))]

/-- What is read: both combinations have the same condition. -/
def shorthandCompound (css : String) : Compound :=
  ⟨.ofList [(⟨"s", by decide⟩, ⟨"p", by decide⟩)], css⟩

/-- Of two combinations that are read with the same condition, one covers its object and one does
not. -/
theorem compounds_cover_sample :
    (shorthandFile.compounds shorthandValues shorthandArray).run.run [] =
      (.ok [shorthandCompound "b", shorthandCompound "c"], []) ∧
    (shorthandCompound "b").Covers shorthandValues plainProperties ∧
    ¬ (shorthandCompound "c").Covers shorthandValues shorthandProperties := by
  have hrun : (shorthandFile.compounds shorthandValues shorthandArray).run.run [] =
      (.ok [shorthandCompound "b", shorthandCompound "c"], []) := by
    change (_ : Except Failure (List Compound) × List LogEntry) = _
    decide +kernel
  obtain ⟨found, hcs, hfound, hcovers⟩ :=
    compounds_cover_iff shorthandFile shorthandValues (e := shorthandArray) rfl hrun
  change List.Forall₂ _ [_, _] found at hfound
  obtain ⟨r, found, hplain, hrest, rfl⟩ := List.forall₂_cons_left_iff.mp hfound
  obtain ⟨r', found, hshort, hnil, rfl⟩ := List.forall₂_cons_left_iff.mp hrest
  obtain rfl := List.forall₂_nil_left_iff.mp hnil
  obtain ⟨rfl, rfl⟩ : some (shorthandCompound "b") = r ∧ some (shorthandCompound "c") = r' := by
    cases r <;> cases r' <;> simp_all [List.reduceOption]
  obtain ⟨_, _, hobject, hb⟩ := (hplain _).mp rfl
  cases hobject
  obtain ⟨_, _, hobject, hc⟩ := (hshort _).mp rfl
  cases hobject
  refine ⟨hrun, (hcovers _ _ hb).mpr ⟨?_, ?_⟩, fun hcovered => ?_⟩
  · simp [plainProperties, Property.static?, Script.Key.text?]
  · simp [plainProperties, ConditionsAgree, staticEntries, Property.static?, Script.Key.text?]
  · have hfixed := ((hcovers _ _ hc).mp hcovered).1 (.shorthand "t") (by simp [shorthandProperties])
    cases hfixed

/-- **A name that is key and value is lost**: the combination is read with fewer conditions than
its object has. -/
theorem shorthand_condition_lost :
    (Script.parseModule? (.ofFile "f.js") shorthandSource).map
      (Script.Module.constructs .standard shorthandSource "f.js") = some (.ok [.variants {
        variants := {
          kind := .className
          target := none
          baseCss := none
          values := shorthandValues
          defaults := .empty
          compounds := [shorthandCompound "b", shorthandCompound "c"] }
        varName := "a"
        span := ⟨52, 130⟩ }]) ∧
    ¬ ∀ (f : SourceFile) (values : OrderedMap Dimension (OrderedMap Value String)) (e : Expr)
      (s : Text.Span) (properties : List Property) (c : Compound) (log : List LogEntry),
      e.unwrap = .object s properties → (f.compound values e).outcome log = .ok (some c) →
        c.Covers values properties := by
  refine ⟨by decide +kernel, fun h => ?_⟩
  have hread : (shorthandFile.compound shorthandValues
      (.object ⟨110, 127⟩ shorthandProperties)).outcome [] = .ok (some (shorthandCompound "c")) := by
    decide +kernel
  obtain ⟨entry, hentry, -⟩ := h _ _ _ _ _ _ _ rfl hread (.shorthand "t")
    (by simp [shorthandProperties])
  cases hentry

end SourceFile

end StyleExtract
