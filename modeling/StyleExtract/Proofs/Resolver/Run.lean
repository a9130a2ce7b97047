import Mathlib.Data.List.Nodup
import Mathlib.Tactic.Common
import StyleExtract.Proofs.Resolver.Program

/-!
# Running resolvers

What the two ways of a resolver compute: chains of tests and look-ups in a table gather the same
class text, the base and for each dimension the class of the value that is selected.

## Main definitions

* `DimensionPlan.suffixFor` — the class text that a dimension adds for a value of the script.
* `Plan.WellFormed` — a plan in which no dimension and no value stands twice.
* `Plan.classText` — the class text of a selection.

## Main results

* `ValuePlan.exec_chain` — what a chain of tests does.
* `DimensionPlan.exec_lookupStatement` — what a look-up does.
* `Plan.run_branches`, `Plan.run_table` — what the two ways compute.

## Design

The table is only reached by values that have a text of their own, and the tests of a chain hold
for exactly the same values (`Script.Value.strictEq_text_or_key`), so both ways are compared with
one search through the values of a dimension (`DimensionPlan.chosen?`). A statement for a dimension
changes nothing but the local in which the text is gathered, which is why both runs are instances
of one induction (`execAll_gather`).
-/

namespace StyleExtract

open Script (Entries Head Host Label Parameter Program Resolver Scope Statement Term)
open Text (utf16)

/-! ## Running a plan -/

namespace DimensionPlan

/-- The value of a dimension whose text is that of a value of the script. -/
def chosen? (d : DimensionPlan) (v : Script.Value) : Option ValuePlan :=
  d.values.find? fun x => v.selectionText? == some (utf16 x.value.text)

/-- The class text that a dimension adds for a value of the script. -/
def suffixFor (d : DimensionPlan) (v : Script.Value) : String :=
  ((d.chosen? v).map ValuePlan.suffix).getD ""

end DimensionPlan

/-- A plan in which no dimension and no value stands twice and no class text is empty. -/
structure Plan.WellFormed (p : Plan) : Prop where
  /-- The dimensions have different names. -/
  names : (p.dimensions.map fun d => d.name.text).Nodup
  /-- The values of a dimension have different names. -/
  values : ∀ d ∈ p.dimensions, (d.values.map fun v => v.value.text).Nodup
  /-- Class texts are not empty. -/
  suffixes : ∀ d ∈ p.dimensions, ∀ v ∈ d.values, v.suffix ≠ ""

section Run

variable (host : Host) {scope : Scope}

/-- A scalar in the exact range evaluates to its value.

**Proof sketch.** A negative integer is written as the opposite of a numeral. It is not zero, so its
opposite is not the negative zero. -/
lemma ScalarKey.eval_term {k : ScalarKey} (hk : k.Exact) :
    k.term.eval host scope = some k.value := by
  cases k with
  | bool b => rfl
  | integer n =>
    have hn : n.natAbs ≤ maxSafeInteger := hk
    by_cases h : 0 ≤ n
    · have hle : n.toNat ≤ maxSafeInteger := by omega
      simp only [term, h, if_true, Term.eval, hle, value, Int.toNat_of_nonneg h]
    · have hle : (-n).toNat ≤ maxSafeInteger := by omega
      have hpos : ((-n).toNat : Int) = -n := Int.toNat_of_nonneg (by omega)
      have hneg : (Script.Number.ofInt (-n)).neg = .ofInt n := by
        have hne : ((-n : Int) : Rat) ≠ 0 := by exact_mod_cast (by omega : -n ≠ 0)
        rw [Script.Number.ofInt, Script.Number.neg, if_neg hne, Script.Number.ofInt]
        simp
      simp only [term, h, if_false, Term.eval, hle, if_true, hpos, hneg, value]

/-- The test of a branch holds exactly for the values with the text of the branch.

**Proof sketch.** A value with the text is that text itself or the scalar that stands for it
(`strictEq_text_or_key`), and the test compares with both if there is such a scalar. -/
lemma ValuePlan.eval_testTerm {name : String} {v : Script.Value} (hv : scope name = some v)
    (x : ValuePlan) : (x.testTerm name).eval host scope =
      some (.bool (v.selectionText? == some (utf16 x.value.text))) := by
  have hiff := v.strictEq_text_or_key host x.value.text
  unfold testTerm key?
  cases hk : ScalarKey.ofText? x.value.text with
  | none =>
    have htest : v.strictEq host (.text (utf16 x.value.text)) =
        (v.selectionText? == some (utf16 x.value.text)) := by
      rw [Bool.eq_iff_iff, beq_iff_eq, ← hiff]
      simp [hk]
    simp [Term.eval, hv, htest]
  | some k =>
    have hex := (ScalarKey.ofText?_eq_some_iff.mp hk).2
    have htest : (v.strictEq host (.text (utf16 x.value.text)) || v.strictEq host k.value) =
        (v.selectionText? == some (utf16 x.value.text)) := by
      rw [Bool.eq_iff_iff, beq_iff_eq, ← hiff]
      simp [hk]
    rw [← htest]
    cases hs : v.strictEq host (.text (utf16 x.value.text)) <;>
      simp [Term.eval, hv, hs, ScalarKey.eval_term host hex]

/-- Appending a literal to the gathered text. -/
lemma exec_append {u w : List UInt16} {t : Term} (hu : scope classLocal = some (.text u))
    (ht : t.eval host scope = some (.text w)) :
    (Statement.append classLocal t).exec host scope =
      some (scope.set classLocal (.text (u ++ w))) := by
  simp [Statement.exec, hu, ht, Script.Value.plus]

/-- **A chain appends the class text of the first value with the text of the selection.**

**Proof sketch.** Induction on the values: the test of the first value decides between its class
text and the rest of the chain. -/
lemma ValuePlan.exec_chain {name : String} {v : Script.Value} {u : List UInt16}
    (hv : scope name = some v) (hu : scope classLocal = some (.text u)) (xs : List ValuePlan) :
    ∀ x : ValuePlan, (chain name x xs).exec host scope =
      some (scope.set classLocal (.text (u ++ utf16 ((((x :: xs).find? fun y =>
        v.selectionText? == some (utf16 y.value.text)).map suffix).getD "")))) := by
  induction xs with
  | nil =>
    intro x
    rw [chain, Statement.exec, x.eval_testTerm host hv]
    cases hx : v.selectionText? == some (utf16 x.value.text)
    · simp [hx, Scope.set_eq_self hu]
    · simp [hx, gather, exec_append host hu, Term.eval]
  | cons y xs ih =>
    intro x
    rw [chain, Statement.exec, x.eval_testTerm host hv]
    cases hx : v.selectionText? == some (utf16 x.value.text)
    · rw [List.find?_cons_of_neg (by simp [hx]), ← ih y]
      simp
    · rw [List.find?_cons_of_pos (by simpa using hx)]
      simp [gather, exec_append host hu, Term.eval]

/-- The branches of a dimension append its class text. -/
lemma DimensionPlan.execAll_branchStatements {d : DimensionPlan} {v : Script.Value}
    {u : List UInt16} (hv : scope d.name.text = some v)
    (hu : scope classLocal = some (.text u)) :
    Script.execAll host scope d.branchStatements =
      some (scope.set classLocal (.text (u ++ utf16 (d.suffixFor v)))) := by
  unfold branchStatements suffixFor chosen?
  cases d.values with
  | nil => simp [Script.execAll, Scope.set_eq_self hu]
  | cons x xs => simp [Script.execAll, ValuePlan.exec_chain host hv hu xs x]

/-- In a list with different keys the latest entry with a key is the only one.

**Proof sketch.** Induction on the list. The entry in front stands last in the reversed list, so it
is found only if no later entry has its key, and none has. -/
lemma lookup_reverse {α : Type} (key : α → String) (value : α → Script.Value) (s : List UInt16) :
    ∀ l : List α, (l.map key).Nodup →
      (l.map fun a => (utf16 (key a), value a)).reverse.lookup s =
        (l.find? fun a => s == utf16 (key a)).map value := by
  intro l
  induction l with
  | nil => intro _; rfl
  | cons a l ih =>
    intro h
    rw [List.map_cons, List.nodup_cons] at h
    rw [List.map_cons, List.reverse_cons, List.lookup_append, ih h.2]
    cases hs : s == utf16 (key a)
    · rw [List.find?_cons_of_neg (by simp [hs]), List.lookup_cons, hs]
      simp
    · rw [List.find?_cons_of_pos (by simpa using hs), List.lookup_cons, hs]
      -- no later entry has the key of this one
      have hnone : l.find? (fun b => s == utf16 (key b)) = none := by
        rw [List.find?_eq_none]
        intro b hb hsb
        have heq : key b = key a := by
          rw [← Text.utf16_inj, ← beq_iff_eq.mp hsb, ← beq_iff_eq.mp hs]
        exact h.1 (heq ▸ List.mem_map_of_mem hb)
      simp [hnone]

/-- In a list with different keys an element is found by its key. -/
lemma find?_of_mem {α : Type} (key : α → String) {a : α} :
    ∀ l : List α, (l.map key).Nodup → a ∈ l →
      l.find? (fun b => utf16 (key a) == utf16 (key b)) = some a := by
  intro l
  induction l with
  | nil => intro _ ha; cases ha
  | cons b l ih =>
    intro h ha
    rw [List.map_cons, List.nodup_cons] at h
    rcases List.mem_cons.mp ha with rfl | ha
    · rw [List.find?_cons_of_pos (by simp)]
    · have hne : key a ≠ key b := fun e => h.1 (e ▸ List.mem_map_of_mem ha)
      rw [List.find?_cons_of_neg (by simpa using hne), ih h.2 ha]

/-- The value of the entries of a dimension. -/
def DimensionPlan.tableValue (d : DimensionPlan) : Script.Value :=
  .literal false (d.values.map fun v => (utf16 v.value.text, .text (utf16 v.suffix))).reverse

/-- The value of a table. -/
def Plan.tableValue (p : Plan) : Script.Value :=
  .literal false (p.inhabited.map fun d => (utf16 d.name.text, d.tableValue)).reverse

/-- The entries of a dimension evaluate to their value: a value is never called `__proto__`. -/
lemma DimensionPlan.eval_tableTerm (d : DimensionPlan) :
    d.tableTerm.eval host scope = some d.tableValue := by
  have hentries := Entries.eval_ofPairs host scope Label.quoted (fun _ => rfl) false
    (d.values.map fun v => (v.value.text, .quoted v.suffix, .text (utf16 v.suffix))) [] (by
      intro e he
      obtain ⟨v, -, rfl⟩ := List.mem_map.mp he
      have hv := v.value.valid
      refine ⟨?_, by simp [Term.eval]⟩
      simp only [NameKind.accepts, Bool.and_eq_true, bne_iff_ne] at hv
      exact hv.2)
  simp only [List.map_map, Function.comp_def, List.append_nil] at hentries
  simp [tableTerm, Term.eval, Entries.eval, Label.key, hentries, tableValue]

/-- The literal of a table evaluates to its value: a dimension is never called `__proto__`. -/
lemma Plan.eval_tableTerm (p : Plan) : p.tableTerm.eval host scope = some p.tableValue := by
  have hentries := Entries.eval_ofPairs host scope Label.plain (fun _ => rfl) false
    (p.inhabited.map fun d => (d.name.text, d.tableTerm, d.tableValue)) [] (by
      intro e he
      obtain ⟨d, -, rfl⟩ := List.mem_map.mp he
      have hd := d.name.valid
      refine ⟨?_, d.eval_tableTerm host⟩
      simp only [NameKind.accepts, Bool.and_eq_true, bne_iff_ne] at hd
      exact hd.1.1.2)
  simp only [List.map_map, Function.comp_def, List.append_nil] at hentries
  simp [tableTerm, Term.eval, Entries.eval, Label.key, hentries, tableValue]

/-- The choice between two truth values. -/
lemma eval_either {a b : Term} {x y : Bool} (ha : a.eval host scope = some (.bool x))
    (hb : b.eval host scope = some (.bool y)) :
    (Term.either a b).eval host scope = some (.bool (x || y)) := by
  cases x <;> simp [Term.eval, ha, hb]

/-- The comparison of the type of a name with a text. -/
lemma eval_typeOf_same {name : String} {v : Script.Value} (hv : scope name = some v) (s : String) :
    (Term.same (.typeOf name) (.quoted s)).eval host scope = some (.bool (v.typeOf == s)) := by
  have hbeq : (utf16 v.typeOf == utf16 s) = (v.typeOf == s) := by
    rw [Bool.eq_iff_iff, beq_iff_eq, beq_iff_eq, Text.utf16_inj]
  simp [Term.eval, hv, Script.Value.strictEq, hbeq]

/-- The guard of a look-up holds exactly for the values with a text of their own. -/
lemma DimensionPlan.eval_guardTerm {name : String} {v : Script.Value} (hv : scope name = some v)
    (hn : scope "Number" = some (.builtin .number)) :
    (guardTerm name).eval host scope = some (.bool v.selectionText?.isSome) := by
  have hcall : (Term.call (.member (.name "Number") "isSafeInteger") (.name name)).eval host scope =
      some (.bool v.isSafeInteger) := by
    simp [Term.eval, hn, hv, Script.Value.get, Script.Value.call]
  rw [v.selectionText?_isSome]
  exact eval_either host (eval_either host (eval_typeOf_same host hv _)
    (eval_typeOf_same host hv _)) hcall

/-- The entry of a dimension in a table. -/
lemma DimensionPlan.get_tableValue {p : Plan} (hp : p.WellFormed) {d : DimensionPlan}
    (hd : d ∈ p.inhabited) :
    p.tableValue.get host (.text (utf16 d.name.text)) = some d.tableValue := by
  have hnd : (p.inhabited.map fun d => d.name.text).Nodup :=
    hp.names.sublist (List.filter_sublist.map _)
  rw [Plan.tableValue, Script.Value.get, Script.Value.ownEntry,
    lookup_reverse (fun d => d.name.text) DimensionPlan.tableValue _ _ hnd,
    find?_of_mem (fun d : DimensionPlan => d.name.text) _ hnd hd]
  rfl

/-- The entry of a value in the entries of a dimension. -/
lemma DimensionPlan.get_value {d : DimensionPlan}
    (hd : (d.values.map fun v => v.value.text).Nodup) (s : List UInt16) :
    d.tableValue.get host (.text s) =
      some (((d.values.find? fun x => s == utf16 x.value.text).map fun x =>
        Script.Value.text (utf16 x.suffix)).getD .undefined) := by
  rw [tableValue, Script.Value.get, Script.Value.ownEntry,
    lookup_reverse (fun x : ValuePlan => x.value.text) (fun x => .text (utf16 x.suffix)) s _ hd]
  cases d.values.find? fun x => s == utf16 x.value.text <;> rfl

/-- A guarded look-up gives what it finds, and the empty text where the guard fails or nothing is
found; behind a guard that fails nothing is evaluated. -/
lemma eval_guarded {guard entry : Term} {b : Bool} {w : Script.Value}
    (hg : guard.eval host scope = some (.bool b))
    (he : b = true → entry.eval host scope = some w) :
    (Term.either (.both (.group guard) entry) (.quoted "")).eval host scope =
      some (if b && w.truthy then w else .text []) := by
  cases b with
  | false => simp [Term.eval, hg]
  | true => cases hw : w.truthy <;> simp [Term.eval, hg, he, hw]

/-- **A look-up appends the class text of the value with the text of the selection.**

**Proof sketch.** A selection without a text of its own fails the guard and is the text of no
value. Any other is turned into its text as a key, so the table is searched for the value with
that text; a class text that is found counts as true, since it is not empty. -/
lemma DimensionPlan.exec_lookupStatement {p : Plan} (hp : p.WellFormed) {d : DimensionPlan}
    (hd : d ∈ p.inhabited) {table : String} {v : Script.Value} {u : List UInt16}
    (hv : scope d.name.text = some v) (hu : scope classLocal = some (.text u))
    (ht : scope table = some p.tableValue) (hn : scope "Number" = some (.builtin .number)) :
    (d.lookupStatement table).exec host scope =
      some (scope.set classLocal (.text (u ++ utf16 (d.suffixFor v)))) := by
  have hd' : d ∈ p.dimensions := (List.mem_filter.mp hd).1
  refine exec_append host hu ?_
  have hguard := eval_guardTerm host hv hn
  cases hs : v.selectionText? with
  | none =>
    rw [hs] at hguard
    have hnone : d.chosen? v = none := by simp [chosen?, hs, List.find?_eq_none]
    rw [eval_guarded host (w := .undefined) hguard (by simp), suffixFor, hnone]
    rfl
  | some s =>
    rw [hs] at hguard
    have hchosen : d.chosen? v = d.values.find? fun x => s == utf16 x.value.text := by
      rw [chosen?, hs]
      rfl
    have hentry : (Term.index (.member (.name table) d.name.text) (.name d.name.text)).eval host
        scope = d.tableValue.get host (.text s) := by
      simp [Term.eval, ht, hv, get_tableValue host hp hd,
        Script.Value.key_of_selectionText? host hs]
    rw [get_value host (hp.values d hd'), ← hchosen] at hentry
    rw [eval_guarded host hguard fun _ => hentry, suffixFor]
    cases hx : d.chosen? v with
    | none => rfl
    | some x =>
      have hne : utf16 x.suffix ≠ [] := by
        rw [Ne, Text.utf16_eq_nil_iff]
        exact hp.suffixes d hd' x (List.mem_of_find?_eq_some hx)
      simp [hne]

/-- **Statements for one dimension after the other gather the texts of the dimensions.** Each of
them may change nothing but the local in which the text is gathered.

**Proof sketch.** Induction on the dimensions: after the statements for the first one the scope is
again the one at the start, with a longer text in the local. -/
lemma execAll_gather {statements : DimensionPlan → List Statement} {text : DimensionPlan → String}
    {start : Scope} : ∀ ds : List DimensionPlan,
      (∀ d ∈ ds, ∀ u, Script.execAll host (start.set classLocal (.text u)) (statements d) =
        some (start.set classLocal (.text (u ++ utf16 (text d))))) →
      ∀ u, Script.execAll host (start.set classLocal (.text u)) (ds.flatMap statements) =
        some (start.set classLocal (.text (u ++ utf16 (Text.concat (ds.map text))))) := by
  intro ds
  induction ds with
  | nil => intro _ u; simp [Script.execAll, Text.concat]
  | cons d ds ih =>
    intro h u
    rw [List.flatMap_cons, Script.execAll_append, h d (by simp), Option.bind_some,
      ih fun e he => h e (by simp [he])]
    simp [Text.concat]

/-- No dimension has a name that generated code uses. -/
lemma Name.dimension_ne {s : String} (hs : Text.startsWith generatedStart s = true)
    (d : Dimension) : d.text ≠ s := by
  rintro rfl
  have hd := d.valid
  simp [NameKind.accepts, hs] at hd

namespace Plan

/-- The class text of a selection: the base, then for each dimension what it adds. -/
def classText (p : Plan) (selection : String → Script.Value) : String :=
  p.base ++ Text.concat (p.dimensions.map fun d => d.suffixFor (d.parameter.value selection))

/-- The parameters of a plan have the names of its dimensions. -/
lemma map_name_parameters (p : Plan) :
    p.parameters.map Parameter.name = p.dimensions.map fun d => d.name.text := by
  rw [parameters, List.map_map]
  rfl

/-- The name for the other properties is that of no dimension. -/
lemma dimension_ne_others (d : Dimension) : d.text ≠ PropsName.others.text :=
  d.dimension_ne (by decide)

namespace IsResolver

variable {p : Plan} {lookup : Lookup} {f : Resolver}

/-- A function that carries out a plan has the body of the plan. -/
lemma body_eq (h : p.IsResolver lookup f) : f.body = p.body lookup := by cases h <;> rfl

/-- What it has gathered is in the local. -/
lemma ownClass_result (h : p.IsResolver lookup f) : f.result.ownClass = .name classLocal := by
  cases h <;> rfl

/-- It binds its dimensions, and the name for the other properties or the one that nothing refers
to.

**Proof sketch.** A function from a selection binds its dimensions, or one unused name if there are
none. A component binds its dimensions and the other properties. -/
lemma mem_names (h : p.IsResolver lookup f) {x : String} (hx : x ∈ f.head.names) :
    (∃ d ∈ p.dimensions, d.name.text = x) ∨ x = "_" ∨ x = PropsName.others.text := by
  have hparameters : x ∈ p.parameters.map Parameter.name → ∃ d ∈ p.dimensions, d.name.text = x := by
    rw [p.map_name_parameters]
    exact fun hx => List.mem_map.mp hx
  cases h with
  | className =>
    unfold classResolver classHead at hx
    cases hps : p.parameters with
    | nil =>
      rw [hps] at hx
      exact .inr (.inl (List.mem_singleton.mp hx))
    | cons q qs =>
      rw [hps] at hx hparameters
      exact .inl (hparameters (by simpa [Head.names] using hx))
  | component target =>
    rcases List.mem_append.mp hx with hx | hx
    · exact .inl (hparameters hx)
    · exact .inr (.inr (by simpa using hx))

/-- No name is bound twice by its parameter. -/
lemma nodup_names (h : p.IsResolver lookup f) (hp : p.WellFormed) : f.head.names.Nodup := by
  have hparameters : (p.parameters.map Parameter.name).Nodup := p.map_name_parameters ▸ hp.names
  cases h with
  | className =>
    unfold classResolver classHead
    cases hps : p.parameters with
    | nil => exact List.nodup_singleton _
    | cons q qs => simpa [Head.names, hps] using hparameters
  | component target =>
    refine hparameters.append (List.nodup_singleton _) fun x hx hy => ?_
    rw [p.map_name_parameters] at hx
    obtain ⟨d, -, rfl⟩ := List.mem_map.mp hx
    exact dimension_ne_others d.name (by simpa using hy)

/-- In the body a dimension has the value of its parameter. -/
lemma bind_dimension (h : p.IsResolver lookup f) (hp : p.WellFormed)
    (selection : String → Script.Value) (outer : Scope) {d : DimensionPlan}
    (hd : d ∈ p.dimensions) :
    f.head.bind selection outer d.name.text = some (d.parameter.value selection) := by
  have hnodup := h.nodup_names hp
  have hmem : d.parameter ∈ p.parameters := List.mem_map_of_mem hd
  cases h with
  | className =>
    unfold classResolver classHead at hnodup ⊢
    cases hps : p.parameters with
    | nil => simp [hps] at hmem
    | cons q qs =>
      rw [hps] at hmem hnodup
      exact Head.bind_of_mem selection outer hnodup hmem
  | component target => exact Head.bind_of_mem selection outer hnodup hmem

/-- In the body what the function does not bind has its value from outside. -/
lemma bind_other (h : p.IsResolver lookup f) (selection : String → Script.Value) (outer : Scope)
    {x : String} (hx : ∀ d ∈ p.dimensions, d.name.text ≠ x) (hnone : x ≠ "_")
    (hothers : x ≠ PropsName.others.text) : f.head.bind selection outer x = outer x := by
  refine Head.bind_of_notMem selection outer fun hmem => ?_
  rcases h.mem_names hmem with ⟨d, hd, hdx⟩ | hmem | hmem
  · exact hx d hd hdx
  · exact hnone hmem
  · exact hothers hmem

/-- A function gathers the base and then what its statements gather. -/
lemma gathered_eq (h : p.IsResolver lookup f) {selection : String → Script.Value}
    {outer start : Scope} {s : String} (hs : start = f.head.bind selection outer)
    (hrun : Script.execAll host (start.set classLocal (.text (utf16 p.base)))
      (p.statements lookup) = some (start.set classLocal (.text (utf16 p.base ++ utf16 s)))) :
    f.gathered host outer selection = some (.text (utf16 (p.base ++ s))) := by
  rw [Resolver.gathered, h.body_eq, body, ← hs, h.ownClass_result]
  simp [Script.execAll, Statement.exec, Term.eval, hrun]

end IsResolver

/-- **A resolver made of tests computes the class text of its selection**, where it has no early
error. -/
theorem run_branches {p : Plan} (hp : p.WellFormed) {f : Resolver} (hf : p.IsResolver .branches f)
    {exposed : Option Entries} (hlegal : (Program.mk none f exposed).IsLegal) (outer : Scope)
    (selection : String → Script.Value) :
    (Program.mk none f exposed).run host outer selection =
      some (.text (utf16 (p.classText selection))) := by
  rw [Program.run, if_pos hlegal]
  refine hf.gathered_eq host rfl (execAll_gather host p.dimensions (fun d hd u => ?_) _)
  have hv : (f.head.bind selection outer).set classLocal (.text u) d.name.text =
      some (d.parameter.value selection) := by
    rw [Scope.set_of_ne _ _ _ (d.name.dimension_ne (by decide)),
      hf.bind_dimension hp selection outer hd]
  rw [d.execAll_branchStatements host hv (Scope.set_self ..), Scope.set_set]

/-- Dimensions without a value add nothing. -/
lemma concat_inhabited (p : Plan) (value : DimensionPlan → Script.Value) :
    Text.concat (p.inhabited.map fun d => d.suffixFor (value d)) =
      Text.concat (p.dimensions.map fun d => d.suffixFor (value d)) := by
  rw [inhabited]
  induction p.dimensions with
  | nil => rfl
  | cons d ds ih =>
    cases hd : d.values with
    | nil =>
      have hempty : d.suffixFor (value d) = "" := by
        simp [DimensionPlan.suffixFor, DimensionPlan.chosen?, hd]
      simp [hd, Text.concat, hempty, ih]
    | cons x xs => simp [hd, Text.concat, ih]

/-- **A resolver with a table computes the class text of its selection**, where it has no early
error, no dimension hides the global object `Number`, and the table has a name that neither a
dimension nor another name of generated code is.

**Proof sketch.** The table is evaluated first and stands in the scope of the function. Its name
starts like a generated name, so the function binds no dimension over it, and `Number` is still the
global object. So every look-up sees its dimension, the local, the table and `Number`, and adds the
suffix of its dimension; `execAll_gather` puts these together. -/
theorem run_table {p : Plan} (hp : p.WellFormed) {f : Resolver} {table : Binding}
    (hf : p.IsResolver (.table table) f)
    (ht : Text.startsWith generatedStart table.text = true) (hl : table.text ≠ classLocal)
    (ho : table.text ≠ PropsName.others.text) {exposed : Option Entries}
    (hlegal : (Program.mk (some (table.text, p.tableTerm)) f exposed).IsLegal) {outer : Scope}
    (hn : outer "Number" = some (.builtin .number))
    (hd : ∀ d ∈ p.dimensions, d.name.text ≠ "Number") (selection : String → Script.Value) :
    (Program.mk (some (table.text, p.tableTerm)) f exposed).run host outer selection =
      some (.text (utf16 (p.classText selection))) := by
  have hscope : (Program.mk (some (table.text, p.tableTerm)) f exposed).scope host outer =
      some (outer.set table.text p.tableValue) := by
    simp [Program.scope, p.eval_tableTerm host]
  have hne : ∀ s, Text.startsWith generatedStart s = false → s ≠ table.text := by
    rintro s hs rfl
    rw [ht] at hs
    cases hs
  rw [Program.run, if_pos hlegal, hscope, classText, ← concat_inhabited]
  refine hf.gathered_eq host rfl ?_
  rw [statements, List.map_eq_flatMap]
  refine execAll_gather host p.inhabited (fun d hi u => ?_) _
  -- the names that a look-up refers to: its dimension, the local, the table and `Number`
  have hv : ((f.head.bind selection (outer.set table.text p.tableValue)).set classLocal
      (.text u)) d.name.text = some (d.parameter.value selection) := by
    rw [Scope.set_of_ne _ _ _ (d.name.dimension_ne (by decide)),
      hf.bind_dimension hp selection _ (List.mem_filter.mp hi).1]
  have htable : ((f.head.bind selection (outer.set table.text p.tableValue)).set classLocal
      (.text u)) table.text = some p.tableValue := by
    rw [Scope.set_of_ne _ _ _ hl, hf.bind_other selection _ (fun d _ => d.name.dimension_ne ht)
      (hne "_" (by decide)).symm ho, Scope.set_self]
  have hnumber : ((f.head.bind selection (outer.set table.text p.tableValue)).set classLocal
      (.text u)) "Number" = some (.builtin .number) := by
    rw [Scope.set_of_ne _ _ _ (by decide), hf.bind_other selection _ hd (by decide) (by decide),
      Scope.set_of_ne _ _ _ (hne "Number" (by decide)), hn]
  simp [Script.execAll, d.exec_lookupStatement host hp hi hv (Scope.set_self ..) htable hnumber]

end Plan

end Run

end StyleExtract
