import Mathlib.Data.List.Nodup
import Mathlib.Tactic.Common
import StyleExtract.Proofs.Resolver.Agreement

/-!
# Resolvers read back as their plan

The tables and the chains of tests of a resolver are put together from texts, among them the names
and the class that the author has chosen. This file reads the finished texts with the rules of the
script language and finds what the plan says and nothing else: whatever the author has chosen, it
ends where it should.

## Main definitions

* `Branch` — one test of a chain with the class text that it adds.
* `readChains?` — the chains of branches that a text consists of.
* `Variants.inhabited`, `Variants.chains` — the dimensions of a definition that have a value at all,
  and its branches.

## Main results

* `Variants.text_readsBack` — the table of a definition reads back as dimension, value and class
  text, and its chains as one branch for each pair.

## Design

Reading gives the programs that resolvers are the text of (`Plan.tableTerm`, `Plan.statements`).
What is left is to find the plan in a program, where a chain of tests is one statement.
-/

namespace StyleExtract

open Script (Entries Label Statement Term readBody? readDeclaration?)

/-! ## Names -/

/-- No name is taken for the mark of an object without a prototype or for another name. -/
lemma Name.nodup_proto_cons {kind : NameKind} (hkind : kind.accepts "__proto__" = false)
    {names : List (Name kind)} (h : names.Nodup) : ("__proto__" :: names.map Name.text).Nodup := by
  refine List.nodup_cons.mpr ⟨fun hmem => ?_, h.map Name.text_injective⟩
  obtain ⟨n, -, hn⟩ := List.mem_map.mp hmem
  have hvalid := n.valid
  rw [hn, hkind] at hvalid
  cases hvalid

/-! ## Chains of tests -/

/-- **One test of a chain** with the class text that it adds. -/
structure Branch where
  /-- The parameter that is tested. -/
  name : String
  /-- The text that it is compared with. -/
  value : String
  /-- The truth value or integer that it is compared with as well. -/
  key? : Option ScalarKey
  /-- The class text. -/
  suffix : String
  deriving DecidableEq

/-- The scalar that a term is. -/
def Script.Term.scalar? : Term → Option ScalarKey
  | .bool b => some (.bool b)
  | .numeral n => some (.integer n)
  | .negated (.numeral n) => some (.integer (-n))
  | _ => none

/-- A test and the class text behind it as a branch. -/
def Branch.ofTest? (suffix : String) : Term → Option Branch
  | .same (.name x) (.quoted s) => some ⟨x, s, none, suffix⟩
  | .either (.same (.name x) (.quoted s)) (.same (.name y) t) =>
    if x = y then t.scalar?.map fun k => ⟨x, s, some k, suffix⟩ else none
  | _ => none

/-- The branches of a chain of tests, each of which adds to the gathered class text. -/
def Branch.ofChain? : Statement → Option (List Branch)
  | .when test (.append x (.quoted suffix)) =>
    if x = classLocal then (ofTest? suffix test).map fun b => [b] else none
  | .choose test (.append x (.quoted suffix)) rest => do
    let b ← if x = classLocal then ofTest? suffix test else none
    let bs ← ofChain? rest
    return b :: bs
  | _ => none

/-- **The chains of branches that a text consists of.** -/
def readChains? (s : String) : Option (List (List Branch)) := do
  let body ← readBody? s
  body.mapM Branch.ofChain?

/-- The branch of a value. -/
def ValuePlan.toBranch (name : String) (v : ValuePlan) : Branch :=
  ⟨name, v.value.text, v.key?, v.suffix⟩

/-- A scalar is read back from its term. -/
lemma ScalarKey.scalar?_term (k : ScalarKey) : k.term.scalar? = some k := by
  cases k with
  | bool b => rfl
  | integer n =>
    rw [term]
    split
    · next hn => simp [Script.Term.scalar?, Int.toNat_of_nonneg hn]
    · next hn =>
      have hneg : -((-n).toNat : Int) = n := by omega
      simp only [Script.Term.scalar?, hneg]

namespace ValuePlan

variable {name : String}

/-- The test of a value is its branch. -/
lemma ofTest?_testTerm (v : ValuePlan) :
    Branch.ofTest? v.suffix (v.testTerm name) = some (v.toBranch name) := by
  unfold testTerm toBranch
  cases v.key? with
  | none => rfl
  | some k => simp [Branch.ofTest?, k.scalar?_term]

/-- A chain of tests has the branches of its values. -/
lemma ofChain?_chain (v : ValuePlan) (vs : List ValuePlan) :
    Branch.ofChain? (chain name v vs) = some ((v :: vs).map (toBranch name)) := by
  induction vs generalizing v with
  | nil => simp [chain, gather, Branch.ofChain?, ofTest?_testTerm]
  | cons w vs ih => simp [chain, gather, Branch.ofChain?, ofTest?_testTerm, ih]

end ValuePlan

/-- The chains of some dimensions have the branches of their values. -/
lemma mapM_ofChain?_branchStatements (ds : List DimensionPlan) :
    (ds.flatMap DimensionPlan.branchStatements).mapM Branch.ofChain? =
      some ((ds.filter fun d => !d.values.isEmpty).map fun d =>
        d.values.map (ValuePlan.toBranch d.name.text)) := by
  induction ds with
  | nil => rfl
  | cons d ds ih =>
    cases hv : d.values with
    | nil => simp [DimensionPlan.branchStatements, hv, ih]
    | cons v vs => simp [DimensionPlan.branchStatements, hv, ih, ValuePlan.ofChain?_chain]

/-- **The chains of a plan are read back**, one for each dimension that has a value. -/
theorem Plan.readChains?_text (p : Plan) :
    readChains? (Lookup.branches.text p) =
      some (p.inhabited.map fun d => d.values.map (ValuePlan.toBranch d.name.text)) := by
  have hread := Script.readBody?_linesOf fun s hs =>
    (p.isReadable_statements .branches s hs).isLine
  rw [p.linesOf_statements] at hread
  unfold readChains?
  rw [hread]
  exact mapM_ofChain?_branchStatements p.dimensions

/-! ## Definitions -/

namespace Variants

/-- The dimensions that have a value at all, with their values. -/
def inhabited (v : Variants) : List (Dimension × OrderedMap Value String) :=
  v.values.entries.filter fun e => !e.2.keys.isEmpty

/-- The branch of a pair. -/
def branch (base : String) (p : Dimension × Value) : Branch :=
  ⟨p.1.text, p.2.text, ScalarKey.ofText? p.2.text, " " ++ variantClass base p.1.text p.2.text⟩

/-- The branches of a definition, those of a dimension in a chain of their own. -/
def chains (base : String) (v : Variants) : List (List Branch) :=
  v.inhabited.map fun (d, xs) => xs.keys.map fun x => branch base (d, x)

/-- The inhabited dimensions of the plan of a definition are those of the definition. -/
lemma map_inhabited_ofVariants {α : Type} (base : String) (v : Variants) (f : DimensionPlan → α) :
    (Plan.ofVariants base v).inhabited.map f = v.inhabited.map fun e =>
      f ⟨e.1, v.defaults.get? e.1,
        e.2.keys.map fun x => ⟨x, " " ++ variantClass base e.1.text x.text⟩⟩ := by
  simp [Plan.inhabited, Plan.ofVariants, inhabited, List.filter_map, Function.comp_def]

/-- The chains of a definition are those of its plan. -/
lemma chains_eq (base : String) (v : Variants) :
    ((Plan.ofVariants base v).inhabited.map fun d =>
      d.values.map (ValuePlan.toBranch d.name.text)) = v.chains base := by
  rw [map_inhabited_ofVariants, chains]
  refine List.map_congr_left fun e _ => ?_
  rw [List.map_map]
  rfl

/-- The chains of a definition have one branch for each declared pair. -/
lemma flatten_chains (base : String) (v : Variants) :
    (v.chains base).flatten = v.pairs.map (branch base) := by
  unfold chains inhabited pairs
  induction v.values.entries with
  | nil => rfl
  | cons e entries ih =>
    cases hkeys : e.2.keys with
    | nil => simpa [hkeys] using ih
    | cons x xs => simp [hkeys, ih]

/-- **Resolvers read back as their plan**, whatever base class and names the author has chosen. The
table of a definition is a constant with its name; its value is an object literal with the mark of
an object without a prototype and then, in the order of declaration, each dimension that has a
value; the value of the dimension is an object literal of the same kind with each value and the
class text that it adds. No key stands twice in one of the literals, so none of their entries merge.
The statements of a definition are one chain of tests for each dimension that has a value, and in
these there is one branch for each declared pair, in the order of declaration.

**Proof sketch.** The table and the statements are the texts of programs, and programs of their kind
are read back. -/
theorem text_readsBack (base : String) (name : Binding) (v : Variants) :
    readDeclaration? (Table.text ⟨name, .ofVariants base v⟩) = some (name.text,
      .object (.cons (.plain "__proto__") .null (.ofList (v.inhabited.map fun (d, xs) =>
        (.plain d.text, .object (.cons (.plain "__proto__") .null (.ofList (xs.keys.map fun x =>
          (.quoted x.text, .quoted (" " ++ variantClass base d.text x.text)))))))))) ∧
    ("__proto__" :: v.inhabited.map fun e => e.1.text).Nodup ∧
    (∀ e ∈ v.inhabited, ("__proto__" :: e.2.keys.map Name.text).Nodup) ∧
    readChains? (Lookup.branches.text (.ofVariants base v)) = some (v.chains base) ∧
    (v.chains base).flatten = v.pairs.map (branch base) := by
  refine ⟨?_, ?_, fun e _ => ?_, ?_, flatten_chains base v⟩
  · rw [Table.readDeclaration?_text, Table.declaration, Plan.tableTerm, map_inhabited_ofVariants]
    simp only [DimensionPlan.tableTerm, List.map_map]
    rfl
  · have hkeys : (v.inhabited.map Prod.fst).Nodup :=
      v.values.nodup.sublist (List.filter_sublist.map Prod.fst)
    have hnodup := Name.nodup_proto_cons (by decide) hkeys
    rwa [List.map_map] at hnodup
  · exact Name.nodup_proto_cons (by decide) e.2.nodup
  · rw [Plan.readChains?_text, chains_eq]

end Variants

end StyleExtract
