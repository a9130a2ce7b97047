import Mathlib.Tactic.Common
import StyleExtract.Generated.Generator
import StyleExtract.Proofs.Script.Evaluation

/-!
# The programs that resolvers are the text of

A variant definition is compiled to a function that is called with a value for each dimension. The
function is written in one of two ways, as chains of tests or with a table. This file gives the
program that such a function is the text of, so that it can be run.

## Main definitions

* `Plan.body` — the body of a resolver, in either way.
* `Target.creation` — what a component returns.
* `Plan.IsResolver` — the functions that carry out a plan.
* `Replacement.program?` — the program that a replacement is the text of.

## Main results

* `Replacement.text_program` — a replacement is the text of its program.
* `Table.text_declaration` — a table is the text of its name and its literal.

## Design

Each part of a plan has its text already (`ValuePlan.branch`, `DimensionPlan.lookup`, and so on).
The programs follow the same division, one definition for each part, so each text lemma is about
one part.
-/

namespace StyleExtract

open Script (Entries Head Label Parameter Program Resolver Statement Term)

/-! ## Programs of plans -/

/-- The term that a scalar is written as. -/
def ScalarKey.term : ScalarKey → Term
  | .bool b => .bool b
  | .integer n => if 0 ≤ n then .numeral n.toNat else .negated (.numeral (-n).toNat)

namespace ValuePlan

/-- The test of a branch. -/
def testTerm (name : String) (v : ValuePlan) : Term :=
  let textual := Term.same (.name name) (.quoted v.value.text)
  match v.key? with
  | some k => .either textual (.same (.name name) k.term)
  | none => textual

/-- The statement that appends the class text of a value. -/
def gather (v : ValuePlan) : Statement := .append classLocal (.quoted v.suffix)

/-- The chain of tests for some values. -/
def chain (name : String) : ValuePlan → List ValuePlan → Statement
  | v, [] => .when (v.testTerm name) v.gather
  | v, w :: vs => .choose (v.testTerm name) v.gather (chain name w vs)

end ValuePlan

namespace DimensionPlan

/-- The chain of a dimension. -/
def branchStatements (d : DimensionPlan) : List Statement :=
  match d.values with
  | [] => []
  | v :: vs => [ValuePlan.chain d.name.text v vs]

/-- Whether a name stands for a value with a text of its own. -/
def guardTerm (name : String) : Term :=
  .either
    (.either (.same (.typeOf name) (.quoted "string")) (.same (.typeOf name) (.quoted "boolean")))
    (.call (.member (.name "Number") "isSafeInteger") (.name name))

/-- The look-up of a dimension in a table. -/
def lookupStatement (table : String) (d : DimensionPlan) : Statement :=
  .append classLocal (.either
    (.both (.group (guardTerm d.name.text))
      (.index (.member (.name table) d.name.text) (.name d.name.text)))
    (.quoted ""))

/-- The parameter of a dimension. -/
def parameter (d : DimensionPlan) : Parameter := ⟨d.name.text, d.default.map Name.text⟩

/-- The entries of a dimension in a table. -/
def tableTerm (d : DimensionPlan) : Term :=
  .object (.cons (.plain "__proto__") .null
    (.ofList (d.values.map fun v => (.quoted v.value.text, .quoted v.suffix))))

end DimensionPlan

namespace Plan

/-- The statements that gather the classes of a selection. -/
def statements (p : Plan) : Lookup → List Statement
  | .branches => p.dimensions.flatMap DimensionPlan.branchStatements
  | .table name => p.inhabited.map (DimensionPlan.lookupStatement name.text)

/-- The body of a resolver. -/
def body (p : Plan) (lookup : Lookup) : List Statement :=
  .declare classLocal (.quoted p.base) :: p.statements lookup

/-- The parameters of a resolver. -/
def parameters (p : Plan) : List Parameter := p.dimensions.map DimensionPlan.parameter

/-- What a function from a selection to a class text takes its argument as. -/
def classHead (p : Plan) : Head :=
  match p.parameters with
  | [] => .whole "_"
  | q :: qs => .properties (q :: qs) none

/-- What a component takes its argument as. -/
def componentHead (p : Plan) : Head := .properties p.parameters (some PropsName.others.text)

/-- The literal of a table. -/
def tableTerm (p : Plan) : Term :=
  .object (.cons (.plain "__proto__") .null
    (.ofList (p.inhabited.map fun d => (.plain d.name.text, d.tableTerm))))

end Plan

/-- The name and the literal of a table. -/
def Table.declaration (t : Table) : String × Term := (t.name.text, t.plan.tableTerm)

namespace Target

/-- The term that a target is written as. -/
def elementTerm : Target → Term
  | .tag t => .quoted t.text
  | .component b => .name b.text

/-- The caller's properties in a resolver: filtered for an element, as they are for a component. -/
def propsTerm : Target → Term
  | .tag _ => .call (.name Helper.filterProps.alias) (.name PropsName.others.text)
  | .component _ => .name PropsName.others.text

/-- **What a component returns**: an element with the class that has been gathered, before that of
the caller. -/
def creation (t : Target) : Term :=
  .call₂ (.name Helper.createElement.alias) t.elementTerm (.object (.spread t.propsTerm
    (.cons (.plain "className") (.call₂ (.name Helper.mergeClasses.alias) (.name classLocal)
      (.member (.name PropsName.others.text) "className")) .nil)))

end Target

/-- The class and the name that a component shows. -/
def exposedEntries (className display : String) : Entries :=
  .cons (.plain "className") (.quoted className)
    (.cons (.plain "displayName") (.quoted display) .nil)

namespace Plan

variable (p : Plan) (lookup : Lookup)

/-- The function from a selection to a class text. -/
def classResolver : Resolver := ⟨p.classHead, p.body lookup, .name classLocal⟩

/-- The component whose class depends on a selection. -/
def componentResolver (target : Target) : Resolver :=
  ⟨p.componentHead, p.body lookup, target.creation⟩

/-- **The functions that carry out a plan.** -/
inductive IsResolver : Resolver → Prop
  /-- A function from a selection to a class text. -/
  | className : IsResolver (p.classResolver lookup)
  /-- A component. -/
  | component (target : Target) : IsResolver (p.componentResolver lookup target)

end Plan

/-- The program that a replacement is the text of, if it is a resolver. -/
def Replacement.program? (r : Replacement) : Option Program :=
  match r.code with
  | .classResolver plan lookup =>
    some ⟨r.table.map Table.declaration, plan.classResolver lookup, none⟩
  | .componentResolver plan lookup target display =>
    some ⟨r.table.map Table.declaration, plan.componentResolver lookup target,
      some (exposedEntries plan.base display)⟩
  | _ => none

/-! ## The text of a program -/

/-- A scalar is written as its text. -/
lemma ScalarKey.text_term (k : ScalarKey) : k.term.text = k.text := by
  cases k with
  | bool b => rfl
  | integer n =>
    rw [term, ScalarKey.text, Int.toString_eq_repr, Int.repr_eq_if]
    split <;> simp [Term.text]

/-- The test of a branch is written as its text. -/
lemma ValuePlan.text_testTerm (name : String) (v : ValuePlan) :
    (v.testTerm name).text = v.test name := by
  unfold testTerm test
  cases v.key? with
  | none => rfl
  | some k => simp [Term.text, ScalarKey.text_term, ← String.append_assoc]

/-- A chain is written as its branches, one a line.

**Proof sketch.** Induction on the values behind the first. The rest of the chain is the statement
behind `else`, so its first line starts with this word. -/
lemma ValuePlan.text_chain (name : String) (vs : List ValuePlan) :
    ∀ (keyword : String) (v : ValuePlan),
      "  " ++ keyword ++ (chain name v vs).text ++ "\n" =
        v.branch name (keyword ++ "if") ++
          Text.concat (vs.map fun w => w.branch name "else if") := by
  induction vs with
  | nil =>
    intro keyword v
    unfold branch
    apply String.toList_injective
    simp [chain, Statement.text, gather, text_testTerm, Term.text, Text.concat]
  | cons w vs ih =>
    intro keyword v
    have hnext : "  else " ++ (chain name w vs).text ++ "\n" = w.branch name "else if" ++
        Text.concat (vs.map fun w => w.branch name "else if") := ih "else " w
    rw [List.map_cons, Text.concat, ← hnext]
    unfold branch
    apply String.toList_injective
    simp [chain, Statement.text, gather, text_testTerm, Term.text]

/-- The chain of a dimension is written as its branches. -/
lemma DimensionPlan.linesOf_branchStatements (d : DimensionPlan) :
    Script.linesOf d.branchStatements = d.branches := by
  unfold branchStatements branches
  cases d.values with
  | nil => rfl
  | cons v vs =>
    have h := ValuePlan.text_chain d.name.text vs "" v
    simpa [Script.linesOf, Text.concat] using h

/-- The look-up of a dimension is written as its text. -/
lemma DimensionPlan.text_lookupStatement (table : String) (d : DimensionPlan) :
    "  " ++ (d.lookupStatement table).text ++ "\n" = d.lookup table := by
  have hs : Text.scriptQuote "string" = "\"string\"" := rfl
  have hb : Text.scriptQuote "boolean" = "\"boolean\"" := rfl
  have he : Text.scriptQuote "" = "\"\"" := rfl
  unfold lookupStatement guardTerm lookup
  simp only [Statement.text, Term.text, hs, hb, he]
  apply String.toList_injective
  simp

/-- The texts of two lists of texts one after the other. -/
lemma Text.concat_append (a b : List String) : concat (a ++ b) = concat a ++ concat b := by
  induction a with
  | nil => simp [concat]
  | cons s a ih => simp [concat, ih, String.append_assoc]

/-- The statements of a plan are written as the text of its look-up.

**Proof sketch.** Tests give the lines of one dimension after the other, and look-ups one line for
each dimension with a value. -/
lemma Plan.linesOf_statements (p : Plan) (lookup : Lookup) :
    Script.linesOf (p.statements lookup) = lookup.text p := by
  cases lookup with
  | branches =>
    simp only [statements, Lookup.text]
    induction p.dimensions with
    | nil => rfl
    | cons d ds ih =>
      rw [List.flatMap_cons, List.map_cons, Text.concat, ← ih, ← d.linesOf_branchStatements]
      simp [Script.linesOf, Text.concat_append]
  | table name =>
    have hmap : (p.inhabited.map (DimensionPlan.lookupStatement name.text)).map
        (fun s => "  " ++ s.text ++ "\n") = p.inhabited.map (DimensionPlan.lookup name.text) := by
      rw [List.map_map]
      exact List.map_congr_left fun d _ => d.text_lookupStatement name.text
    rw [statements, Script.linesOf, hmap, Lookup.text]

/-- The body of a resolver is written as its text. -/
lemma Plan.text_body (p : Plan) (lookup : Lookup) (result : String) :
    "\x7b\n" ++ Script.linesOf (p.body lookup) ++ "  return " ++ result ++ ";\n\x7d" =
      resolverBody p lookup result := by
  have h : Script.linesOf (p.body lookup) =
      "  let " ++ classLocal ++ " = " ++ Text.scriptQuote p.base ++ ";\n" ++ lookup.text p := by
    rw [body, Script.linesOf, List.map_cons, Text.concat, ← p.linesOf_statements lookup]
    apply String.toList_injective
    simp [Script.linesOf, Statement.text, Term.text]
  rw [h]
  unfold resolverBody
  apply String.toList_injective
  simp

/-- Texts with one more in front. -/
lemma Text.join_cons (sep s : String) {rest : List String} (h : rest ≠ []) :
    join sep (s :: rest) = s ++ sep ++ join sep rest := by
  cases rest with
  | nil => exact absurd rfl h
  | cons t rest => rfl

/-- The parameters of a plan are written as their texts. -/
lemma Plan.text_parameters (p : Plan) : p.parameters.map Parameter.text = p.params := by
  unfold parameters params
  rw [List.map_map]
  refine List.map_congr_left fun d _ => ?_
  cases hd : d.default <;> simp [DimensionPlan.parameter, Parameter.text, hd]

/-- An object literal that starts with `__proto__: null` is written with that in front. -/
lemma text_object {entries : List (Label × Term)} (h : entries ≠ []) :
    (Term.object (.cons (.plain "__proto__") .null (.ofList entries))).text =
      braced ("__proto__: null, " ++
        Text.join ", " (entries.map fun e => e.1.text ++ ": " ++ e.2.text)) := by
  have hne : entries.map (fun e => e.1.text ++ ": " ++ e.2.text) ≠ [] := by simpa using h
  rw [Term.text, Entries.texts, Entries.texts_ofList, Text.join_cons _ _ hne]
  simp [Label.text, Term.text]

/-- The entries of a dimension are written as their text. -/
lemma DimensionPlan.text_tableTerm {d : DimensionPlan} (h : d.values ≠ []) :
    d.name.text ++ ": " ++ d.tableTerm.text = d.tableText := by
  have hmap : (d.values.map fun v => (Label.quoted v.value.text, Term.quoted v.suffix)).map
      (fun e => e.1.text ++ ": " ++ e.2.text) =
      d.values.map fun v => Text.scriptQuote v.value.text ++ ": " ++ Text.scriptQuote v.suffix := by
    rw [List.map_map]
    refine List.map_congr_left fun v _ => ?_
    simp only [Function.comp_apply, Label.text, Term.text]
  unfold tableTerm tableText
  rw [text_object (by simpa using h), hmap]

/-- The declaration of a table is written as its text. -/
lemma Table.text_declaration {t : Table} (h : t.plan.inhabited ≠ []) :
    "const " ++ t.declaration.1 ++ " = " ++ t.declaration.2.text ++ ";" = t.text := by
  have hmap : (t.plan.inhabited.map fun d => (Label.plain d.name.text, d.tableTerm)).map
      (fun e => e.1.text ++ ": " ++ e.2.text) = t.plan.inhabited.map DimensionPlan.tableText := by
    rw [List.map_map]
    refine List.map_congr_left fun d hd => ?_
    have hv : d.values ≠ [] := by simpa using (List.mem_filter.mp hd).2
    exact DimensionPlan.text_tableTerm hv
  unfold declaration Plan.tableTerm Table.text
  rw [text_object (by simpa using h), hmap]

/-- A function from a selection to a class text is the text of what it takes its argument as,
followed by its body. -/
lemma Plan.text_classHead (p : Plan) (lookup : Lookup) :
    "(" ++ p.classHead.text ++ ") => " ++ resolverBody p lookup classLocal =
      (Code.classResolver p lookup).text := by
  simp only [Code.text, classHead, ← p.text_parameters]
  cases p.parameters <;> rfl

/-- What a component takes its argument as is written as its text. -/
lemma Plan.text_componentHead (p : Plan) :
    p.componentHead.text =
      braced (Text.join ", " (p.params ++ ["..." ++ PropsName.others.text])) := by
  rw [componentHead, Head.text, p.text_parameters]

/-- What a component returns is written as its text. -/
lemma Target.text_creation (t : Target) :
    t.creation.text = Render.text ⟨t, .others, none, .gathered⟩ := by
  cases t <;> apply String.toList_injective <;>
    simp [creation, elementTerm, propsTerm, Render.text, Target.text, Render.spread, ClassExpr.text,
      Label.text, Text.join, braced]

/-- The class and the name that a component shows are written as their text. -/
lemma text_exposedEntries (callable className display : String) :
    pureMark ++ "Object.assign(" ++ callable ++ ", " ++
        (Term.object (exposedEntries className display)).text ++ ")" =
      exposing callable (Text.scriptQuote className) display := by
  apply String.toList_injective
  simp [exposedEntries, exposing, Text.join, Label.text, braced]

/-- **A replacement is the text of its program.** -/
theorem Replacement.text_program {r : Replacement} {p : Program} (hp : r.program? = some p) :
    p.text = r.code.text := by
  unfold program? at hp
  split at hp
  · next plan lookup hcode =>
    cases hp
    rw [hcode]
    simp only [Program.text, Resolver.text, Resolver.block, Plan.classResolver,
      plan.text_body, Term.text, plan.text_classHead]
  · next plan lookup target display hcode =>
    cases hp
    rw [hcode]
    simp only [Program.text, Resolver.text, Resolver.block, Plan.componentResolver, Code.text,
      plan.text_componentHead, plan.text_body, target.text_creation, text_exposedEntries]
  · cases hp

end StyleExtract
