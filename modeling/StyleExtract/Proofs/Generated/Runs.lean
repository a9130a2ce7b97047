import Mathlib.Data.List.Nodup
import Mathlib.Tactic.Common
import StyleExtract.Proofs.Generated.Hygiene
import StyleExtract.Proofs.Generated.ReadBack

/-!
# Runs of a generator

One generator answers any number of requests, one after the other, and refuses some of them. This
file says what one request can do to it, follows a whole run, and shows that the tables of a run do
not get into each other's way: no two of them have the same name, whatever the variables are called,
and each piece of code looks classes up in its own.

## Main definitions

* `Request`, `Generator.answer` — a request and its answer.
* `Generator.run` — the answers to some requests, and the generator afterwards.
* `Generator.Answers` — what a request is answered with.
* `Generator.Numbered` — tables that are numbered one after the other.
* `Script.Program.lookups` — the variables in whose values a program looks keys up.

## Main results

* `Generator.answer_eq_ok` — what one request does.
* `Generator.run_induction` — what every answer keeps, a run keeps.
* `Generator.numbered_run` — the tables of a run are numbered.
* `tables_of_run_apart` — the tables of a run have names of their own and are used by the code that
  they were made for.

## Design

The number of a table stands behind the last `_` of its name, since digits have none. So tables with
different numbers have different names, also where a variable is called as if a number had been
added already.
-/

namespace StyleExtract

open Script (Entries Program Statement Term readDeclaration? readProgram?)

/-! ## Requests and runs -/

/-- **What a generator can be asked for.** -/
inductive Request where
  /-- The code of a tagged template under a class. -/
  | construct (c : Construct) (name? : Option String)
  /-- The code of a component rendered as something else. -/
  | renderAs (a : RenderAs)
  /-- The code of a variant definition under a base class. -/
  | variants (v : VariantUse) (base : String)

/-- Whether a request asks for a table. -/
def Request.isTabulated (threshold : ℕ) : Request → Bool
  | .variants v _ => Strategy.choose v.variants threshold = .lookupTable
  | .construct .. | .renderAs _ => false

namespace Generator

/-- The answer to a request, and the generator afterwards. -/
def answer (g : Generator) : Request → Except UnsafeName (Replacement × Generator)
  | .construct c name? => .ok (g.construct c name?)
  | .renderAs a => .ok (g.renderAs a)
  | .variants v base => g.variants v base

/-- **A run**: the requests that are not refused, each with its answer, and the generator
afterwards. A refused request leaves the generator as it is. -/
def run (g : Generator) : List Request → List (Request × Replacement) × Generator
  | [] => ([], g)
  | q :: qs =>
    match g.answer q with
    | .ok (r, g') => ((q, r) :: (g'.run qs).1, (g'.run qs).2)
    | .error _ => g.run qs

/-- What a request is answered with. -/
inductive Answers (g : Generator) : Request → Replacement → Prop where
  | construct (c : Construct) (name? : Option String) :
    Answers g (.construct c name?) ⟨constructCode c name?, none⟩
  | renderAs (a : RenderAs) :
    Answers g (.renderAs a)
      ⟨.component ⟨a.target, .whole, none, .classOf a.source⟩ (.classOf a.source) a.varName, none⟩
  | branches {v : VariantUse} (base : String)
    (hs : Strategy.choose v.variants g.threshold = .inlineBranches) :
    Answers g (.variants v base) ⟨resolverCode v base .branches, none⟩
  | table {v : VariantUse} (base : String) {name : Binding}
    (hs : Strategy.choose v.variants g.threshold = .lookupTable)
    (hname : name.text = g.tableName v.varName) :
    Answers g (.variants v base)
      ⟨resolverCode v base (.table name), some ⟨name, .ofVariants base v.variants⟩⟩

section Step

variable {g g' : Generator} {q : Request} {r : Replacement}

/-- **What one request does**: its answer is one of four kinds, and the generator remembers the
helpers of the code and counts the table. -/
theorem answer_eq_ok (h : g.answer q = .ok (r, g')) :
    g.Answers q r ∧ g' = (g.emit r.code r.table).2 := by
  cases q with
  | construct c name? =>
    cases h
    exact ⟨.construct c name?, rfl⟩
  | renderAs a =>
    cases h
    exact ⟨.renderAs a, rfl⟩
  | variants v base =>
    rcases variants_cases h with ⟨hs, hout⟩ | ⟨hs, name, hname, hout⟩
    · cases hout
      exact ⟨.branches base hs, rfl⟩
    · cases hout
      exact ⟨.table base hs hname, rfl⟩

/-- A request is answered with a table exactly if it asks for one. -/
lemma Answers.isSome_table (h : g.Answers q r) :
    r.table.isSome = q.isTabulated g.threshold := by
  cases h with
  | construct c name? => rfl
  | renderAs a => rfl
  | branches base hs => simp [Request.isTabulated, hs]
  | table base hs hname => simp [Request.isTabulated, hs]

/-- The table of an answer has the name that is next for a variable. -/
lemma Answers.name_table (h : g.Answers q r) : ∀ t ∈ r.table, ∃ varName,
    t.name.text = g.tableName varName := by
  cases h with
  | construct c name? => simp
  | renderAs a => simp
  | branches base hs => simp
  | table base hs hname =>
    rintro _ ⟨⟩
    exact ⟨_, hname⟩

end Step

/-- **Induction along a run**: what holds of a run without answers, and of a run with one more
answer in front, holds of every run, whatever is refused in between.

**Proof sketch.** Induction on the requests. A refused request is as if it had not been made, and
any other one adds its answer in front. -/
theorem run_induction {P : Generator → List (Request × Replacement) → Generator → Prop}
    (nil : ∀ g, P g [] g)
    (cons : ∀ {g g' : Generator} {q : Request} {r : Replacement} {log},
      g.Answers q r → P (g.emit r.code r.table).2 log g' → P g ((q, r) :: log) g')
    (g : Generator) (qs : List Request) : P g (g.run qs).1 (g.run qs).2 := by
  induction qs generalizing g with
  | nil => exact nil g
  | cons q qs ih =>
    cases h : g.answer q with
    | error e =>
      have hrun : g.run (q :: qs) = g.run qs := by simp only [run, h]
      rw [hrun]
      exact ih g
    | ok out =>
      obtain ⟨r, g₁⟩ := out
      obtain ⟨hanswers, rfl⟩ := answer_eq_ok h
      simp only [run, h]
      exact cons hanswers (ih _)

/-- Every answer of a run is the answer of a generator with the same threshold. -/
lemma answers_of_mem_run (g : Generator) (qs : List Request) :
    ∀ e ∈ (g.run qs).1, ∃ g₁ : Generator, g₁.threshold = g.threshold ∧ g₁.Answers e.1 e.2 := by
  refine run_induction (P := fun g log _ => ∀ e ∈ log,
    ∃ g₁ : Generator, g₁.threshold = g.threshold ∧ g₁.Answers e.1 e.2) ?_ ?_ g qs
  · exact fun g e he => absurd he List.not_mem_nil
  · intro g g' q r log hanswers hlog
    exact List.forall_mem_cons.mpr ⟨⟨g, rfl, hanswers⟩, hlog⟩

/-! ## The names of tables -/

/-- **Tables with different numbers have different names**, whatever the variables are called. -/
theorem tables_eq_of_tableName_eq {g₁ g₂ : Generator} {x y : String}
    (h : g₁.tableName x = g₂.tableName y) : g₁.tables = g₂.tables := by
  have hchars : ∀ (g : Generator) (x : String), (g.tableName x).toList =
      (generatedStart ++ x ++ "_variants").toList ++ '_' :: (toString g.tables).toList := by
    intro g x
    simp [tableName]
  rw [← String.toList_inj, hchars, hchars, Text.append_toString_inj (by decide)] at h
  exact h.2

/-- The name of a table is that of no helper and of no parameter or local of generated code. -/
lemma tableName_fresh (g : Generator) (varName : String) :
    (∀ helper : Helper, g.tableName varName ≠ helper.alias) ∧
    (∀ props : PropsName, g.tableName varName ≠ props.text) ∧
    g.tableName varName ≠ classLocal ∧
    ∀ c : Code, g.tableName varName ∉ c.layout.declaredNames := by
  refine ⟨fun helper => ?_, fun props => ?_, g.tableName_ne_classLocal varName, fun c => ?_⟩
  · exact g.tableName_ne (by cases helper <;> decide) varName
  · exact g.tableName_ne (by cases props <;> decide) varName
  · rw [c.declaredNames_layout]
    exact g.tableName_notMem_declaredNames varName c

/-- The tables that the answers of a run depend on. -/
def tablesOf (log : List (Request × Replacement)) : List Table := log.filterMap fun e => e.2.table

/-- **Tables that are numbered** from one number on up to another. -/
structure Numbered (start : ℕ) (log : List (Request × Replacement)) (stop : ℕ) : Prop where
  /-- Each table has a number from the first on in its name. -/
  number : ∀ t ∈ tablesOf log, ∃ (g : Generator) (varName : String),
    start ≤ g.tables ∧ t.name.text = g.tableName varName
  /-- No two have the same name. -/
  nodup : ((tablesOf log).map fun t => t.name.text).Nodup
  /-- There are as many as numbers. -/
  count : stop = start + (tablesOf log).length

/-- A table with the next number in front: all others have greater numbers.

**Proof sketch.** The number is part of the name, and all other tables have greater numbers, so the
new name is none of theirs. -/
lemma Numbered.cons {g : Generator} {log : List (Request × Replacement)} {stop : ℕ}
    (h : Numbered (g.tables + 1) log stop) {t : Table} {varName : String}
    (ht : t.name.text = g.tableName varName) (q : Request) (code : Code) :
    Numbered g.tables ((q, ⟨code, some t⟩) :: log) stop where
  number := by
    refine List.forall_mem_cons.mpr ⟨⟨g, varName, le_rfl, ht⟩, fun u hu => ?_⟩
    obtain ⟨g₁, x, hle, hx⟩ := h.number u hu
    exact ⟨g₁, x, by omega, hx⟩
  nodup := by
    refine List.nodup_cons.mpr ⟨fun hmem => ?_, h.nodup⟩
    obtain ⟨u, hu, htext⟩ := List.mem_map.mp hmem
    obtain ⟨g₁, x, hle, hx⟩ := h.number u hu
    have hnumber := tables_eq_of_tableName_eq (hx.symm.trans (htext.trans ht))
    omega
  count := by
    have hcount := h.count
    have hlength : (tablesOf ((q, ⟨code, some t⟩) :: log)).length = (tablesOf log).length + 1 := rfl
    omega

/-- **The tables of a run are numbered** from the number of tables before up to that afterwards. -/
theorem numbered_run (g : Generator) (qs : List Request) :
    Numbered g.tables (g.run qs).1 (g.run qs).2.tables := by
  refine run_induction (P := fun g log g' => Numbered g.tables log g'.tables) ?_ ?_ g qs
  · exact fun g => ⟨by simp [tablesOf], by simp [tablesOf], rfl⟩
  · rintro g g' q ⟨code, table⟩ log hanswers hlog
    cases table with
    | none => exact ⟨hlog.number, hlog.nodup, hlog.count⟩
    | some t =>
      obtain ⟨varName, hname⟩ := hanswers.name_table t rfl
      have htables : (g.emit code (some t)).2.tables = g.tables + 1 := rfl
      rw [htables] at hlog
      exact hlog.cons hname q code

end Generator

/-! ## Look-ups -/

namespace Script

/-- The variable that a chain of properties starts with. -/
def Term.root? : Term → Option String
  | .name x => some x
  | .member t _ | .index t _ => t.root?
  | _ => none

mutual

/-- The variables in whose values a term looks keys up that are values themselves. -/
def Term.lookups : Term → List (Option String)
  | .null | .bool _ | .numeral _ | .quoted _ | .name _ | .typeOf _ => []
  | .negated t | .group t | .member t _ => t.lookups
  | .same a b | .either a b | .both a b | .call a b => a.lookups ++ b.lookups
  | .call₂ f a b => f.lookups ++ (a.lookups ++ b.lookups)
  | .index t key => t.root? :: (t.lookups ++ key.lookups)
  | .object entries => entries.lookups

/-- The variables in whose values entries look keys up. -/
def Entries.lookups : Entries → List (Option String)
  | .nil => []
  | .cons _ t rest | .spread t rest => t.lookups ++ rest.lookups

end

/-- The variables in whose values a statement looks keys up. -/
def Statement.lookups : Statement → List (Option String)
  | .declare _ t | .append _ t => t.lookups
  | .when test yes => test.lookups ++ yes.lookups
  | .choose test yes no => test.lookups ++ (yes.lookups ++ no.lookups)

/-- **The variables in whose values a program looks keys up.** -/
def Program.lookups (p : Program) : List (Option String) :=
  p.resolver.body.flatMap Statement.lookups ++ p.resolver.result.lookups

end Script

/-- The look-up of a dimension is in the table. -/
lemma DimensionPlan.lookups_lookupStatement (table : String) (d : DimensionPlan) :
    (d.lookupStatement table).lookups = [some table] := by
  simp [lookupStatement, guardTerm, Statement.lookups, Term.lookups, Term.root?]

/-- The look-ups of a plan are in the table, one for each dimension that has a value. -/
lemma Plan.lookups_body (p : Plan) (name : Binding) :
    (p.body (.table name)).flatMap Statement.lookups = p.inhabited.map fun _ => some name.text := by
  have hbase : (Statement.declare classLocal (.quoted p.base)).lookups = [] := by
    simp [Statement.lookups, Term.lookups]
  rw [body, List.flatMap_cons, hbase, List.nil_append, statements, List.flatMap_map,
    List.map_eq_flatMap]
  simp only [DimensionPlan.lookups_lookupStatement]

/-- What a resolver returns looks no keys up. -/
lemma Plan.IsResolver.lookups_result {p : Plan} {lookup : Lookup} {f : Script.Resolver}
    (h : p.IsResolver lookup f) : f.result.lookups = [] := by
  cases h with
  | className => simp [classResolver, Term.lookups]
  | component target =>
    cases target <;> simp [componentResolver, Target.creation, Target.elementTerm,
      Target.propsTerm, Term.lookups, Entries.lookups]

/-- Code that is made with a table looks every key up in it. -/
lemma Generator.lookups_resolverCode (v : VariantUse) (base : String) (name : Binding)
    (hplan : (Plan.ofVariants base v.variants).inhabited ≠ []) :
    ∃ p, (Replacement.mk (resolverCode v base (.table name))
        (some ⟨name, .ofVariants base v.variants⟩)).program? = some p ∧
      p.lookups ≠ [] ∧ ∀ x ∈ p.lookups, x = some name.text := by
  obtain ⟨f, exposed, hprogram, hf⟩ := program?_resolverCode v base (.table name)
    (some ⟨name, .ofVariants base v.variants⟩)
  refine ⟨_, hprogram, ?_⟩
  have hlookups := Plan.lookups_body (.ofVariants base v.variants) name
  simp only [Program.lookups, hf.body_eq, hlookups, hf.lookups_result, List.append_nil]
  exact ⟨by simpa using hplan, by simp⟩

/-! ## The tables of a run -/

/-- The name that the text of a table declares. -/
def Table.declared? (t : Table) : Option String := (readDeclaration? t.text).map Prod.fst

/-- The text of a table declares its name. -/
lemma Table.declared?_eq (t : Table) : t.declared? = some t.name.text := by
  rw [declared?, t.readDeclaration?_text]
  rfl

open Generator (tablesOf)

/-- **Tables that do not get into each other's way**, or into that of anything else that generated
code declares. -/
structure TablesApart (threshold : ℕ) (log : List (Request × Replacement)) : Prop where
  /-- Every table declares a name. -/
  declared : ∀ t ∈ tablesOf log, t.declared?.isSome = true
  /-- No two tables declare the same one. -/
  nodup : ((tablesOf log).map Table.declared?).Nodup
  /-- It is neither that of a helper nor one that a generated function declares. -/
  fresh : ∀ t ∈ tablesOf log, ∀ x ∈ t.declared?, (∀ helper : Helper, x ≠ helper.alias) ∧
    (∀ props : PropsName, x ≠ props.text) ∧ x ≠ classLocal ∧
    ∀ e ∈ log, x ∉ e.2.code.layout.declaredNames
  /-- The code for a request that asks for a table reads as a program that looks keys up, and only
  in the table that it depends on. -/
  own : ∀ e ∈ log, e.1.isTabulated threshold = true → ∃ t p, e.2.table = some t ∧
    e.2.program? = some p ∧ p.text = e.2.code.text ∧
    readProgram? (some t.text) e.2.code.text = some p ∧ p.lookups ≠ [] ∧
    ∀ x ∈ p.lookups, x = t.declared?
  /-- There are as many tables as requests that ask for one and are not refused. -/
  count : (tablesOf log).length = log.countP fun e => e.1.isTabulated threshold

/-- Code for a request that asks for a table looks keys up in its own table. -/
lemma Generator.Answers.looks_up_own {g : Generator} {q : Request} {r : Replacement}
    (h : g.Answers q r) (hq : q.isTabulated g.threshold = true) :
    ∃ t p, r.table = some t ∧ r.program? = some p ∧ p.text = r.code.text ∧
      readProgram? (some t.text) r.code.text = some p ∧ p.lookups ≠ [] ∧
      ∀ x ∈ p.lookups, x = t.declared? := by
  cases h with
  | construct c name? => cases hq
  | renderAs a => cases hq
  | branches base hs => simp [Request.isTabulated, hs] at hq
  | @table v base name hs hname =>
    obtain ⟨p, hprogram, hne, hlookups⟩ := lookups_resolverCode v base name (inhabited_ne_nil hs)
    refine ⟨_, p, rfl, hprogram, Replacement.text_program hprogram,
      Replacement.readProgram?_text hprogram, hne, fun x hx => ?_⟩
    rw [hlookups x hx, Table.declared?_eq]

/-- A run has as many tables as answers to requests that ask for one. -/
lemma Generator.length_tablesOf_run (g : Generator) (qs : List Request) :
    (tablesOf (g.run qs).1).length = (g.run qs).1.countP fun e => e.1.isTabulated g.threshold := by
  have hsome : ∀ e ∈ (g.run qs).1, e.2.table.isSome = e.1.isTabulated g.threshold := by
    intro e he
    obtain ⟨g₁, hthreshold, hanswers⟩ := g.answers_of_mem_run qs e he
    rw [hanswers.isSome_table, hthreshold]
  rw [tablesOf, List.length_filterMap_eq_countP]
  exact List.countP_congr fun e he => by rw [hsome e he]

/-- **The tables of a run do not get into each other's way**, whatever is asked for, how often, and
under which names, and whatever is refused in between; and the generator counts them.

**Proof sketch.** Along a run the tables are numbered without gaps (`numbered_run`), and the number
is the last part of the name, so names differ. A name with the start of generated names and a number
behind it is that of no helper, parameter or local. Each answer is that of some generator
(`answers_of_mem_run`), so its look-ups go to the table that is handed out with it. -/
theorem tables_of_run_apart (file : String) (threshold : ℕ) (requests : List Request) :
    TablesApart threshold (Generator.run ⟨file, threshold, 0, {}⟩ requests).1 ∧
    (Generator.run ⟨file, threshold, 0, {}⟩ requests).2.tables =
      (tablesOf (Generator.run ⟨file, threshold, 0, {}⟩ requests).1).length := by
  generalize hg : Generator.mk file threshold 0 {} = g
  have hnumbered := g.numbered_run requests
  have hdeclared : Table.declared? = some ∘ fun t => t.name.text := by
    funext t
    exact t.declared?_eq
  refine ⟨⟨?_, ?_, ?_, ?_, ?_⟩, ?_⟩
  · intro t _
    rw [t.declared?_eq]
    rfl
  · rw [hdeclared, ← List.map_map]
    exact hnumbered.nodup.map fun _ _ => Option.some.inj
  · intro t ht x hx
    obtain ⟨g₁, varName, -, hname⟩ := hnumbered.number t ht
    obtain rfl : t.name.text = x := by simpa [t.declared?_eq] using hx
    obtain ⟨hhelpers, hprops, hlocal, hdeclaredNames⟩ := g₁.tableName_fresh varName
    rw [hname]
    exact ⟨hhelpers, hprops, hlocal, fun e _ => hdeclaredNames e.2.code⟩
  · intro e he hq
    obtain ⟨g₁, hthreshold, hanswers⟩ := g.answers_of_mem_run requests e he
    refine hanswers.looks_up_own ?_
    rw [hthreshold, ← hg]
    exact hq
  · rw [g.length_tablesOf_run, ← hg]
  · rw [hnumbered.count, ← hg]
    exact Nat.zero_add _

-- A variable that is called like the table of another one, behind one whose table is refused.
example :
    (tablesOf (Generator.run ⟨"f.js", 0, 0, {}⟩ (["a", "é", "a_variants_0"].map fun x =>
      .variants { Generator.sampleUse with varName := x } "b")).1).map (fun t => t.name.text) =
        ["__ss_a_variants_0", "__ss_a_variants_0_variants_1"] := by
  decide +kernel

end StyleExtract
