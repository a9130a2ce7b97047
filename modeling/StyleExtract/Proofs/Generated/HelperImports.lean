import Mathlib.Data.List.Nodup
import Mathlib.Tactic.Common
import StyleExtract.Proofs.Generated.Runs
import StyleExtract.Proofs.Script.Binders

/-!
# The helpers that are imported

Generated code refers to helpers by fixed names, which the file has to import. Which of them are
imported is remembered while code is made, apart from the texts. This file reads the import lines
back and compares the names that they bind with the names that the code of a whole run refers to.

## Main definitions

* `Code.references` — the names that a replacement refers to.
* `Usage.has`, `Usage.declarations` — the helpers in use, and the imports for them.

## Main results

* `Code.helper_mem_words_iff` — the helpers that the words of a replacement refer to.
* `Generator.Answers.alias_mem_references_iff` — the names of helpers among its references.
* `Generator.has_usage_run` — which helpers a generator has in use after a run.
* `helpers_imported_iff_referred` — the helpers that are imported are those that are referred to.

## Design

The author may call a component like a helper, and copied source may hold anything. Both are the
author's own and are not counted among the references of generated code.
-/

namespace StyleExtract

open Script (NamedImport readImport?)

/-! ## References -/

/-- The words of a layout. -/
def Layout.words (l : Layout) : List Word := l.front ++ (l.function ++ l.back)

namespace Code

/-- The components that the author names in a replacement. -/
def authorNames : Code → List String
  | .nothing | .name _ | .classResolver .. => []
  | .component render exposed _ => render.target.names ++ render.className.names ++ exposed.names
  | .componentResolver _ _ target _ => target.names

/-- **The names that a replacement refers to**, without those of components that the author
names. -/
def references (c : Code) : List String :=
  c.layout.words.filterMap Word.inside? ++
    (c.layout.words.filterMap Word.outside?).filter (· ∉ c.authorNames) ++
    (c.layout.words.filterMap Word.helper?).map Helper.alias

end Code

/-- Whether a helper is in use. -/
def Usage.has (u : Usage) : Helper → Bool
  | .createElement => u.createElement
  | .mergeClasses => u.mergeClasses
  | .filterProps => u.filterProps

/-- A helper is in use in one of two pieces of code if it is in either. -/
@[simp] lemma Usage.has_union (a b : Usage) (h : Helper) :
    (a.union b).has h = (a.has h || b.has h) := by
  cases h <;> rfl

/-! ## The helpers of a replacement -/

/-- The helper that a class expression refers to. -/
def ClassExpr.helpers : ClassExpr → List Helper
  | .after _ _ => [.mergeClasses]
  | .literal _ | .gathered | .classOf _ => []

/-- The helper that the caller's properties go through. -/
def Target.helpers : Target → List Helper
  | .tag _ => [.filterProps]
  | .component _ => []

/-- The helpers that a class expression refers to. -/
lemma ClassExpr.helper_words (e : ClassExpr) : e.words.filterMap Word.helper? = e.helpers := by
  cases e <;> rfl

namespace Render

variable (r : Render)

/-- The helpers that a creation refers to. -/
lemma helper_words : r.words.filterMap Word.helper? =
    .createElement :: (r.target.helpers ++ .mergeClasses :: r.className.helpers) := by
  obtain ⟨target, props, attrs, className⟩ := r
  cases target <;> cases attrs <;> cases className <;> rfl

/-- A creation has in use the helpers that it refers to. -/
lemma has_uses_iff (h : Helper) :
    r.uses.has h = true ↔ h ∈ r.words.filterMap Word.helper? := by
  rw [r.helper_words]
  obtain ⟨target, props, attrs, className⟩ := r
  cases target <;> cases className <;> cases h <;>
    simp [uses, Usage.has, Target.helpers, ClassExpr.helpers]

end Render

/-- A branch refers to no helper. -/
lemma ValuePlan.helper_branchWords (name : String) (keyword : Mark) (v : ValuePlan) :
    (v.branchWords name keyword).filterMap Word.helper? = [] := by
  unfold branchWords testWords
  cases v.key? <;> rfl

/-- The statements that gather classes refer to no helper. -/
lemma Lookup.helper_words (plan : Plan) (lookup : Lookup) :
    (lookup.words plan).filterMap Word.helper? = [] := by
  cases lookup with
  | branches => exact filterMap_branches_eq_nil plan ValuePlan.helper_branchWords
  | table name =>
    rw [words, List.filterMap_flatMap, List.flatMap_eq_nil_iff]
    intro d _
    rfl

namespace Code

variable (c : Code)

/-- **A replacement has in use the helpers that its words refer to.**

**Proof sketch.** One case for each kind of code. The words in front of a function and behind it
refer to no helper that the function does not need, so what counts is the creation of the element,
and look-ups need none. -/
theorem helper_mem_words_iff (h : Helper) :
    h ∈ c.layout.words.filterMap Word.helper? ↔ c.uses.has h = true := by
  have hbinder := filterMap_binder_eq_nil (f := Word.helper?) fun _ => rfl
  unfold Layout.words
  rw [List.filterMap_append, List.filterMap_append]
  cases c with
  | nothing | name s => cases h <;> simp [layout, uses, Usage.has, mark, Word.helper?]
  | component render exposed display =>
    have hfront : (component render exposed display).layout.front.filterMap Word.helper? = [] := rfl
    have hfunction : (component render exposed display).layout.function.filterMap Word.helper? =
        render.words.filterMap Word.helper? := rfl
    have hback : (component render exposed display).layout.back.filterMap Word.helper? =
        exposed.helpers := by cases exposed <;> rfl
    -- the class that is shown needs no helper that the creation does not need
    have hmerge : exposed.helpers ⊆ render.words.filterMap Word.helper? := by
      rw [render.helper_words]
      cases exposed <;> simp [ClassExpr.helpers]
    rw [hfront, hfunction, hback, List.nil_append, List.mem_append]
    exact ⟨fun hh => (render.has_uses_iff h).mpr (hh.elim id fun hh => hmerge hh),
      fun hh => .inl ((render.has_uses_iff h).mp hh)⟩
  | classResolver plan lookup =>
    rw [plan.filterMap_classResolver (fun _ => rfl) (fun _ => rfl), lookup.helper_words, hbinder]
    cases h <;> simp [layout, own, uses, Usage.has, Word.helper?]
  | componentResolver plan lookup target display =>
    have hfront : (componentResolver plan lookup target display).layout.front.filterMap
        Word.helper? = [] := rfl
    have hback : (componentResolver plan lookup target display).layout.back.filterMap
        Word.helper? = [] := rfl
    rw [hfront, hback, plan.filterMap_componentResolver (fun _ => rfl) (fun _ => rfl),
      lookup.helper_words, hbinder, List.append_nil, List.nil_append, List.nil_append,
      List.nil_append]
    exact (Render.has_uses_iff ⟨target, .others, none, .gathered⟩ h).symm

/-- The table that a replacement looks keys up in. -/
def tableName? : Code → Option Binding
  | .classResolver _ (.table b) | .componentResolver _ (.table b) _ _ => some b
  | _ => none

/-- The names from outside that look-ups refer to. -/
lemma mem_lookup_names {plan : Plan} {lookup : Lookup} {x : String} (hx : x ∈ lookup.names plan) :
    x = "Number" ∨ ∃ b, lookup = .table b ∧ x = b.text := by
  cases lookup with
  | branches => exact absurd hx List.not_mem_nil
  | table b =>
    obtain ⟨d, -, hx⟩ := List.mem_flatMap.mp hx
    exact (List.mem_pair.mp hx).imp_right fun hx => ⟨b, rfl, hx⟩

/-- **The names from outside that a replacement refers to**, besides helpers: those that the author
names, two global objects and its table.

**Proof sketch.** One case for each kind of code: the words in front of the function name the global
object, those of look-ups name their table and the other global object, and those of a creation name
what the author wrote. -/
lemma mem_outside_words {x : String} (hx : x ∈ c.layout.words.filterMap Word.outside?) :
    x ∈ c.authorNames ∨ x = "Object" ∨ x = "Number" ∨ ∃ b ∈ c.tableName?, x = b.text := by
  unfold Layout.words at hx
  rw [List.filterMap_append, List.filterMap_append, c.outside_layout, List.mem_append,
    List.mem_append] at hx
  cases c with
  | nothing | name s => simp [layout, outsideNames, Word.outside?] at hx
  | component render exposed display =>
    have hback : (component render exposed display).layout.back.filterMap Word.outside? =
        exposed.names := by cases exposed <;> rfl
    rw [hback] at hx
    rcases hx with hx | hx | hx
    · exact .inr (.inl (List.mem_singleton.mp hx))
    · exact .inl (List.mem_append_left _ hx)
    · exact .inl (List.mem_append_right _ hx)
  | classResolver plan lookup =>
    rcases hx with hx | hx | hx
    · exact absurd hx List.not_mem_nil
    · rcases mem_lookup_names hx with hx | ⟨b, rfl, hb⟩
      · exact .inr (.inr (.inl hx))
      · exact .inr (.inr (.inr ⟨b, rfl, hb⟩))
    · exact absurd hx List.not_mem_nil
  | componentResolver plan lookup target display =>
    rcases hx with hx | hx | hx
    · exact .inr (.inl (List.mem_singleton.mp hx))
    · rcases List.mem_append.mp hx with hx | hx
      · rcases mem_lookup_names hx with hx | ⟨b, rfl, hb⟩
        · exact .inr (.inr (.inl hx))
        · exact .inr (.inr (.inr ⟨b, rfl, hb⟩))
      · exact .inl hx
    · exact absurd hx List.not_mem_nil

/-- A closed replacement refers to no helper as to a name of its own. -/
lemma alias_notMem_inside {c : Code} (hc : c.layout.Closed) (h : Helper) :
    h.alias ∉ c.layout.words.filterMap Word.inside? := by
  unfold Layout.words
  rw [List.filterMap_append, List.filterMap_append, hc.front.1, hc.back.1, List.nil_append,
    List.append_nil]
  intro hmem
  have hdeclared := hc.function hmem
  rw [c.declaredNames_layout] at hdeclared
  exact c.alias_notMem_declaredNames h hdeclared

end Code

/-- A helper is determined by its name. -/
lemma Helper.alias_injective : Function.Injective Helper.alias := by
  intro a b
  cases a <;> cases b <;> decide

namespace Generator.Answers

variable {g : Generator} {q : Request} {r : Replacement}

/-- The code of an answer is closed. -/
lemma closed (h : g.Answers q r) : r.code.layout.Closed := by
  cases h with
  | construct c name? => exact closed_constructCode c name?
  | renderAs a => exact Code.closed_component rfl rfl rfl _
  | branches base hs => exact closed_resolverCode _ _ _
  | table base hs hname => exact closed_resolverCode _ _ _

/-- The code of an answer looks keys up in a table with a name that was next, if in any.

**Proof sketch.** Only an answer with a table looks anything up, and its code is made with the name
of that table. -/
lemma name_lookup (h : g.Answers q r) :
    ∀ name ∈ r.code.tableName?, ∃ varName, name.text = g.tableName varName := by
  cases h with
  | construct c name? =>
    have hnone : (constructCode c name?).tableName? = none := by
      unfold constructCode
      split <;> rfl
    simp [hnone]
  | renderAs a => simp [Code.tableName?]
  | @branches v base hs =>
    have hnone : (resolverCode v base .branches).tableName? = none := by
      unfold resolverCode
      cases v.variants.kind <;> rfl
    simp [hnone]
  | @table v base name hs hname =>
    have hsome : (resolverCode v base (.table name)).tableName? = some name := by
      unfold resolverCode
      cases v.variants.kind <;> rfl
    intro name' hname'
    obtain rfl : name = name' := by simpa [hsome] using hname'
    exact ⟨_, hname⟩

/-- **The helpers that an answer refers to** are those that it has in use, by its words and by what
is remembered of it.

**Proof sketch.** The words of the code refer to names of its own, to names from outside and to
helpers. A name of its own is never the alias of a helper, and of those from outside only what the
author wrote could be one, which is not counted. -/
theorem alias_mem_references_iff (h : g.Answers q r) (helper : Helper) :
    helper.alias ∈ r.code.references ↔ r.code.uses.has helper = true := by
  rw [← r.code.helper_mem_words_iff, Code.references, List.mem_append, List.mem_append]
  constructor
  · rintro ((hinside | houtside) | hhelper)
    · exact absurd hinside (Code.alias_notMem_inside h.closed helper)
    · obtain ⟨houtside, hauthor⟩ := List.mem_filter.mp houtside
      rcases r.code.mem_outside_words houtside with hx | hx | hx | ⟨name, hname, hx⟩
      · simp [hx] at hauthor
      · exact absurd hx (by cases helper <;> decide)
      · exact absurd hx (by cases helper <;> decide)
      · obtain ⟨varName, htable⟩ := h.name_lookup name hname
        have hshort : helper.alias.length ≤ 15 := by cases helper <;> decide
        exact absurd (hx.trans htable).symm (g.tableName_ne hshort varName)
    · obtain ⟨other, hother, halias⟩ := List.mem_map.mp hhelper
      exact Helper.alias_injective halias ▸ hother
  · exact fun hmem => .inr (List.mem_map_of_mem hmem)

end Generator.Answers

/-- **The helpers in use after a run** are those in use before and those of the code that was
made. -/
theorem Generator.has_usage_run (g : Generator) (qs : List Request) (helper : Helper) :
    (g.run qs).2.usage.has helper = true ↔
      g.usage.has helper = true ∨ ∃ e ∈ (g.run qs).1, e.2.code.uses.has helper = true := by
  refine run_induction (P := fun g log g' => g'.usage.has helper = true ↔
    g.usage.has helper = true ∨ ∃ e ∈ log, e.2.code.uses.has helper = true) ?_ ?_ g qs
  · simp
  · intro g g' q r log _ ih
    have husage : (g.emit r.code r.table).2.usage = g.usage.union r.code.uses := rfl
    rw [ih, husage, Usage.has_union, Bool.or_eq_true, or_assoc, List.exists_mem_cons_iff]

/-! ## The import lines -/

/-- The name under which a helper is exported. -/
def Helper.exported : Helper → String
  | .createElement => "createElement"
  | .mergeClasses => "cx"
  | .filterProps => "filterProps"

/-- The module that exports a helper; `runtime` is that of the last two. -/
def Helper.source (runtime : String) : Helper → String
  | .createElement => "react"
  | .mergeClasses | .filterProps => runtime

namespace Usage

variable (u : Usage) (runtime : String)

/-- The import of those helpers of a module that are in use. -/
def importOf (source : String) (helpers : List Helper) : NamedImport where
  names := (helpers.filter u.has).map fun h => (h.exported, h.alias)
  source := source

/-- The imports of the helpers in use. -/
def declarations : List NamedImport :=
  [u.importOf "react" [.createElement], u.importOf runtime [.mergeClasses, .filterProps]].filter
    fun i => !i.names.isEmpty

/-- The import lines are the texts of the imports. -/
lemma imports_eq : u.imports runtime = (u.declarations runtime).map NamedImport.text := by
  obtain ⟨element, classes, props⟩ := u
  cases element <;> cases classes <;> cases props <;> rfl

/-- The names that the imports bind are those of the helpers in use. -/
lemma locals_declarations : (u.declarations runtime).flatMap NamedImport.locals =
    ([.createElement, .mergeClasses, .filterProps].filter u.has).map Helper.alias := by
  obtain ⟨element, classes, props⟩ := u
  cases element <;> cases classes <;> cases props <;> rfl

/-- A name is bound exactly if its helper is in use. -/
lemma alias_mem_locals_iff (helper : Helper) :
    helper.alias ∈ (u.declarations runtime).flatMap NamedImport.locals ↔ u.has helper = true := by
  rw [locals_declarations, List.mem_map_of_injective Helper.alias_injective, List.mem_filter]
  exact and_iff_right (by cases helper <;> decide)

/-- No name is bound twice. -/
lemma nodup_locals : ((u.declarations runtime).flatMap NamedImport.locals).Nodup := by
  rw [locals_declarations]
  exact (List.Nodup.filter _ (by decide)).map Helper.alias_injective

variable {u runtime}

/-- Every import is of helpers, from the module that exports them. -/
lemma exists_helper_of_mem {i : NamedImport} (hi : i ∈ u.declarations runtime)
    {n : String × String} (hn : n ∈ i.names) :
    ∃ helper : Helper, n = (helper.exported, helper.alias) ∧ i.source = helper.source runtime := by
  have hpair := (List.mem_filter.mp hi).1
  rcases List.mem_pair.mp hpair with rfl | rfl
  · obtain ⟨helper, hmem, rfl⟩ := List.mem_map.mp hn
    obtain rfl := List.mem_singleton.mp (List.mem_filter.mp hmem).1
    exact ⟨.createElement, rfl, rfl⟩
  · obtain ⟨helper, hmem, rfl⟩ := List.mem_map.mp hn
    rcases List.mem_pair.mp (List.mem_filter.mp hmem).1 with rfl | rfl
    · exact ⟨.mergeClasses, rfl, rfl⟩
    · exact ⟨.filterProps, rfl, rfl⟩

/-- Every import has a name, and names that the language allows. -/
lemma wellFormed_of_mem {i : NamedImport} (hi : i ∈ u.declarations runtime) : i.WellFormed where
  nonempty := by simpa using (List.mem_filter.mp hi).2
  exported := by
    intro n hn
    obtain ⟨helper, rfl, -⟩ := exists_helper_of_mem hi hn
    cases helper <;> decide
  bound := by
    intro n hn
    obtain ⟨helper, rfl, -⟩ := exists_helper_of_mem hi hn
    cases helper <;> exact ⟨by decide, by decide⟩

/-- **The import lines are read back.** -/
lemma map_readImport?_imports :
    (u.imports runtime).map readImport? = (u.declarations runtime).map some := by
  rw [imports_eq, List.map_map]
  exact List.map_congr_left fun i hi => NamedImport.readImport?_text (wellFormed_of_mem hi)

end Usage

/-- **The helpers that are imported are those that generated code refers to**, after any requests,
of which any may be refused. The import lines are read back. No name is bound twice; a name is bound
exactly if it is that of a helper to which the code of some answer refers; and every helper comes
from its module. The code of every answer is the text of the words that were looked through.

**Proof sketch.** A helper is in use after a run exactly if the code of an answer uses it, by
induction on the requests, since a refused request leaves the usage as it was. The code of an answer
uses the helpers that its words refer to (`helper_mem_words_iff`), and the imports bind exactly the
helpers in use. -/
theorem helpers_imported_iff_referred (file : String) (threshold : ℕ) (requests : List Request)
    (runtime : String) :
    ∃ imports : List NamedImport,
      ((Generator.run ⟨file, threshold, 0, {}⟩ requests).2.usage.imports runtime).map readImport? =
        imports.map some ∧
      (imports.flatMap NamedImport.locals).Nodup ∧
      (∀ x, x ∈ imports.flatMap NamedImport.locals ↔ ∃ helper : Helper, x = helper.alias ∧
        ∃ e ∈ (Generator.run ⟨file, threshold, 0, {}⟩ requests).1, x ∈ e.2.code.references) ∧
      (∀ i ∈ imports, ∀ n ∈ i.names, ∃ helper : Helper,
        n = (helper.exported, helper.alias) ∧ i.source = helper.source runtime) ∧
      ∀ e ∈ (Generator.run ⟨file, threshold, 0, {}⟩ requests).1,
        e.2.code.layout.text = e.2.code.text := by
  generalize hg : Generator.mk file threshold 0 {} = g
  have hstart : ∀ helper, g.usage.has helper = false := by
    subst hg
    intro helper
    cases helper <;> rfl
  have hreferred : ∀ helper : Helper, (g.run requests).2.usage.has helper = true ↔
      ∃ e ∈ (g.run requests).1, helper.alias ∈ e.2.code.references := by
    intro helper
    rw [g.has_usage_run, hstart, Bool.false_eq_true, false_or]
    refine exists_congr fun e => and_congr_right fun he => ?_
    obtain ⟨g₁, -, hanswers⟩ := g.answers_of_mem_run requests e he
    exact (hanswers.alias_mem_references_iff helper).symm
  refine ⟨_, Usage.map_readImport?_imports, Usage.nodup_locals _ _, fun x => ?_,
    fun i hi n hn => Usage.exists_helper_of_mem hi hn, fun e _ => e.2.code.text_layout⟩
  constructor
  · intro hx
    obtain ⟨i, hi, hmem⟩ := List.mem_flatMap.mp hx
    obtain ⟨n, hn, rfl⟩ := List.mem_map.mp hmem
    obtain ⟨helper, rfl, -⟩ := Usage.exists_helper_of_mem hi hn
    exact ⟨helper, rfl, (hreferred helper).mp ((Usage.alias_mem_locals_iff _ _ helper).mp hx)⟩
  · rintro ⟨helper, rfl, hx⟩
    exact (Usage.alias_mem_locals_iff _ _ helper).mpr ((hreferred helper).mpr hx)

-- A component that the author has called like a helper is no reason to import the helper.
example :
    (Generator.run ⟨"f.js", 4, 0, {}⟩ [.renderAs
      { target := .component ⟨"__ss_filter", by decide⟩, source := ⟨"Link", by decide⟩,
        varName := "a", span := ⟨0, 0⟩ }]).2.usage.imports "runtime" =
      ["import \x7b createElement as __ss_h \x7d from \"react\";",
        "import \x7b cx as __ss_cx \x7d from \"runtime\";"] := by
  decide +kernel

end StyleExtract
