import Mathlib.Tactic.Common
import StyleExtract.Proofs.Generated.Words
import StyleExtract.Proofs.Resolver.Agreement
import StyleExtract.Proofs.Transform.Styles

/-!
# Which names generated functions capture

A generated function refers to names from outside: the helpers, a table, the global object `Number`,
and components that the author names. It also declares names of its own: the parameter `props` or
`__ss_props`, the local `__ss_c`, and one parameter for each dimension. Where a name is both, the
reference reaches the function's own name and not what it was written for. This file says for every
construct which names that happens to.

## Main definitions

* `Layout.Captures` — a name from outside that the function itself declares.
* `Layout.Closed` — what the function refers to as its own is declared in it.
* `Declaration.captured` — the names that are captured, read off a construct.

## Main results

* `Code.captures_iff` — the names that a replacement captures.
* `captures_emitted_iff` — the names that the code for a construct captures.
* `captured_names_of_emitted` — what is captured, and what never is.

## Design

The scope of every name that a generated function declares is the whole function: its parameters are
seen in its body, and its one local is declared at the top of the body. So a reference is captured
exactly if its name is declared anywhere in the function. Source text that is copied as it stands is
the author's own, and its names are not looked into.
-/

namespace StyleExtract

/-! ## The names of words -/

namespace Word

/-- The name that a word declares. -/
def declared? : Word → Option String
  | .binder x => some x
  | _ => none

/-- The parameter or local that a word refers to. -/
def inside? : Word → Option String
  | .reference x .inside => some x
  | _ => none

/-- The name from outside that a word refers to, unless it is that of a helper. -/
def outside? : Word → Option String
  | .reference x .outside => some x
  | _ => none

/-- The helper that a word refers to. -/
def helper? : Word → Option Helper
  | .helper h => some h
  | _ => none

end Word

namespace Layout

variable (l : Layout)

/-- The names from outside that the function refers to. -/
def outsideNames : List String :=
  l.function.filterMap Word.outside? ++ (l.function.filterMap Word.helper?).map Helper.alias

/-- The names that the function declares. -/
def declaredNames : List String := l.function.filterMap Word.declared?

/-- **A name that is captured**: the function refers to it from outside and declares it itself. -/
def Captures (x : String) : Prop := x ∈ l.outsideNames ∧ x ∈ l.declaredNames

instance (x : String) : Decidable (l.Captures x) :=
  inferInstanceAs (Decidable (x ∈ l.outsideNames ∧ x ∈ l.declaredNames))

/-- The parameters and locals that are referred to are declared by the function, and only the
function refers to them. -/
structure Closed : Prop where
  /-- What the function refers to as its own is declared in it. -/
  function : l.function.filterMap Word.inside? ⊆ l.declaredNames
  /-- Nothing is declared in front of the function or referred to as its own. -/
  front : l.front.filterMap Word.inside? = [] ∧ l.front.filterMap Word.declared? = []
  /-- Nothing is declared behind the function or referred to as its own. -/
  back : l.back.filterMap Word.inside? = [] ∧ l.back.filterMap Word.declared? = []

end Layout

/-! ## The names of the parts of a replacement -/

section Pieces

variable {α : Type} {f : Word → Option α}

/-- The names of words between braces. -/
lemma filterMap_bracedWords (hf : ∀ m, f (.mark m) = none) (ws : List Word) :
    (bracedWords ws).filterMap f = ws.filterMap f := by
  simp [bracedWords, mark, hf]

/-- The names of words with commas between them. -/
lemma filterMap_joinWords (hf : ∀ m, f (.mark m) = none) : ∀ parts : List (List Word),
    (joinWords parts).filterMap f = parts.flatMap (List.filterMap f)
  | [] => rfl
  | [ws] => by simp [joinWords]
  | a :: b :: parts => by simp [joinWords, mark, hf, filterMap_joinWords hf (b :: parts)]

/-- Where declarations do not count they have no names. -/
lemma filterMap_binder_eq_nil (hf : ∀ x, f (.binder x) = none) (xs : List String) :
    (xs.filterMap fun x => f (.binder x)) = [] :=
  List.filterMap_eq_nil_iff.mpr fun x _ => hf x

end Pieces

/-- The component that a target names. -/
def Target.names : Target → List String
  | .tag _ => []
  | .component b => [b.text]

/-- The component whose class a class expression uses. -/
def ClassExpr.names : ClassExpr → List String
  | .literal _ | .gathered => []
  | .classOf b | .after b _ => [b.text]

/-- The local that a class expression uses. -/
def ClassExpr.locals : ClassExpr → List String
  | .gathered => [classLocal]
  | .literal _ | .classOf _ | .after _ _ => []

namespace Render

variable (r : Render)

/-- A creation declares nothing. -/
lemma declared_words : r.words.filterMap Word.declared? = [] := by
  obtain ⟨target, props, attrs, className⟩ := r
  cases target <;> cases attrs <;> cases className <;> rfl

/-- Besides helpers a creation refers to the components that the author names. -/
lemma outside_words :
    r.words.filterMap Word.outside? = r.target.names ++ r.className.names := by
  obtain ⟨target, props, attrs, className⟩ := r
  cases target <;> cases attrs <;> cases className <;> rfl

/-- A creation refers to the parameter with the properties, twice, and to the local of its class.

**Proof sketch.** Tests and look-ups both name the dimension that they are for and the local to
which they add. -/
lemma inside_words : r.words.filterMap Word.inside? =
    r.props.text :: (r.className.locals ++ [r.props.text]) := by
  obtain ⟨target, props, attrs, className⟩ := r
  cases target <;> cases attrs <;> cases className <;> rfl

end Render

namespace ValuePlan

variable (name : String) (keyword : Mark) (v : ValuePlan)

/-- A branch declares nothing. -/
lemma declared_branchWords : (v.branchWords name keyword).filterMap Word.declared? = [] := by
  unfold branchWords testWords
  cases v.key? <;> rfl

/-- A branch refers to nothing outside. -/
lemma outside_branchWords : (v.branchWords name keyword).filterMap Word.outside? = [] := by
  unfold branchWords testWords
  cases v.key? <;> rfl

/-- A branch refers to its dimension and to the local. -/
lemma inside_branchWords :
    (v.branchWords name keyword).filterMap Word.inside? ⊆ [name, classLocal] := by
  unfold branchWords testWords
  cases v.key? with
  | none => exact List.Subset.refl [name, classLocal]
  | some key =>
    show [name, name, classLocal] ⊆ [name, classLocal]
    simp

end ValuePlan

namespace DimensionPlan

variable (d : DimensionPlan)

/-- What holds of the names of every branch holds of those of a chain. -/
lemma filterMap_branchesWords_subset {α : Type} {f : Word → Option α} {names : List α}
    (h : ∀ keyword (v : ValuePlan),
      (v.branchWords d.name.text keyword).filterMap f ⊆ names) :
    d.branchesWords.filterMap f ⊆ names := by
  unfold branchesWords
  cases d.values with
  | nil => simp
  | cons v vs =>
    rw [List.filterMap_append, List.filterMap_flatMap]
    refine List.append_subset.mpr ⟨h _ v, fun x hx => ?_⟩
    obtain ⟨w, -, hw⟩ := List.mem_flatMap.mp hx
    exact h _ w hw

end DimensionPlan

namespace Lookup

variable (plan : Plan) (lookup : Lookup)

/-- The names from outside that the statements refer to: with a table its name and `Number`. -/
def names : List String :=
  match lookup with
  | .branches => []
  | .table name => plan.inhabited.flatMap fun _ => ["Number", name.text]

/-- Look-ups of at least one dimension refer to `Number` and to the table. -/
lemma mem_names_table {plan : Plan} (h : plan.inhabited ≠ []) {name : Binding} {x : String} :
    x ∈ (Lookup.table name).names plan ↔ x = "Number" ∨ x = name.text := by
  obtain ⟨d, hd⟩ := List.exists_mem_of_ne_nil _ h
  simp only [names, List.mem_flatMap, List.mem_pair]
  exact ⟨fun ⟨_, _, hx⟩ => hx, fun hx => ⟨d, hd, hx⟩⟩

/-- What no branch has, tests do not have. -/
lemma filterMap_branches_eq_nil {α : Type} {f : Word → Option α}
    (h : ∀ name keyword (v : ValuePlan), (v.branchWords name keyword).filterMap f = []) :
    (Lookup.branches.words plan).filterMap f = [] := by
  rw [words, List.filterMap_flatMap, List.flatMap_eq_nil_iff]
  intro d _
  refine List.subset_nil.mp (d.filterMap_branchesWords_subset fun keyword v => ?_)
  exact List.subset_nil.mpr (h _ keyword v)

/-- The statements that gather classes declare nothing. -/
lemma declared_words : (lookup.words plan).filterMap Word.declared? = [] := by
  cases lookup with
  | branches => exact filterMap_branches_eq_nil plan ValuePlan.declared_branchWords
  | table name =>
    rw [words, List.filterMap_flatMap, List.flatMap_eq_nil_iff]
    intro d _
    rfl

/-- Besides helpers, of which there are none, only tables refer to names from outside. -/
lemma outside_words : (lookup.words plan).filterMap Word.outside? = lookup.names plan := by
  cases lookup with
  | branches => exact filterMap_branches_eq_nil plan ValuePlan.outside_branchWords
  | table name =>
    rw [words, List.filterMap_flatMap]
    rfl

/-- The statements refer to the local and to dimensions. -/
lemma inside_words : (lookup.words plan).filterMap Word.inside? ⊆
    classLocal :: plan.dimensions.map fun d => d.name.text := by
  intro x hx
  cases lookup with
  | branches =>
    rw [words, List.filterMap_flatMap] at hx
    obtain ⟨d, hd, hx⟩ := List.mem_flatMap.mp hx
    have hown := d.filterMap_branchesWords_subset
      (fun keyword v => v.inside_branchWords d.name.text keyword) hx
    rcases List.mem_pair.mp hown with rfl | rfl
    · exact List.mem_cons_of_mem _ (List.mem_map_of_mem hd)
    · exact List.mem_cons_self
  | table name =>
    rw [words, List.filterMap_flatMap] at hx
    obtain ⟨d, hd, hx⟩ := List.mem_flatMap.mp hx
    have hown : x ∈ [classLocal, d.name.text, d.name.text, d.name.text, d.name.text] := hx
    have hdim : d ∈ plan.dimensions := (List.mem_filter.mp hd).1
    have hpair : x = classLocal ∨ x = d.name.text := by simpa using hown
    rcases hpair with rfl | rfl
    · exact List.mem_cons_self
    · exact List.mem_cons_of_mem _ (List.mem_map_of_mem hdim)

end Lookup

namespace Plan

variable (p : Plan)

/-- The names of the dimensions of a plan. -/
def names : List String := p.dimensions.map fun d => d.name.text

/-- The names that the parameter of a resolver declares that is no component. -/
def patternNames : List String := if p.dimensions = [] then ["_"] else p.names

/-- The parameter declares a name other than `_` exactly if a dimension has it. -/
lemma mem_patternNames_iff {x : String} (hx : x ≠ "_") : x ∈ p.patternNames ↔ x ∈ p.names := by
  unfold patternNames names
  split
  · next hnil => simp [hnil, hx]
  · rfl

section Roles

variable {α : Type} {f : Word → Option α} (hmark : ∀ m, f (.mark m) = none)
  (hquoted : ∀ s, f (.quoted s) = none)
include hmark hquoted

/-- The names of the parameters of a resolver are those of the dimensions. -/
lemma filterMap_paramWords : p.paramWords.flatMap (List.filterMap f) =
    p.names.filterMap fun x => f (.binder x) := by
  unfold paramWords names
  rw [List.flatMap_map]
  induction p.dimensions with
  | nil => rfl
  | cons d ds ih =>
    rw [List.flatMap_cons, ih, List.map_cons]
    cases d.default <;> cases hd : f (.binder d.name.text) <;> simp [mark, hmark, hquoted, hd]

/-- The names of the parameter of a resolver that is no component. -/
lemma filterMap_patternWords :
    p.patternWords.filterMap f = p.patternNames.filterMap fun x => f (.binder x) := by
  have hparams := p.filterMap_paramWords hmark hquoted
  unfold patternWords patternNames
  cases hwords : p.paramWords with
  | nil =>
    have hnil : p.dimensions = [] := by simpa [paramWords] using hwords
    rw [if_pos hnil]
    rfl
  | cons ws rest =>
    have hne : p.dimensions ≠ [] := by
      intro hnil
      simp [paramWords, hnil] at hwords
    rw [if_neg hne, ← hparams, hwords]
    dsimp only
    rw [filterMap_bracedWords hmark, filterMap_joinWords hmark]

/-- The names of the body of a resolver. -/
lemma filterMap_bodyWords (lookup : Lookup) (result : List Word) :
    (bodyWords p lookup result).filterMap f =
      [Word.binder classLocal].filterMap f ++ ((lookup.words p).filterMap f ++
        result.filterMap f) := by
  cases hlocal : f (.binder classLocal) <;> simp [bodyWords, mark, hmark, hquoted, hlocal]

/-- The names of a function from a selection to a class text. -/
lemma filterMap_classResolver (lookup : Lookup) :
    (Code.classResolver p lookup).layout.function.filterMap f =
      (p.patternNames ++ [classLocal]).filterMap (fun x => f (.binder x)) ++
        ((lookup.words p).filterMap f ++ [own classLocal].filterMap f) := by
  have hbody := p.filterMap_bodyWords hmark hquoted lookup [own classLocal]
  have hlocal : [Word.binder classLocal].filterMap f =
      [classLocal].filterMap fun x => f (.binder x) := rfl
  simp only [Code.layout, mark, List.filterMap_cons_none (hmark _), List.filterMap_append,
    p.filterMap_patternWords hmark hquoted, hbody, hlocal, List.append_assoc]

/-- The names of a component whose class depends on a selection. -/
lemma filterMap_componentResolver (lookup : Lookup) (target : Target) (display : String) :
    (Code.componentResolver p lookup target display).layout.function.filterMap f =
      (p.names ++ [PropsName.others.text, classLocal]).filterMap (fun x => f (.binder x)) ++
        ((lookup.words p).filterMap f ++
          (Render.words ⟨target, .others, none, .gathered⟩).filterMap f) := by
  have hbody := p.filterMap_bodyWords hmark hquoted lookup
    (Render.words ⟨target, .others, none, .gathered⟩)
  have hdeclared : [Word.binder PropsName.others.text].filterMap f ++
      [Word.binder classLocal].filterMap f =
      [PropsName.others.text, classLocal].filterMap fun x => f (.binder x) := by
    rw [← List.filterMap_append, List.singleton_append]
    rfl
  simp only [Code.layout, exposingLayout, mark, List.filterMap_cons_none (hmark _),
    List.filterMap_append, filterMap_bracedWords hmark, filterMap_joinWords hmark,
    List.flatMap_append, p.filterMap_paramWords hmark hquoted, List.flatMap_singleton, hbody,
    ← hdeclared, List.append_assoc]

end Roles

end Plan

/-! ## The names of a replacement -/

namespace Code

/-- The names that the function of a replacement declares. -/
def declaredNames : Code → List String
  | .nothing | .name _ => []
  | .component _ _ _ => [PropsName.whole.text]
  | .classResolver plan _ => plan.patternNames ++ [classLocal]
  | .componentResolver plan _ _ _ => plan.names ++ [PropsName.others.text, classLocal]

/-- The names other than those of helpers that the function of a replacement refers to from
outside. -/
def outsideNames : Code → List String
  | .nothing | .name _ => []
  | .component render _ _ => render.target.names ++ render.className.names
  | .classResolver plan lookup => lookup.names plan
  | .componentResolver plan lookup target _ => lookup.names plan ++ target.names

variable (c : Code)

/-- The function of a replacement declares what is listed. -/
lemma declaredNames_layout : c.layout.declaredNames = c.declaredNames := by
  have hbinder : (fun x => Word.declared? (.binder x)) = some := rfl
  unfold Layout.declaredNames
  cases c with
  | nothing => rfl
  | name s => rfl
  | component render exposed display =>
    have hrender := render.declared_words
    show PropsName.whole.text :: render.words.filterMap Word.declared? = [PropsName.whole.text]
    rw [hrender]
  | classResolver plan lookup =>
    rw [plan.filterMap_classResolver (fun _ => rfl) (fun _ => rfl), lookup.declared_words, hbinder,
      List.filterMap_some]
    exact List.append_nil _
  | componentResolver plan lookup target display =>
    rw [plan.filterMap_componentResolver (fun _ => rfl) (fun _ => rfl), lookup.declared_words,
      Render.declared_words, hbinder, List.filterMap_some]
    exact List.append_nil _

/-- Besides helpers the function of a replacement refers from outside to what is listed. -/
lemma outside_layout : c.layout.function.filterMap Word.outside? = c.outsideNames := by
  have hbinder := filterMap_binder_eq_nil (f := Word.outside?) fun _ => rfl
  cases c with
  | nothing => rfl
  | name s => rfl
  | component render exposed display => exact render.outside_words
  | classResolver plan lookup =>
    rw [plan.filterMap_classResolver (fun _ => rfl) (fun _ => rfl), lookup.outside_words, hbinder]
    exact List.append_nil _
  | componentResolver plan lookup target display =>
    rw [plan.filterMap_componentResolver (fun _ => rfl) (fun _ => rfl), lookup.outside_words,
      Render.outside_words, hbinder]
    simp [outsideNames, ClassExpr.names]

/-- **Generated names are not declared twice**: a name with the start of generated names is declared
by a generated function only if it is that of the parameter or of the local.

**Proof sketch.** One case for each kind of code. What a function declares besides the parameter and
the local are dimensions, and a dimension with the start of generated names is refused. -/
lemma notMem_declaredNames {x : String} (hstart : Text.startsWith generatedStart x = true)
    (hprops : x ≠ PropsName.others.text) (hlocal : x ≠ classLocal) : x ∉ c.declaredNames := by
  have hwhole : x ≠ PropsName.whole.text := by
    rintro rfl
    exact absurd hstart (by decide)
  have hunderscore : x ≠ "_" := by
    rintro rfl
    exact absurd hstart (by decide)
  -- a dimension with the start of generated names is refused
  have hnames : ∀ p : Plan, x ∉ p.names := by
    intro p hx
    obtain ⟨d, -, hd⟩ := List.mem_map.mp hx
    exact Name.dimension_ne hstart d.name hd
  cases c with
  | nothing | name s => exact List.not_mem_nil
  | component render exposed display => simpa [declaredNames] using hwhole
  | classResolver plan lookup =>
    have hpattern : x ∉ plan.patternNames := by
      unfold Plan.patternNames
      split
      · simpa using hunderscore
      · exact hnames plan
    simp [declaredNames, hpattern, hlocal]
  | componentResolver plan lookup target display =>
    simp [declaredNames, hnames plan, hprops, hlocal]

/-- No generated function declares the name of a helper. -/
lemma alias_notMem_declaredNames (h : Helper) : h.alias ∉ c.declaredNames := by
  cases h <;> exact c.notMem_declaredNames (by decide) (by decide) (by decide)

/-- **The names that a replacement captures** are listed on both sides. -/
theorem captures_iff (x : String) :
    c.layout.Captures x ↔ x ∈ c.outsideNames ∧ x ∈ c.declaredNames := by
  rw [Layout.Captures, Layout.outsideNames, c.outside_layout, c.declaredNames_layout,
    List.mem_append]
  constructor
  · rintro ⟨hx | hx, hdeclared⟩
    · exact ⟨hx, hdeclared⟩
    · -- a helper is no candidate, since no function declares its name
      obtain ⟨h, -, rfl⟩ := List.mem_map.mp hx
      exact absurd hdeclared (c.alias_notMem_declaredNames h)
  · rintro ⟨hx, hdeclared⟩
    exact ⟨.inl hx, hdeclared⟩

/-- The names that a function with look-ups captures, whose table it does not declare. -/
lemma captures_classResolver_table {plan : Plan} (hplan : plan.inhabited ≠ []) {name : Binding}
    (htable : name.text ∉ (classResolver plan (.table name)).declaredNames) {x : String} :
    (classResolver plan (.table name)).layout.Captures x ↔ x = "Number" ∧ x ∈ plan.names := by
  have hnumber : "Number" ∈ (classResolver plan (.table name)).declaredNames ↔
      "Number" ∈ plan.names := by
    rw [← plan.mem_patternNames_iff (by decide), declaredNames, List.mem_append,
      List.mem_singleton]
    exact or_iff_left (by decide)
  rw [captures_iff, outsideNames, Lookup.mem_names_table hplan]
  constructor
  · rintro ⟨rfl | rfl, hdeclared⟩
    · exact ⟨rfl, hnumber.mp hdeclared⟩
    · exact absurd hdeclared htable
  · rintro ⟨rfl, hdimension⟩
    exact ⟨.inl rfl, hnumber.mpr hdimension⟩

/-- The names that a component with look-ups captures, whose table it does not declare.

**Proof sketch.** The function refers to its target, to its table and to `Number`. The table is not
declared in it, the target may be, and `Number` is only as a dimension. -/
lemma captures_componentResolver_table {plan : Plan} (hplan : plan.inhabited ≠ []) {name : Binding}
    {target : Target} {display : String}
    (htable : name.text ∉ (componentResolver plan (.table name) target display).declaredNames)
    {x : String} : (componentResolver plan (.table name) target display).layout.Captures x ↔
      x ∈ target.names ∧ x ∈ plan.names ++ [PropsName.others.text, classLocal] ∨
        x = "Number" ∧ x ∈ plan.names := by
  have hnumber : "Number" ∈ plan.names ++ [PropsName.others.text, classLocal] ↔
      "Number" ∈ plan.names := by
    rw [List.mem_append]
    exact or_iff_left (by decide)
  rw [captures_iff, outsideNames, List.mem_append, Lookup.mem_names_table hplan]
  rw [declaredNames] at htable ⊢
  constructor
  · rintro ⟨(rfl | rfl) | hx, hdeclared⟩
    · exact .inr ⟨rfl, hnumber.mp hdeclared⟩
    · exact absurd hdeclared htable
    · exact .inl ⟨hx, hdeclared⟩
  · rintro (⟨hx, hdeclared⟩ | ⟨rfl, hdimension⟩)
    · exact ⟨.inr hx, hdeclared⟩
    · exact ⟨.inl (.inl rfl), hnumber.mpr hdimension⟩

/-- A component refers to no local, neither in its class nor in the class that it shows. -/
lemma closed_component {render : Render} {exposed : ClassExpr} (hclass : render.className.locals = [])
    (hexposed : exposed.locals = []) (hprops : render.props = .whole) (display : String) :
    (component render exposed display).layout.Closed := by
  refine ⟨?_, ⟨rfl, rfl⟩, ⟨?_, ?_⟩⟩
  · have hinside : (component render exposed display).layout.function.filterMap Word.inside? =
        render.words.filterMap Word.inside? := rfl
    rw [hinside, declaredNames_layout, render.inside_words, hclass, hprops]
    simp [declaredNames]
  · cases exposed with
    | gathered => cases hexposed
    | literal s | classOf b | after b s => rfl
  · cases exposed <;> rfl

/-- A function from a selection to a class text refers to its dimensions and to its local.

**Proof sketch.** The statements refer to dimensions and to the local (`inside_words`), and the
result is the local. The parameter declares all dimensions. -/
lemma closed_classResolver (plan : Plan) (lookup : Lookup) :
    (classResolver plan lookup).layout.Closed := by
  refine ⟨?_, ⟨rfl, rfl⟩, ⟨rfl, rfl⟩⟩
  have hpattern : plan.names ⊆ plan.patternNames := by
    unfold Plan.patternNames Plan.names
    split
    · next hnil => simp [hnil]
    · exact List.Subset.refl _
  have hbinder := filterMap_binder_eq_nil (f := Word.inside?) fun _ => rfl
  have hlookup := lookup.inside_words plan
  rw [plan.filterMap_classResolver (fun _ => rfl) (fun _ => rfl), declaredNames_layout, hbinder,
    List.nil_append]
  intro x hx
  rcases List.mem_append.mp hx with hx | hx
  · rcases List.mem_cons.mp (hlookup hx) with rfl | hx
    · simp [declaredNames]
    · exact List.mem_append_left _ (hpattern hx)
  · have hlocal : x = classLocal := by simpa [own, Word.inside?] using hx
    simp [declaredNames, hlocal]

/-- A component whose class depends on a selection refers to its dimensions, to the other properties
and to its local. -/
lemma closed_componentResolver (plan : Plan) (lookup : Lookup) (target : Target)
    (display : String) : (componentResolver plan lookup target display).layout.Closed := by
  refine ⟨?_, ⟨rfl, rfl⟩, ⟨rfl, rfl⟩⟩
  have hbinder := filterMap_binder_eq_nil (f := Word.inside?) fun _ => rfl
  have hlookup := lookup.inside_words plan
  rw [plan.filterMap_componentResolver (fun _ => rfl) (fun _ => rfl), declaredNames_layout, hbinder,
    List.nil_append, Render.inside_words]
  intro x hx
  rcases List.mem_append.mp hx with hx | hx
  · rcases List.mem_cons.mp (hlookup hx) with rfl | hx
    · simp [declaredNames]
    · exact List.mem_append_left _ hx
  · have hown : x ∈ [PropsName.others.text, classLocal, PropsName.others.text] := hx
    simp only [List.mem_cons, List.not_mem_nil, or_false] at hown
    rcases hown with rfl | rfl | rfl <;> simp [declaredNames]

end Code

/-! ## The names of constructs -/

/-- **The names that the code for a construct captures.** A component of the author is captured if
it is called `props`, and in a definition if it is called like a dimension, `__ss_props` or
`__ss_c`. The global object `Number`, to which only tables refer, is captured by a dimension of that
name. -/
def Declaration.captured (threshold : ℕ) : Declaration → List String
  | .construct c =>
    match c.kind with
    | .extension base => [base.text].filter (· = PropsName.whole.text)
    | _ => []
  | .renderAs r => (r.target.names ++ [r.source.text]).filter (· = PropsName.whole.text)
  | .variants v =>
    let dimensions := v.variants.values.keys.map Name.text
    let components := match v.variants.kind with
      | .component => (v.variants.target.map Target.names).getD []
      | .className => []
    let globals := match Strategy.choose v.variants threshold with
      | .lookupTable => ["Number"]
      | .inlineBranches => []
    components.filter (· ∈ dimensions ++ [PropsName.others.text, classLocal]) ++
      globals.filter (· ∈ dimensions)

/-- The names of the plan of a definition are those of its dimensions. -/
lemma Plan.names_ofVariants (base : String) (v : Variants) :
    (Plan.ofVariants base v).names = v.values.keys.map Name.text := by
  simp [Plan.names, Plan.ofVariants, OrderedMap.keys, Function.comp_def]

/-- Every template has a class but global styles. -/
lemma Naming.exists_ofConstruct? (naming : Naming) {c : Construct} (h : c.kind ≠ .globalStyle) :
    ∃ name, naming.ofConstruct? c = some name := by
  unfold ofConstruct?
  cases hk : c.kind with
  | globalStyle => exact absurd hk h
  | element | extension | attrs | scopedClass | keyframes => cases naming.mode <;> exact ⟨_, rfl⟩

namespace Generator

variable {naming : Naming} {threshold : ℕ}

/-- The names that a template captures: none but that of an extended component. -/
lemma captures_constructCode (c : Construct) (x : String) :
    (constructCode c (naming.ofConstruct? c)).layout.Captures x ↔
      x ∈ (Declaration.construct c).captured threshold := by
  rw [Code.captures_iff]
  cases hk : c.kind with
  | globalStyle => simp [constructCode, hk, Declaration.captured, Code.outsideNames]
  | extension base =>
    obtain ⟨name, hname⟩ := naming.exists_ofConstruct? (c := c) (by simp [hk])
    simp [constructCode, hk, hname, Declaration.captured, Code.outsideNames, Code.declaredNames,
      Target.names, ClassExpr.names]
  | element | attrs | scopedClass | keyframes =>
    obtain ⟨name, hname⟩ := naming.exists_ofConstruct? (c := c) (by simp [hk])
    simp [constructCode, hk, hname, Declaration.captured, Code.outsideNames, Target.names,
      ClassExpr.names]

/-- The code for a template is closed. -/
lemma closed_constructCode (c : Construct) (name? : Option String) :
    (constructCode c name?).layout.Closed := by
  unfold constructCode
  split
  · exact ⟨List.Subset.refl _, ⟨rfl, rfl⟩, ⟨rfl, rfl⟩⟩
  · exact ⟨List.Subset.refl _, ⟨rfl, rfl⟩, ⟨rfl, rfl⟩⟩
  · exact ⟨List.Subset.refl _, ⟨rfl, rfl⟩, ⟨rfl, rfl⟩⟩
  · exact ⟨List.Subset.refl _, ⟨rfl, rfl⟩, ⟨rfl, rfl⟩⟩
  · exact Code.closed_component rfl rfl rfl _
  · exact Code.closed_component rfl rfl rfl _
  · exact Code.closed_component rfl rfl rfl _

/-- No generated function declares the name of a table. -/
lemma tableName_notMem_declaredNames (g : Generator) (varName : String) (c : Code) :
    g.tableName varName ∉ c.declaredNames :=
  c.notMem_declaredNames (g.startsWith_tableName varName) (g.tableName_ne_others varName)
    (g.tableName_ne_classLocal varName)

/-- The names that the tests of a definition capture. -/
lemma captures_resolverCode_branches (v : VariantUse) (base : String)
    (hs : Strategy.choose v.variants threshold = .inlineBranches) (x : String) :
    (resolverCode v base .branches).layout.Captures x ↔
      x ∈ (Declaration.variants v).captured threshold := by
  rw [Code.captures_iff]
  unfold resolverCode
  cases hk : v.variants.kind with
  | className => simp [hk, hs, Declaration.captured, Code.outsideNames, Lookup.names]
  | component =>
    cases ht : v.variants.target with
    | none =>
      simp [hk, hs, ht, Declaration.captured, Code.outsideNames, Lookup.names, defaultTarget,
        Target.names]
    | some target =>
      simp [hk, hs, ht, Declaration.captured, Code.outsideNames, Code.declaredNames, Lookup.names,
        Plan.names_ofVariants]

/-- The names that the look-ups of a definition capture.

**Proof sketch.** The name of the table is fresh, so it is not captured. What is left are the names
that look-ups and creations refer to, which the two rules for resolvers with a table list. -/
lemma captures_resolverCode_table (v : VariantUse) (base : String) {g : Generator}
    (hs : Strategy.choose v.variants g.threshold = .lookupTable) {name : Binding}
    (hname : name.text = g.tableName v.varName) (x : String) :
    (resolverCode v base (.table name)).layout.Captures x ↔
      x ∈ (Declaration.variants v).captured g.threshold := by
  have hplan : (Plan.ofVariants base v.variants).inhabited ≠ [] := inhabited_ne_nil hs
  have htable : ∀ c : Code, name.text ∉ c.declaredNames := by
    intro c
    rw [hname]
    exact g.tableName_notMem_declaredNames v.varName c
  unfold resolverCode
  cases hk : v.variants.kind with
  | className =>
    dsimp only
    rw [Code.captures_classResolver_table hplan (htable _), Plan.names_ofVariants]
    simp [Declaration.captured, hk, hs]
  | component =>
    have htarget : (v.variants.target.getD defaultTarget).names =
        (v.variants.target.map Target.names).getD [] := by
      cases v.variants.target <;> rfl
    dsimp only
    rw [Code.captures_componentResolver_table hplan (htable _), Plan.names_ofVariants, htarget]
    simp [Declaration.captured, hk, hs]

/-- The code for a definition is closed. -/
lemma closed_resolverCode (v : VariantUse) (base : String) (lookup : Lookup) :
    (resolverCode v base lookup).layout.Closed := by
  unfold resolverCode
  cases v.variants.kind with
  | className => exact Code.closed_classResolver _ _
  | component => exact Code.closed_componentResolver _ _ _ _

end Generator

section Emitted

variable {naming : Naming} {g g' : Generator} {d : Declaration} {e : Emitted}

/-- **The names that the code for a construct captures.**

**Proof sketch.** One case for each kind of construct, and for a definition one for each way in
which its code is written. -/
lemma captures_emitted_iff (h : emit naming g d = .ok (e, g')) (x : String) :
    e.replacement.code.layout.Captures x ↔ x ∈ d.captured g.threshold := by
  cases d with
  | construct c =>
    cases h
    exact Generator.captures_constructCode c x
  | renderAs r =>
    cases h
    rw [Code.captures_iff]
    simp [Code.outsideNames, Code.declaredNames, Declaration.captured, ClassExpr.names,
      or_and_right]
  | variants v =>
    obtain ⟨r, hr, rfl⟩ := exists_of_emit_variants h
    rcases Generator.variants_cases hr with ⟨hs, hout⟩ | ⟨hs, name, hname, hout⟩
    · cases hout
      exact Generator.captures_resolverCode_branches v _ hs x
    · cases hout
      exact Generator.captures_resolverCode_table v _ hs hname x

/-- The code for a construct is closed. -/
lemma closed_emitted (h : emit naming g d = .ok (e, g')) : e.replacement.code.layout.Closed := by
  cases d with
  | construct c =>
    cases h
    exact Generator.closed_constructCode c _
  | renderAs r =>
    cases h
    exact Code.closed_component rfl rfl rfl _
  | variants v =>
    obtain ⟨r, hr, rfl⟩ := exists_of_emit_variants h
    rcases Generator.variants_cases hr with ⟨-, hout⟩ | ⟨-, name, -, hout⟩
    · cases hout
      exact Generator.closed_resolverCode _ _ _
    · cases hout
      exact Generator.closed_resolverCode _ _ _

/-- The table that a construct depends on has the name of a table. -/
lemma tableName_of_emitted (h : emit naming g d = .ok (e, g')) {t : Table}
    (ht : e.replacement.table = some t) : ∃ varName, t.name.text = g.tableName varName := by
  obtain ⟨-, htable⟩ := table_emit h
  cases htab : d.tabulated? g.threshold with
  | none => simp [htab, ht] at htable
  | some v =>
    rw [htab] at htable
    obtain ⟨-, t', ht', hbelongs⟩ := htable
    obtain rfl : t' = t := by simpa [ht'] using ht
    exact ⟨v.varName, hbelongs.name⟩

/-- **Which names generated functions capture.** The code for a construct is the text of its words,
and every parameter or local that it refers to is declared in it. The names from outside that it
captures are exactly those that are read off the construct; those of helpers and tables are never
among them.

**Proof sketch.** A name is captured if the function declares it and refers to it from outside
(`Code.captures_iff`). The aliases of helpers and the names of tables have the start of generated
names, and a function declares no such name besides its own two. -/
theorem captured_names_of_emitted (h : emit naming g d = .ok (e, g')) :
    e.replacement.code.layout.text = e.replacement.code.text ∧
    e.replacement.code.layout.Closed ∧
    (∀ x, e.replacement.code.layout.Captures x ↔ x ∈ d.captured g.threshold) ∧
    (∀ helper : Helper, ¬ e.replacement.code.layout.Captures helper.alias) ∧
    (∀ t, e.replacement.table = some t → ¬ e.replacement.code.layout.Captures t.name.text) := by
  refine ⟨Code.text_layout _, closed_emitted h, captures_emitted_iff h, ?_, ?_⟩
  · intro helper hcaptured
    exact Code.alias_notMem_declaredNames _ helper ((Code.captures_iff _ _).mp hcaptured).2
  · intro t ht hcaptured
    obtain ⟨varName, hname⟩ := tableName_of_emitted h ht
    rw [hname] at hcaptured
    exact g.tableName_notMem_declaredNames varName _ ((Code.captures_iff _ _).mp hcaptured).2

end Emitted

/-- A definition with a component of the author and a dimension. -/
def linkUse (dimension : Dimension) : Declaration :=
  .variants {
    variants := {
      kind := .component
      target := some (.component ⟨"Link", by decide⟩)
      baseCss := none
      values := .ofList [(dimension, .ofList [(⟨"s", by decide⟩, "a")])]
      defaults := .empty
      compounds := [] }
    varName := "box"
    span := ⟨0, 0⟩ }

/-- The same definition captures nothing or its component, as its dimension is called. -/
theorem captured_names_of_emitted_sample :
    (∃ e g', emit (.ofFile .standard "f.js") (.ofFile .standard "f.js")
        (linkUse ⟨"size", by decide⟩) = .ok (e, g') ∧
      ∀ x, ¬ e.replacement.code.layout.Captures x) ∧
    (∃ e g', emit (.ofFile .standard "f.js") (.ofFile .standard "f.js")
        (linkUse ⟨"Link", by decide⟩) = .ok (e, g') ∧
      ∀ x, e.replacement.code.layout.Captures x ↔ x = "Link") := by
  have hthreshold : (Generator.ofFile .standard "f.js").threshold = 4 := rfl
  have hsize : (linkUse ⟨"size", by decide⟩).captured 4 = [] := by decide
  have hlink : (linkUse ⟨"Link", by decide⟩).captured 4 = ["Link"] := by decide
  constructor
  · obtain ⟨⟨e, g'⟩, hok⟩ : ∃ out, emit (.ofFile .standard "f.js") (.ofFile .standard "f.js")
        (linkUse ⟨"size", by decide⟩) = .ok out := ⟨_, rfl⟩
    refine ⟨e, g', hok, fun x => ?_⟩
    rw [(captured_names_of_emitted hok).2.2.1, hthreshold, hsize]
    exact List.not_mem_nil
  · obtain ⟨⟨e, g'⟩, hok⟩ : ∃ out, emit (.ofFile .standard "f.js") (.ofFile .standard "f.js")
        (linkUse ⟨"Link", by decide⟩) = .ok out := ⟨_, rfl⟩
    refine ⟨e, g', hok, fun x => ?_⟩
    rw [(captured_names_of_emitted hok).2.2.1, hthreshold, hlink]
    exact List.mem_singleton

/-- A file that extends a component called `props`. -/
def extensionSource : String :=
  "import\x7bstyled\x7dfrom'styled-static';const a=styled(props)`b`"

/-- The extension in this file. -/
def extensionOfProps : Declaration :=
  .construct ⟨.extension ⟨"props", by decide⟩, "a", "b", ⟨42, 58⟩⟩

/-- **A component called `props` is captured**: the generated function renders its own parameter. -/
theorem extended_component_captured :
    (Script.parseModule? (.ofFile "f.js") extensionSource).map
      (Script.Module.constructs .standard extensionSource "f.js") =
        some (.ok [extensionOfProps]) ∧
    ∃ e g', emit (.ofFile .standard "f.js") (.ofFile .standard "f.js") extensionOfProps =
        .ok (e, g') ∧
      e.replacement.code.text = "/*#__PURE__*/Object.assign((props) => __ss_h(props, " ++
        "\x7b ...props, className: __ss_cx(\"ss-a-f\", props.className) \x7d), " ++
        "\x7b className: __ss_cx(props.className, \"ss-a-f\"), displayName: \"a\" \x7d)" ∧
      e.replacement.code.layout.Captures "props" := by
  exact ⟨by decide +kernel, _, _, rfl, by decide +kernel, by decide +kernel⟩

end StyleExtract
