import Mathlib.Data.List.Nodup
import Mathlib.Tactic.Common
import StyleExtract.Proofs.Generated.Hygiene
import StyleExtract.Proofs.Generated.ReadBack
import StyleExtract.Proofs.Script.Binders

/-!
# The parameters of resolvers

The code for a variant definition is a function whose one parameter takes the dimensions out of its
argument, so each dimension becomes a name that the function binds. This file reads the parameter
back from the text and compares the names with what the language allows.

## Main definitions

* `Variants.pattern` — the names that the function of a definition binds.

## Main results

* `Generator.readParameter?_resolverCode` — these names are read back from the code.
* `parameter_legal_iff` — they clash with each other and with generated names never, and the
  language allows all of them exactly if no dimension is `eval` or `arguments`.

## Design

A dimension is an identifier that is not reserved, and that is all its check asks. The language asks
more of a name that is bound, and the two names that make the difference are left in the statement.
-/

namespace StyleExtract

open Script (IsBindingName Pattern readParameter?)

/-! ## The parameter of a resolver -/

namespace Code

variable (plan : Plan) (lookup : Lookup)

/-- The parameter of a function from a selection to a class text is read back.

**Proof sketch.** The text of the code is that of its program, whose parameter is read back. Without
dimensions the parameter is one name, and otherwise it lists the dimensions. -/
lemma readParameter?_classResolver :
    readParameter? (classResolver plan lookup).text = some ⟨plan.patternNames, none⟩ := by
  have hprogram : (Replacement.mk (classResolver plan lookup) none).program? =
      some ⟨none, plan.classResolver lookup, none⟩ := rfl
  have hresolver : plan.IsResolver lookup (plan.classResolver lookup) := .className
  have hread := Script.Program.readParameter?_text (p := ⟨none, plan.classResolver lookup, none⟩)
    hresolver.isReadable_head
  rw [Replacement.text_program hprogram] at hread
  refine hread.trans ?_
  have hnames : plan.parameters.map Script.Parameter.name = plan.names := plan.map_name_parameters
  unfold Plan.classResolver Plan.classHead Plan.patternNames
  cases hd : plan.dimensions with
  | nil => simp [Plan.parameters, hd, Script.Head.pattern]
  | cons d ds =>
    rw [Plan.parameters, hd, List.map_cons] at hnames ⊢
    simp only [Script.Head.pattern, hnames, if_neg (List.cons_ne_nil d ds)]

/-- The parameter of a component whose class depends on a selection is read back. -/
lemma readParameter?_componentResolver (target : Target) (display : String) :
    readParameter? (componentResolver plan lookup target display).text =
      some ⟨plan.names, some PropsName.others.text⟩ := by
  have hprogram : (Replacement.mk (componentResolver plan lookup target display) none).program? =
      some ⟨none, plan.componentResolver lookup target,
        some (exposedEntries plan.base display)⟩ := rfl
  have hresolver : plan.IsResolver lookup (plan.componentResolver lookup target) :=
    .component target
  have hread := Script.Program.readParameter?_text
    (p := ⟨none, plan.componentResolver lookup target, some (exposedEntries plan.base display)⟩)
    hresolver.isReadable_head
  rw [Replacement.text_program hprogram] at hread
  refine hread.trans ?_
  have hnames : plan.parameters.map Script.Parameter.name = plan.names := plan.map_name_parameters
  simp only [Plan.componentResolver, Plan.componentHead, Script.Head.pattern, hnames]

end Code

/-! ## The names of a definition -/

namespace Variants

variable (v : Variants)

/-- **The names that the function of a definition binds**: each dimension, and in a component a name
for the other properties. A function without dimensions that is no component has a name for its
argument. -/
def pattern : Pattern :=
  let names := v.values.keys.map Name.text
  match v.kind with
  | .component => ⟨names, some PropsName.others.text⟩
  | .className => ⟨if names = [] then ["_"] else names, none⟩

variable {v}

/-- A name for a single property is that of a dimension, or the one that nothing refers to. -/
lemma mem_pattern_names {x : String} (hx : x ∈ v.pattern.names) :
    x = "_" ∨ ∃ d ∈ v.values.keys, d.text = x := by
  unfold pattern at hx
  cases hk : v.kind with
  | component =>
    rw [hk] at hx
    exact .inr (List.mem_map.mp hx)
  | className =>
    rw [hk] at hx
    dsimp only at hx
    split at hx
    · exact .inl (List.mem_singleton.mp hx)
    · exact .inr (List.mem_map.mp hx)

/-- Every dimension is among the names. -/
lemma text_mem_pattern_names {d : Dimension} (hd : d ∈ v.values.keys) :
    d.text ∈ v.pattern.names := by
  have hmem : d.text ∈ v.values.keys.map Name.text := List.mem_map_of_mem hd
  unfold pattern
  cases v.kind with
  | component => exact hmem
  | className =>
    dsimp only
    rwa [if_neg (List.ne_nil_of_mem hmem)]

/-- The name for the other properties is always the same. -/
lemma pattern_rest? : ∀ x ∈ v.pattern.rest?, x = PropsName.others.text := by
  unfold pattern
  cases v.kind with
  | component => rintro _ ⟨⟩; rfl
  | className => simp

/-- No name for a single property is a generated one. -/
lemma ne_of_mem_pattern_names {x s : String} (hx : x ∈ v.pattern.names)
    (hs : Text.startsWith generatedStart s = true) : x ≠ s := by
  rintro rfl
  rcases mem_pattern_names hx with rfl | ⟨d, -, hd⟩
  · exact absurd hs (by decide)
  · exact d.dimension_ne hs hd

/-- No name of a function is bound twice. -/
lemma nodup_pattern : v.pattern.all.Nodup := by
  have hkeys : (v.values.keys.map Name.text).Nodup := v.values.nodup.map Name.text_injective
  have hnames : v.pattern.names.Nodup := by
    unfold pattern
    cases v.kind with
    | component => exact hkeys
    | className =>
      dsimp only
      split
      · exact List.nodup_singleton _
      · exact hkeys
  have hrest : v.pattern.rest?.toList.Nodup := by cases v.pattern.rest? <;> simp
  refine hnames.append hrest fun x hx hy => ?_
  have hothers := pattern_rest? x (Option.mem_toList.mp hy)
  exact ne_of_mem_pattern_names hx (by decide) hothers

/-- The language allows all names exactly if it allows the dimensions. -/
lemma isBindingName_pattern_iff :
    (∀ x ∈ v.pattern.all, IsBindingName x) ↔
      ∀ d ∈ v.values.keys, d.text ≠ "eval" ∧ d.text ≠ "arguments" := by
  constructor
  · intro h d hd
    have hmem := List.mem_append_left v.pattern.rest?.toList (text_mem_pattern_names hd)
    exact (d.isVariable_dimension.isBindingName_iff).mp (h _ hmem)
  · intro h x hx
    rcases List.mem_append.mp hx with hx | hx
    · rcases mem_pattern_names hx with rfl | ⟨d, hd, rfl⟩
      · decide
      · exact (d.isVariable_dimension.isBindingName_iff).mpr (h d hd)
    · rw [pattern_rest? x (Option.mem_toList.mp hx)]
      decide

end Variants

/-- **The parameter of a definition is read back from its code.** -/
lemma Generator.readParameter?_resolverCode (v : VariantUse) (base : String) (lookup : Lookup) :
    readParameter? (resolverCode v base lookup).text = some v.variants.pattern := by
  have hnames := Plan.names_ofVariants base v.variants
  unfold resolverCode Variants.pattern
  cases v.variants.kind with
  | component => rw [Code.readParameter?_componentResolver, hnames]
  | className =>
    dsimp only
    rw [Code.readParameter?_classResolver, Plan.patternNames, hnames]
    have hnil : (Plan.ofVariants base v.variants).dimensions = [] ↔
        v.variants.values.keys.map Name.text = [] := by
      simp [← hnames, Plan.names]
    simp only [hnil]

/-- **Which parameters of resolvers are legal.** The names that the function for a definition binds
are read back from its text. They differ from each other, from the local of the function, from all
helpers and from the names of all tables, and those for single properties also from the name for the
other properties. Strict code may bind all of them exactly if no dimension is called `eval` or
`arguments`.

**Proof sketch.** The code is a resolver in either way, and the reader of tokens gives back the
pattern of its parameter. A dimension is an identifier that is neither reserved nor has the start of
generated names, which all other names of generated code have. Of the words that strict code may not
bind, only two are missing among those that no dimension may be. -/
theorem parameter_legal_iff {g g' : Generator} {v : VariantUse} {base : String} {r : Replacement}
    (h : g.variants v base = .ok (r, g')) :
    readParameter? r.code.text = some v.variants.pattern ∧
    v.variants.pattern.all.Nodup ∧
    (∀ x ∈ v.variants.pattern.names, x ≠ PropsName.others.text) ∧
    (∀ x ∈ v.variants.pattern.all, x ≠ classLocal ∧ (∀ helper : Helper, x ≠ helper.alias) ∧
      ∀ (generator : Generator) (varName : String), x ≠ generator.tableName varName) ∧
    ((∀ x ∈ v.variants.pattern.all, IsBindingName x) ↔
      ∀ d ∈ v.variants.values.keys, d.text ≠ "eval" ∧ d.text ≠ "arguments") := by
  obtain ⟨lookup, hcode⟩ : ∃ lookup, r.code = Generator.resolverCode v base lookup := by
    rcases Generator.variants_cases h with ⟨-, hout⟩ | ⟨-, name, -, hout⟩
    · exact ⟨_, congrArg (fun out => out.1.code) hout⟩
    · exact ⟨_, congrArg (fun out => out.1.code) hout⟩
  refine ⟨?_, Variants.nodup_pattern, ?_, ?_, Variants.isBindingName_pattern_iff⟩
  · rw [hcode]
    exact Generator.readParameter?_resolverCode v base lookup
  · exact fun x hx => Variants.ne_of_mem_pattern_names hx (by decide)
  · intro x hx
    rcases List.mem_append.mp hx with hx | hx
    · refine ⟨?_, ?_, ?_⟩
      · exact Variants.ne_of_mem_pattern_names hx (by decide)
      · intro helper
        exact Variants.ne_of_mem_pattern_names hx (by cases helper <;> decide)
      · intro generator varName
        exact Variants.ne_of_mem_pattern_names hx (generator.startsWith_tableName varName)
    · rw [Variants.pattern_rest? x (Option.mem_toList.mp hx)]
      refine ⟨by decide, fun helper => by cases helper <;> decide, ?_⟩
      exact fun generator varName => (generator.tableName_ne_others varName).symm

/-- A definition with tests and with a table: its four dimensions are bound, and all may be. -/
theorem parameter_legal_sample :
    (∃ r g', (Generator.mk "a.ts" 4 0 {}).variants Generator.sampleUse "x" = .ok (r, g') ∧
      readParameter? r.code.text = some ⟨["size", "tone", "on", "align"], none⟩ ∧
      ∀ x ∈ ["size", "tone", "on", "align"], IsBindingName x) ∧
    (∃ r g', (Generator.mk "a.ts" 3 0 {}).variants Generator.sampleUse "x" = .ok (r, g') ∧
      readParameter? r.code.text = some ⟨["size", "tone", "on", "align"], none⟩ ∧
      ∀ x ∈ ["size", "tone", "on", "align"], IsBindingName x) := by
  have hpattern : Generator.sampleUse.variants.pattern = ⟨["size", "tone", "on", "align"], none⟩ :=
    by decide
  constructor
  · obtain ⟨⟨r, g'⟩, hok⟩ : ∃ out, (Generator.mk "a.ts" 4 0 {}).variants Generator.sampleUse "x" =
        .ok out := ⟨_, rfl⟩
    obtain ⟨hread, -, -, -, hlegal⟩ := parameter_legal_iff hok
    rw [hpattern] at hread hlegal
    exact ⟨r, g', hok, hread, hlegal.mpr (by decide)⟩
  · obtain ⟨⟨r, g'⟩, hok⟩ : ∃ out, (Generator.mk "a.ts" 3 0 {}).variants Generator.sampleUse "x" =
        .ok out := ⟨_, rfl⟩
    obtain ⟨hread, -, -, -, hlegal⟩ := parameter_legal_iff hok
    rw [hpattern] at hread hlegal
    exact ⟨r, g', hok, hread, hlegal.mpr (by decide)⟩

/-- A file with the definition that has one dimension, called `eval`. -/
def evalSource : String :=
  "import\x7bcssVariants as v\x7dfrom'styled-static';" ++
    "const b=v(\x7bvariants:\x7beval:\x7bw:'q'\x7d\x7d\x7d)"

/-- **A dimension called `eval` is accepted and cannot be bound**: the definition is found in the
file and gets its code, and the declaration with this code is no script. -/
theorem eval_parameter_illegal :
    (Script.parseModule? (.ofFile "f.js") evalSource).map
      (Script.Module.constructs .standard evalSource "f.js") =
        some (.ok [.variants Generator.evalUse]) ∧
    ∃ r g', (Generator.ofFile .standard "f.js").variants Generator.evalUse "ss-b-f" = .ok (r, g') ∧
      readParameter? r.code.text = some ⟨["eval"], none⟩ ∧ ¬ IsBindingName "eval" ∧
      Script.parseModule? (.ofFile "f.js") ("const b=" ++ r.code.text) = none :=
  ⟨by decide +kernel, _, _, rfl, by decide +kernel, by decide, by decide +kernel⟩

end StyleExtract
