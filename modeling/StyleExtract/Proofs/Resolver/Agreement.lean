import Mathlib.Data.List.Nodup
import Mathlib.Tactic.Common
import StyleExtract.Proofs.Resolver.Readable
import StyleExtract.Proofs.Text.Cut

/-!
# Resolvers and their definitions

What a definition asks of a selection, said without plans and programs, and the proof that the code
that is handed out for the definition computes it, as far as it is code at all. Which of the two
ways the code is written in depends on a threshold only, so code for two thresholds gives the same
classes.

## Main definitions

* `Variants.effective` — the value of a dimension: the selected one, or the default where none is
  selected.
* `Variants.Selects` — whether a value of a dimension is selected.
* `Variants.classText` — the class text that a definition asks for.
* `Variants.SeesNumber` — `Number` denotes the global object in a resolver.
* `Variants.IsBindable` — strict code may bind the dimensions.
* `Replacement.Computes` — a replacement reads as a program that gathers a text.

## Main results

* `Generator.variants_cases` — what a generator hands out for a definition.
* `Generator.computes_iff` — it computes the class text of the definition and nothing else, exactly
  if strict code may bind the dimensions.
* `Generator.strategies_agree` — this is so in both ways.

## Design

What a replacement computes is what a reader of the language finds in its text, and the text of its
table, when it is run; the reader knows nothing of plans. Code that the language refuses computes
nothing, and this is where `eval` and `arguments` make a difference.

A look-up calls a member of the global object `Number`, which a dimension of that name would hide.
Tests need no such thing, so `Variants.SeesNumber` is only asked for where there is a table.
-/

namespace StyleExtract

open Script (Host Program Scope readProgram?)
open Text (utf16)

/-! ## What a definition asks for -/

namespace Variants

variable (v : Variants) (selection : String → Script.Value)

/-- The value of a dimension: what is selected, or the default where nothing is. -/
def effective (d : Dimension) : Script.Value :=
  match selection d.text, v.defaults.get? d with
  | .undefined, some x => .text (utf16 x.text)
  | w, _ => w

/-- Whether a value of a dimension is selected: by a text, a truth value or an integer in the exact
range whose text is the name of the value. -/
def Selects (d : Dimension) (x : Value) : Prop :=
  (v.effective selection d).selectionText? = some (utf16 x.text)

instance (d : Dimension) (x : Value) : Decidable (v.Selects selection d x) :=
  inferInstanceAs (Decidable (_ = _))

/-- **The class text of a selection**: the base, then for each dimension in the order of declaration
the class of the value that is selected, if one is. -/
def classText (base : String) : String :=
  base ++ Text.concat (v.values.entries.map fun (d, vs) => Text.concat (vs.keys.map fun x =>
    if v.Selects selection d x then " " ++ variantClass base d.text x.text else ""))

/-- In a resolver of the definition `Number` denotes the global object: it does around the
resolver, and no dimension has this name. -/
def SeesNumber (outer : Scope) : Prop :=
  outer "Number" = some (.builtin .number) ∧ ∀ d ∈ v.values.keys, d.text ≠ "Number"

/-- Strict code may bind the dimensions: there are two names of variables that it may not. -/
def IsBindable : Prop := ∀ d ∈ v.values.keys, d.text ≠ "eval" ∧ d.text ≠ "arguments"

instance : Decidable v.IsBindable := inferInstanceAs (Decidable (∀ d ∈ v.values.keys, _ ∧ _))

end Variants

/-- **A replacement computes a text** if its text, with that of its table, is read as a program that
gathers this text. -/
def Replacement.Computes (host : Host) (outer : Scope) (selection : String → Script.Value)
    (r : Replacement) (s : String) : Prop :=
  ∃ p : Program, readProgram? (r.table.map Table.text) r.code.text = some p ∧
    p.run host outer selection = some (.text (utf16 s))

/-- A replacement computes what its program gathers. -/
lemma Replacement.computes_iff_run {r : Replacement} {p : Program} (hp : r.program? = some p)
    (host : Host) (outer : Scope) (selection : String → Script.Value) (s : String) :
    r.Computes host outer selection s ↔ p.run host outer selection = some (.text (utf16 s)) := by
  have hread := readProgram?_text hp
  unfold Computes
  simp [hread]

/-! ## Plans of definitions -/

/-- A name is determined by its text. -/
lemma Name.text_injective {kind : NameKind} :
    Function.Injective (Name.text : Name kind → String) := by
  rintro ⟨s, hs⟩ ⟨t, ht⟩ (rfl : s = t)
  rfl

/-- The plan of a definition is well formed. -/
lemma Plan.wellFormed_ofVariants (base : String) (v : Variants) :
    (Plan.ofVariants base v).WellFormed where
  names := by
    have h := v.values.nodup.map Name.text_injective
    simpa [ofVariants, Function.comp_def] using h
  values := by
    intro d hd
    obtain ⟨⟨e, vs⟩, -, rfl⟩ := List.mem_map.mp hd
    have h := vs.nodup.map Name.text_injective
    simpa [OrderedMap.keys, Function.comp_def] using h
  suffixes := by
    intro d hd x hx
    obtain ⟨⟨e, vs⟩, -, rfl⟩ := List.mem_map.mp hd
    obtain ⟨y, -, rfl⟩ := List.mem_map.mp hx
    intro h
    have hlen := congrArg String.length h
    simp at hlen

/-- Of different values at most one has a given text, so the search for it finds what a walk
through all of them does.

**Proof sketch.** Induction on the values. Once the value with the text is found, no later one has
this text, so the walk adds nothing more. -/
lemma find?_eq_concat (sel : Option (List UInt16)) (suffix : Value → String) :
    ∀ xs : List Value, xs.Nodup →
      ((xs.find? fun x => sel == some (utf16 x.text)).map suffix).getD "" =
        Text.concat (xs.map fun x => if sel = some (utf16 x.text) then suffix x else "") := by
  intro xs
  induction xs with
  | nil => intro _; rfl
  | cons x xs ih =>
    intro h
    rw [List.nodup_cons] at h
    by_cases hx : sel = some (utf16 x.text)
    · -- no later value has the text of this one
      have hnone : ∀ y ∈ xs, sel ≠ some (utf16 y.text) := by
        rintro y hy rfl
        have hxy : y.text = x.text := by simpa using hx
        exact h.1 (Name.text_injective hxy ▸ hy)
      have hrest := ih h.2
      rw [List.find?_eq_none.mpr fun y hy => by simpa using hnone y hy] at hrest
      rw [List.find?_cons_of_pos (by simpa using hx), List.map_cons, Text.concat, ← hrest,
        if_pos hx]
      simp
    · rw [List.find?_cons_of_neg (by simpa using hx), ih h.2, List.map_cons, Text.concat, if_neg hx]
      simp

/-- The plan of a definition has the class text that the definition asks for.

**Proof sketch.** Both texts go through the dimensions in the same order. For one dimension the plan
searches for the value with the selected text, and the definition walks through all values;
`find?_eq_concat` says that they find the same. -/
lemma Plan.classText_ofVariants (base : String) (v : Variants)
    (selection : String → Script.Value) :
    (Plan.ofVariants base v).classText selection = v.classText selection base := by
  rw [classText, Variants.classText, ofVariants, List.map_map]
  congr 2
  refine List.map_congr_left fun e _ => ?_
  obtain ⟨d, vs⟩ := e
  have hvalue : (DimensionPlan.parameter ⟨d, v.defaults.get? d,
      vs.keys.map fun x => ⟨x, " " ++ variantClass base d.text x.text⟩⟩).value selection =
      v.effective selection d := by
    unfold Script.Parameter.value Variants.effective DimensionPlan.parameter
    cases v.defaults.get? d <;> cases selection d.text <;> rfl
  have hfind := find?_eq_concat (v.effective selection d).selectionText?
    (fun x => " " ++ variantClass base d.text x.text) vs.keys vs.nodup
  rw [Function.comp_apply, hvalue, DimensionPlan.suffixFor, DimensionPlan.chosen?]
  simp only [List.find?_map, Option.map_map, Function.comp_def]
  exact hfind

/-- The dimensions of the plan of a definition have the names of the definition's. -/
lemma Plan.forall_dimension_ofVariants (base : String) (v : Variants) {P : String → Prop} :
    (∀ d ∈ (ofVariants base v).dimensions, P d.name.text) ↔ ∀ d ∈ v.values.keys, P d.text := by
  rw [ofVariants, List.forall_mem_map, OrderedMap.keys, List.forall_mem_map]

/-! ## Code of definitions -/

namespace Generator

variable (g : Generator) (v : VariantUse) (base : String)

/-- The name of a table starts like every generated name. -/
lemma startsWith_tableName (varName : String) :
    Text.startsWith generatedStart (g.tableName varName) = true := by
  rw [tableName, String.append_assoc, String.append_assoc]
  exact Text.startsWith_append _ _

/-- The name of a table is longer than the other names of generated code. -/
lemma tableName_ne {s : String} (hs : s.length ≤ 15) (varName : String) :
    g.tableName varName ≠ s := by
  rintro rfl
  have hstart : generatedStart.length = 5 := by decide
  have hmid : "_variants_".length = 10 := by decide
  have hdigits : 0 < (toString g.tables).length := by
    rw [← String.length_toList, Nat.toString_eq_repr, Nat.toList_repr]
    exact Nat.length_toDigits_pos
  simp only [tableName, String.length_append, hstart, hmid] at hs
  omega

/-- The name of a table is not that of the local. -/
lemma tableName_ne_classLocal (varName : String) : g.tableName varName ≠ classLocal :=
  g.tableName_ne (by decide) varName

/-- The name of a table is not that of the other properties. -/
lemma tableName_ne_others (varName : String) : g.tableName varName ≠ PropsName.others.text :=
  g.tableName_ne (by decide) varName

/-- The program of a resolver carries out the plan of its definition. -/
lemma program?_resolverCode (lookup : Lookup) (table : Option Table) :
    ∃ f exposed, (Replacement.mk (resolverCode v base lookup) table).program? =
        some ⟨table.map Table.declaration, f, exposed⟩ ∧
      (Plan.ofVariants base v.variants).IsResolver lookup f := by
  unfold resolverCode
  cases v.variants.kind with
  | className => exact ⟨_, _, rfl, .className⟩
  | component => exact ⟨_, _, rfl, .component _⟩

variable {g v base}

/-- **What a generator hands out for a definition**: tests, or a table of a fresh name and look-ups
in it. -/
theorem variants_cases {out : Replacement × Generator} (h : g.variants v base = .ok out) :
    (Strategy.choose v.variants g.threshold = .inlineBranches ∧
      out = g.emit (resolverCode v base .branches) none) ∨
    (Strategy.choose v.variants g.threshold = .lookupTable ∧
      ∃ name : Binding, name.text = g.tableName v.varName ∧
        out = g.emit (resolverCode v base (.table name))
          (some ⟨name, Plan.ofVariants base v.variants⟩)) := by
  unfold variants at h
  cases hs : Strategy.choose v.variants g.threshold with
  | inlineBranches =>
    rw [hs] at h
    cases h
    exact .inl ⟨rfl, rfl⟩
  | lookupTable =>
    rw [hs] at h
    cases hn : Name.check g.file .binding (g.tableName v.varName) with
    | error e => simp [hn, bind, Except.bind] at h
    | ok name =>
      simp only [hn, bind, Except.bind, pure, Except.pure, Except.ok.injEq] at h
      exact .inr ⟨rfl, name, (Name.check_eq_ok_iff.mp hn).2, h.symm⟩

/-- A definition that gets a table has a value.

**Proof sketch.** A table is made for more values than the threshold, so there is one, and its
dimension is among those with a value. -/
lemma inhabited_ne_nil (hs : Strategy.choose v.variants g.threshold = .lookupTable) :
    (Plan.ofVariants base v.variants).inhabited ≠ [] := by
  have hcount : 0 < v.variants.valueCount := by
    unfold Strategy.choose at hs
    split at hs
    · omega
    · cases hs
  obtain ⟨⟨d, x⟩, hp⟩ := List.exists_mem_of_length_pos hcount
  obtain ⟨⟨d', vs⟩, he, hx⟩ := List.mem_flatMap.mp hp
  have hne : vs.keys ≠ [] := by
    rintro hnil
    simp [hnil] at hx
  refine List.ne_nil_of_mem (a := ⟨d', v.variants.defaults.get? d', vs.keys.map fun x =>
    ⟨x, " " ++ variantClass base d'.text x.text⟩⟩) (List.mem_filter.mpr ⟨?_, ?_⟩)
  · exact List.mem_map_of_mem he
  · simpa using hne

/-- **What the code for a definition computes**: the class text that the definition asks for and no
other, exactly if strict code may bind the dimensions.

**Proof sketch.** In either way the replacement is read as a program that carries out the plan of
the definition. If this has no early error, `Plan.run_branches` or `Plan.run_table` says what it
computes. -/
theorem computes_iff {r : Replacement} {g' : Generator} (h : g.variants v base = .ok (r, g'))
    (host : Host) {outer : Scope}
    (hn : Strategy.choose v.variants g.threshold = .lookupTable → v.variants.SeesNumber outer)
    (selection : String → Script.Value) (s : String) :
    r.Computes host outer selection s ↔
      v.variants.IsBindable ∧ s = v.variants.classText selection base := by
  have hp := Plan.wellFormed_ofVariants base v.variants
  have hdims := Plan.forall_dimension_ofVariants base v.variants
    (P := fun s => s ≠ "eval" ∧ s ≠ "arguments")
  -- what remains is the run of a program without early errors
  suffices hrun : ∃ p, r.program? = some p ∧ (p.IsLegal ↔ v.variants.IsBindable) ∧
      (p.IsLegal → p.run host outer selection =
        some (.text (utf16 ((Plan.ofVariants base v.variants).classText selection)))) by
    obtain ⟨p, hprogram, hlegal, hrun⟩ := hrun
    rw [Replacement.computes_iff_run hprogram, ← hlegal, ← Plan.classText_ofVariants]
    by_cases hp : p.IsLegal
    · simp [hrun hp, hp, eq_comm]
    · simp [Program.run_of_not_isLegal hp, hp]
  rcases variants_cases h with ⟨-, hout⟩ | ⟨hs, name, hname, hout⟩
  · obtain ⟨rfl, -⟩ := Prod.mk.inj hout
    obtain ⟨f, exposed, hprogram, hf⟩ := program?_resolverCode v base .branches none
    refine ⟨_, hprogram, (hf.isLegal_iff hp (by simp) exposed).trans hdims, fun hlegal => ?_⟩
    exact Plan.run_branches host hp hf hlegal outer selection
  · obtain ⟨rfl, -⟩ := Prod.mk.inj hout
    obtain ⟨houter, hnumber⟩ := hn hs
    obtain ⟨f, exposed, hprogram, hf⟩ := program?_resolverCode v base (.table name)
      (some ⟨name, Plan.ofVariants base v.variants⟩)
    have hbinding : Script.IsBindingName name.text := by
      refine name.isVariable_binding.isBindingName_iff.mpr ?_
      rw [hname]
      exact ⟨g.tableName_ne (by decide) v.varName, g.tableName_ne (by decide) v.varName⟩
    refine ⟨_, hprogram, (hf.isLegal_iff hp ?_ exposed).trans hdims, fun hlegal => ?_⟩
    · rintro _ ⟨⟩
      exact hbinding
    · refine Plan.run_table host hp hf ?_ ?_ ?_ hlegal houter ?_ selection
      · exact hname ▸ g.startsWith_tableName v.varName
      · exact hname ▸ g.tableName_ne_classLocal v.varName
      · exact hname ▸ g.tableName_ne_others v.varName
      · intro d hd
        obtain ⟨e, he, rfl⟩ := List.mem_map.mp hd
        exact hnumber e.1 (List.mem_map_of_mem he)

/-- **The two ways of a resolver agree.** Tests are always handed out. A table is handed out exactly
if its name is safe. What the code computes is in both ways, for every selection, the class text of
the definition and nothing else, where `Number` denotes the global object if there is a table; but
it computes anything only if strict code may bind the dimensions, that is if none of them is `eval`
or `arguments`.

**Proof sketch.** Which code is handed out is read off `variants_cases`. What it computes is said by
`computes_iff` for both ways at once. -/
theorem strategies_agree (host : Host) (outer : Scope) (v : VariantUse) (base : String)
    (selection : String → Script.Value) (g₁ g₂ : Generator)
    (h₁ : Strategy.choose v.variants g₁.threshold = .inlineBranches)
    (h₂ : Strategy.choose v.variants g₂.threshold = .lookupTable) :
    (∃ r g', g₁.variants v base = .ok (r, g') ∧
      ∀ s, r.Computes host outer selection s ↔
        v.variants.IsBindable ∧ s = v.variants.classText selection base) ∧
    ((∃ r g', g₂.variants v base = .ok (r, g')) ↔
      NameKind.binding.accepts (g₂.tableName v.varName) = true) ∧
    (v.variants.SeesNumber outer → ∀ r g', g₂.variants v base = .ok (r, g') →
      ∀ s, r.Computes host outer selection s ↔
        v.variants.IsBindable ∧ s = v.variants.classText selection base) := by
  refine ⟨?_, ⟨?_, ?_⟩, ?_⟩
  · have hok : g₁.variants v base = .ok (g₁.emit (resolverCode v base .branches) none) := by
      rw [variants, h₁]
    exact ⟨_, _, hok, computes_iff hok host (by simp [h₁]) selection⟩
  · rintro ⟨r, g', hok⟩
    rcases variants_cases hok with ⟨hs, -⟩ | ⟨-, name, hname, -⟩
    · simp [h₂] at hs
    · exact hname ▸ name.valid
  · intro hname
    have hcheck : Name.check g₂.file .binding (g₂.tableName v.varName) = .ok ⟨_, hname⟩ :=
      Name.check_eq_ok_iff.mpr ⟨hname, rfl⟩
    rw [variants, h₂]
    simp only [hcheck, bind, Except.bind, pure, Except.pure]
    exact ⟨_, _, rfl⟩
  · intro hn r g' hok
    exact computes_iff hok host (fun _ => hn) selection

/-- A definition with numbers and a truth value among its values, a dimension without a value, a
default and a combination. -/
def sampleUse : VariantUse where
  variants :=
    { kind := .className
      target := none
      baseCss := none
      values := .ofList
        [(⟨"size", by decide⟩, .ofList [(⟨"2", by decide⟩, "a"), (⟨"-1", by decide⟩, "b")]),
          (⟨"tone", by decide⟩, .empty),
          (⟨"on", by decide⟩, .ofList [(⟨"true", by decide⟩, "c")]),
          (⟨"align", by decide⟩, .ofList [(⟨"left", by decide⟩, "d")])]
      defaults := .ofList [(⟨"align", by decide⟩, ⟨"left", by decide⟩)]
      compounds := [⟨.ofList [(⟨"on", by decide⟩, ⟨"true", by decide⟩),
        (⟨"size", by decide⟩, ⟨"-1", by decide⟩)], "e"⟩] }
  varName := "box"
  span := ⟨0, 0⟩

/-- A selection by a number, a truth value and an object that is none. -/
def sampleSelection (x : String) : Script.Value :=
  if x = "size" then .number (.ofInt (-1))
  else if x = "on" then .bool true
  else if x = "tone" then .null
  else .undefined

/-- A program around without objects. -/
def bareHost : Host where
  identical _ _ := false
  objectKey _ := none
  digits _ := []
  inherited _ := some .undefined
  member _ _ := some .undefined
  sum _ _ := none
  call _ _ := none

/-- A scope with the global object `Number` and nothing else. -/
def bareScope : Scope := Scope.set (fun _ => none) "Number" (.builtin .number)

/-- The two ways at four values, with thresholds on both sides. -/
theorem strategies_agree_sample :
    Strategy.choose sampleUse.variants 4 = .inlineBranches ∧
    Strategy.choose sampleUse.variants 3 = .lookupTable ∧
    sampleUse.variants.SeesNumber bareScope ∧
    (∃ r g', (Generator.mk "a.ts" 4 0 {}).variants sampleUse "x" = .ok (r, g') ∧
      r.Computes bareHost bareScope sampleSelection "x x--size--1 x--on-true x--align-left") ∧
    (∃ r g', (Generator.mk "a.ts" 3 0 {}).variants sampleUse "x" = .ok (r, g') ∧
      r.Computes bareHost bareScope sampleSelection "x x--size--1 x--on-true x--align-left") := by
  obtain ⟨⟨r, g', hok, htests⟩, hname, htable⟩ :=
    strategies_agree bareHost bareScope sampleUse "x" sampleSelection
      ⟨"a.ts", 4, 0, {}⟩ ⟨"a.ts", 3, 0, {}⟩ (by decide) (by decide)
  have htext : "x x--size--1 x--on-true x--align-left" =
      sampleUse.variants.classText sampleSelection "x" := by decide
  have hnumber : sampleUse.variants.SeesNumber bareScope := ⟨rfl, by decide⟩
  obtain ⟨r', g'', hok'⟩ := hname.mpr (by decide)
  exact ⟨by decide, by decide, hnumber, ⟨r, g', hok, (htests _).mpr ⟨by decide, htext⟩⟩,
    r', g'', hok', (htable hnumber r' g'' hok' _).mpr ⟨by decide, htext⟩⟩

/-- A definition that has one dimension, called `eval`. -/
def evalUse : VariantUse where
  variants :=
    { kind := .className
      target := none
      baseCss := none
      values := .ofList [(⟨"eval", by decide⟩, .ofList [(⟨"w", by decide⟩, "q")])]
      defaults := .empty
      compounds := [] }
  varName := "b"
  span := ⟨52, 80⟩

/-- A selection of the one value of this definition. -/
def evalSelection (x : String) : Script.Value :=
  if x = "eval" then .text (utf16 "w") else .undefined

/-- **A dimension called `eval`** is accepted and gets its code in both ways, and neither computes
the class text that the definition asks for, or any other. -/
theorem eval_computes_nothing :
    evalUse.variants.classText evalSelection "x" = "x x--eval-w" ∧
    (∃ r g', Strategy.choose evalUse.variants 4 = .inlineBranches ∧
      (Generator.mk "f.js" 4 0 {}).variants evalUse "x" = .ok (r, g') ∧
      ∀ s, ¬ r.Computes bareHost bareScope evalSelection s) ∧
    ∃ r g', Strategy.choose evalUse.variants 0 = .lookupTable ∧
      (Generator.mk "f.js" 0 0 {}).variants evalUse "x" = .ok (r, g') ∧
      ∀ s, ¬ r.Computes bareHost bareScope evalSelection s := by
  have hillegal : ¬ evalUse.variants.IsBindable := by decide
  have hnumber : evalUse.variants.SeesNumber bareScope := ⟨rfl, by decide⟩
  have hnothing : ∀ {g : Generator} {r g'}, g.variants evalUse "x" = .ok (r, g') →
      ∀ s, ¬ r.Computes bareHost bareScope evalSelection s := fun hok s hs =>
    hillegal ((computes_iff hok bareHost (fun _ => hnumber) evalSelection s).mp hs).1
  obtain ⟨⟨r, g'⟩, hok⟩ : ∃ out, (Generator.mk "f.js" 4 0 {}).variants evalUse "x" = .ok out :=
    ⟨_, rfl⟩
  obtain ⟨⟨r', g''⟩, hok'⟩ : ∃ out, (Generator.mk "f.js" 0 0 {}).variants evalUse "x" = .ok out :=
    ⟨_, rfl⟩
  exact ⟨by decide, ⟨r, g', by decide, hok, hnothing hok⟩, r', g'', by decide, hok', hnothing hok'⟩

end Generator

end StyleExtract
