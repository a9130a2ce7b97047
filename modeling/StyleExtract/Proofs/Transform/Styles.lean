import Mathlib.Data.List.Forall2
import Mathlib.Tactic.Common
import StyleExtract.Proofs.Splice
import StyleExtract.Proofs.Transform.Exits
import StyleExtract.Proofs.VariantClasses

/-!
# The styles of a compiled file

The constructs of a file are walked through once, and each may give styles, code and a table. This
file says what the four lists that come out of it hold: the modules of the file, their ids, the
inserted lines and the tables.

## Main definitions

* `Variants.HasRule` — a definition with at least one rule.
* `Declaration.styles?` — the styles that a construct asks for.
* `Declaration.tabulated?` — the definition of a construct that asks for a table.
* `Table.BelongsTo` — a table that is made for a definition.
* `Emission.Delivers` — what a compiled file delivers.

## Main results

* `Variants.css?_eq` — a definition has styles exactly if it has a rule.
* `Construct.styles?_eq` — what the styles of a template hold.
* `styles_emitAll`, `tables_emitAll` — the styles and the tables of the constructs of a file.
* `transformed_styles` — the modules, ids and inserted lines of a compiled file.
-/

namespace StyleExtract

/-! ## Definitions without rules -/

/-- Texts of which the first is not empty are not empty when joined. -/
lemma Text.join_ne_empty (sep : String) {s : String} (rest : List String) (h : s ≠ "") :
    Text.join sep (s :: rest) ≠ "" := by
  cases rest with
  | nil => exact h
  | cons t rest =>
    rw [Text.join_cons _ _ (List.cons_ne_nil t rest), String.append_assoc]
    intro hempty
    exact h (by simpa using (String.append_eq_empty_iff.mp hempty).1)

namespace Variants

variable (v : Variants) (base : String)

/-- A definition with at least one rule: it has base styles, a declared value or a combination. -/
def HasRule : Prop := v.baseCss.isSome = true ∨ v.pairs ≠ [] ∨ v.compounds ≠ []

instance : Decidable v.HasRule :=
  inferInstanceAs (Decidable (v.baseCss.isSome = true ∨ v.pairs ≠ [] ∨ v.compounds ≠ []))

/-- A definition has no rules exactly if there is nothing to make one from. -/
lemma rules_eq_nil_iff : v.rules base = [] ↔ ¬ v.HasRule := by
  rw [← List.map_eq_nil_iff (f := StyleRule.selector), map_selector_rules, List.map_eq_nil_iff,
    ruleClasses, HasRule, baseClasses, pairClasses]
  cases v.baseCss <;> simp

/-- The styles of a definition are empty exactly if it has no rule. -/
lemma css_eq_empty_iff : v.css base = "" ↔ ¬ v.HasRule := by
  rw [← v.rules_eq_nil_iff base, css]
  cases hrules : v.rules base with
  | nil => simp [Text.join]
  | cons r rs =>
    have hne : r.text ≠ "" := by
      intro h
      have hlen := congrArg String.length h
      simp [StyleRule.text] at hlen
    simpa using Text.join_ne_empty "\n" (rs.map StyleRule.text) hne

/-- **A definition has styles exactly if it has a rule.** -/
theorem css?_eq : v.css? base = if v.HasRule then some (v.css base) else none := by
  unfold css?
  by_cases h : v.HasRule
  · rw [if_neg fun hcss => (v.css_eq_empty_iff base).mp hcss h, if_pos h]
  · rw [if_pos ((v.css_eq_empty_iff base).mpr h), if_neg h]

end Variants

/-! ## What constructs ask for -/

namespace Declaration

/-- The styles that a construct asks for: a template always has some, a definition if it has a rule,
and a component that is rendered as something else has none. -/
def styles? (naming : Naming) : Declaration → Option String
  | .construct c => some (c.kind.cssText (naming.ofConstruct? c) c.css)
  | .variants v => if v.variants.HasRule then some (v.variants.css (naming.ofVariants v)) else none
  | .renderAs _ => none

/-- The definition of a construct that asks for a table. -/
def tabulated? (threshold : ℕ) : Declaration → Option VariantUse
  | .variants v =>
    match Strategy.choose v.variants threshold with
    | .lookupTable => some v
    | .inlineBranches => none
  | .construct _ | .renderAs _ => none

end Declaration

/-- **What a trimmed text is**: the text without white space around it, and without more of it at
its ends.

**Proof sketch.** White space is taken off in front, and then from the reversed text. What is taken
off is white space, and where taking off stops there is none. -/
lemma Text.toList_trim (s : String) : ∃ before behind : List Char,
    s.toList = before ++ ((trim s).toList ++ behind) ∧ (∀ c ∈ before ++ behind, isBlank c = true) ∧
    (∀ c ∈ (trim s).toList.head?, isBlank c = false) ∧
    ∀ c ∈ (trim s).toList.getLast?, isBlank c = false := by
  obtain ⟨middle, hmiddle⟩ : ∃ middle, middle = s.toList.dropWhile isBlank := ⟨_, rfl⟩
  have htrim : (trim s).toList = (middle.reverse.dropWhile isBlank).reverse := by
    rw [trim, String.toList_ofList, trimList, hmiddle]
  have hends : middle = (trim s).toList ++ (middle.reverse.takeWhile isBlank).reverse := by
    rw [htrim, ← List.reverse_append, List.takeWhile_append_dropWhile, List.reverse_reverse]
  refine ⟨s.toList.takeWhile isBlank, (middle.reverse.takeWhile isBlank).reverse, ?_, ?_, ?_, ?_⟩
  · rw [← hends, hmiddle, List.takeWhile_append_dropWhile]
  · intro c hc
    rcases List.mem_append.mp hc with hc | hc
    · exact List.mem_takeWhile_imp hc
    · exact List.mem_takeWhile_imp (List.mem_reverse.mp hc)
  · intro c hc
    -- the first character is that of the text without white space in front
    have hfirst : c ∈ middle.head? := by
      rw [hends, List.head?_append]
      simp [Option.mem_def.mp hc]
    rw [hmiddle] at hfirst
    have hdrop := List.head?_dropWhile_not isBlank s.toList
    rw [Option.mem_def.mp hfirst] at hdrop
    simpa using hdrop
  · intro c hc
    rw [htrim, List.getLast?_reverse] at hc
    have hdrop := List.head?_dropWhile_not isBlank middle.reverse
    rw [Option.mem_def.mp hc] at hdrop
    simpa using hdrop

/-- **What the styles of a template hold**: its trimmed text, which stands as it is where the
template has no name, which is so for global styles, and else between the braces of the rule of the
animation or class of this name.

**Proof sketch.** Only global styles have no name. In all other cases the rule is written out by the
kind of the template. -/
theorem Construct.styles?_eq (naming : Naming) (c : Construct) :
    ∃ opening closing : String,
      (Declaration.construct c).styles? naming = some (opening ++ Text.trim c.css ++ closing) ∧
      match naming.ofConstruct? c with
      | none => c.kind = .globalStyle ∧ opening = "" ∧ closing = ""
      | some n => c.kind ≠ .globalStyle ∧ closing = " \x7d" ∧
        opening = (if c.kind = .keyframes then "@keyframes " else ".") ++ n ++ " \x7b " := by
  have hkind : naming.ofConstruct? c = none ↔ c.kind = .globalStyle := by
    unfold Naming.ofConstruct?
    cases c.kind <;> cases naming.mode <;> simp
  cases hname : naming.ofConstruct? c with
  | none =>
    refine ⟨"", "", ?_, hkind.mp hname, rfl, rfl⟩
    simp [Declaration.styles?, ConstructKind.cssText, hname, hkind.mp hname]
  | some n =>
    have hglobal : c.kind ≠ .globalStyle := fun h => by
      rw [hkind.mpr h] at hname
      cases hname
    refine ⟨_, _, ?_, hglobal, rfl, rfl⟩
    rw [Declaration.styles?, hname]
    cases hk : c.kind with
    | globalStyle => exact absurd hk hglobal
    | keyframes => rfl
    | element | extension | attrs | scopedClass =>
      simp [ConstructKind.cssText, classRule, classSelector, Text.concat, StyleRule.text]

/-- **A table that is made for a definition**, as the table with a number: it has the name of the
variable and the number, it tabulates the plan of the definition, and the code in the place of the
definition looks classes up in it. -/
structure Table.BelongsTo (naming : Naming) (emitted : List Emitted) (v : VariantUse) (number : ℕ)
    (t : Table) : Prop where
  /-- The name of the variable and the number. -/
  name : t.name.text = generatedStart ++ v.varName ++ "_variants_" ++ toString number
  /-- The plan of the definition. -/
  plan : t.plan = .ofVariants (naming.ofVariants v) v.variants
  /-- The code that depends on the table. -/
  used : ∃ e ∈ emitted, e.span = v.span ∧
    e.replacement = ⟨Generator.resolverCode v (naming.ofVariants v) (.table t.name), some t⟩

section Emitting

variable {naming : Naming} {g g' : Generator}

/-- A construct gives the styles that it asks for. -/
lemma css_emit {d : Declaration} {e : Emitted} (h : emit naming g d = .ok (e, g')) :
    e.css = d.styles? naming := by
  cases d with
  | construct c =>
    cases h
    rfl
  | renderAs r =>
    cases h
    rfl
  | variants v =>
    obtain ⟨r, -, rfl⟩ := exists_of_emit_variants h
    exact v.variants.css?_eq _

/-- **The table of one construct.** A construct that asks for a table gets one, which has the number
of tables so far, and other constructs get none. The threshold stays as it is.

**Proof sketch.** Only a definition can ask for a table. What is handed out for it is read off
`Generator.variants_cases`. -/
lemma table_emit {d : Declaration} {e : Emitted} (h : emit naming g d = .ok (e, g')) :
    g'.threshold = g.threshold ∧
    match d.tabulated? g.threshold with
    | none => e.replacement.table = none ∧ g'.tables = g.tables
    | some v => g'.tables = g.tables + 1 ∧
        ∃ t, e.replacement.table = some t ∧ t.BelongsTo naming [e] v g.tables := by
  cases d with
  | construct c =>
    cases h
    exact ⟨rfl, rfl, rfl⟩
  | renderAs r =>
    cases h
    exact ⟨rfl, rfl, rfl⟩
  | variants v =>
    obtain ⟨r, hr, rfl⟩ := exists_of_emit_variants h
    rcases Generator.variants_cases hr with ⟨hs, hout⟩ | ⟨hs, name, hname, hout⟩
    · have htab : (Declaration.variants v).tabulated? g.threshold = none := by
        simp only [Declaration.tabulated?, hs]
      cases hout
      rw [htab]
      exact ⟨rfl, rfl, rfl⟩
    · have htab : (Declaration.variants v).tabulated? g.threshold = some v := by
        simp only [Declaration.tabulated?, hs]
      cases hout
      rw [htab]
      exact ⟨rfl, rfl, _, rfl, hname, rfl, _, List.mem_singleton_self _, rfl, rfl⟩

/-- **The styles of the constructs of a file** are those that they ask for, in order. -/
theorem styles_emitAll : ∀ {found : List Declaration} {g g' : Generator} {emitted : List Emitted},
    emitAll naming g found = .ok (emitted, g') →
      emitted.filterMap Emitted.css = found.filterMap (Declaration.styles? naming) := by
  intro found
  induction found with
  | nil =>
    intro g g' emitted h
    cases h
    rfl
  | cons d found ih =>
    intro g g' emitted h
    obtain ⟨e, g₁, es, he, hes, rfl⟩ := exists_of_emitAll_cons h
    rw [List.filterMap_cons, List.filterMap_cons, css_emit he, ih hes]

/-- A table belongs to its definition however many constructs there are besides. -/
lemma Table.BelongsTo.mono {es es' : List Emitted} {v : VariantUse} {number : ℕ} {t : Table}
    (h : t.BelongsTo naming es v number) (hsub : es ⊆ es') : t.BelongsTo naming es' v number := by
  obtain ⟨e, he, hused⟩ := h.used
  exact ⟨h.name, h.plan, e, hsub he, hused⟩

/-- **The tables of the constructs of a file** are those of the definitions that ask for one, in
order, and are numbered from the number of tables so far.

**Proof sketch.** Induction on the constructs: by `table_emit` a construct that asks for a table
adds one to the number of tables, and any other construct leaves it as it is. -/
theorem tables_emitAll : ∀ {found : List Declaration} {g g' : Generator} {emitted : List Emitted},
    emitAll naming g found = .ok (emitted, g') →
      List.Forall₂ (fun p t => t.BelongsTo naming emitted p.1 p.2)
        ((found.filterMap (Declaration.tabulated? g.threshold)).zipIdx g.tables)
        (emitted.filterMap fun e => e.replacement.table) := by
  intro found
  induction found with
  | nil =>
    intro g g' emitted h
    cases h
    exact .nil
  | cons d found ih =>
    intro g g' emitted h
    obtain ⟨e, g₁, es, he, hes, rfl⟩ := exists_of_emitAll_cons h
    obtain ⟨hthreshold, htable⟩ := table_emit he
    have hrest : List.Forall₂ (fun p t => t.BelongsTo naming (e :: es) p.1 p.2)
        ((found.filterMap (Declaration.tabulated? g.threshold)).zipIdx g₁.tables)
        (es.filterMap fun e => e.replacement.table) := by
      rw [← hthreshold]
      exact (ih hes).imp fun _ _ ht => ht.mono (List.subset_cons_self e es)
    cases htab : d.tabulated? g.threshold with
    | none =>
      rw [htab] at htable
      obtain ⟨hnone, htables⟩ := htable
      have hemitted : (e :: es).filterMap (fun e => e.replacement.table) =
          es.filterMap fun e => e.replacement.table := by simp [hnone]
      rw [List.filterMap_cons_none htab, hemitted, ← htables]
      exact hrest
    | some v =>
      rw [htab] at htable
      obtain ⟨htables, t, hsome, ht⟩ := htable
      have hemitted : (e :: es).filterMap (fun e => e.replacement.table) =
          t :: es.filterMap fun e => e.replacement.table := by simp [hsome]
      rw [List.filterMap_cons_some htab, hemitted, List.zipIdx_cons, ← htables]
      exact .cons (ht.mono (by simp)) hrest

end Emitting

/-! ## The inserted lines -/

/-- Wherever splicing succeeds, the lines stand in one piece between the others.

**Proof sketch.** Induction on the edits: the lines are inserted before the first edit behind their
place, or at the end. -/
lemma exists_inserted_of_spliceFrom? {source : List Char} {lines : List String} {place : ℕ} :
    ∀ {edits : List Edit} {cursor : ℕ} {pieces : List Piece},
      spliceFrom? source lines place cursor edits = some pieces →
      ∃ front back, pieces = front ++ .inserted (linesText lines) :: back := by
  intro edits
  induction edits with
  | nil =>
    intro cursor pieces h
    simp only [spliceFrom?, bind, Option.bind_eq_some_iff] at h
    obtain ⟨before, -, rest, -, hpieces⟩ := h
    cases hpieces
    exact ⟨[before], rest, rfl⟩
  | cons e edits ih =>
    intro cursor pieces h
    unfold spliceFrom? at h
    split at h
    · simp only [bind, Option.bind_eq_some_iff] at h
      obtain ⟨before, -, rest, -, hpieces⟩ := h
      cases hpieces
      exact ⟨[before], rest, rfl⟩
    · simp only [bind, Option.bind_eq_some_iff] at h
      obtain ⟨before, -, rest, hrest, hpieces⟩ := h
      cases hpieces
      obtain ⟨front, back, rfl⟩ := ih hrest
      exact ⟨before :: e.piece :: front, back, rfl⟩

namespace Emission

variable {parse : Parser} {options : Options} {source id : String}

/-- The text of a compiled file contains the inserted lines. -/
lemma exists_code_of_result? {e : Emission parse options source id} {out : Output}
    (h : e.result? = some out) :
    ∃ front back, out.code.toList = front ++ (linesText e.lines ++ back) := by
  simp only [result?, output?, bind, Option.bind_eq_some_iff] at h
  obtain ⟨place, -, pieces, hpieces, hout⟩ := h
  cases hout
  obtain ⟨front, back, rfl⟩ := exists_inserted_of_spliceFrom? hpieces
  exact ⟨piecesText front, piecesText back, by simp⟩

/-- The constructs of a file stand in the places of initializers, in source order. -/
lemma sublist_initializers (e : Emission parse options source id) :
    (e.found.map Declaration.span).Sublist e.tree.initializers :=
  SourceFile.ensures_classify _ e.tree [] e.found _ (Prod.ext e.classified rfl)

/-- **What a compiled file delivers.** The modules of the file have the styles that its constructs
ask for, in source order, and every construct that asks for a table has its own. -/
structure Delivers (e : Emission parse options source id) (after : Registry) (out : Output) :
    Prop where
  /-- The constructs stand in source order. -/
  ordered : (e.found.map Declaration.span).Sublist e.tree.initializers
  /-- The modules have the styles that the constructs ask for, in the same order. -/
  styles : (after.entriesFor id).map CssModule.css =
    e.found.filterMap (Declaration.styles? (.ofFile options id))
  /-- The modules are numbered from zero without gaps. -/
  numbered : (after.entriesFor id).map CssModule.index =
    List.range (after.entriesFor id).length
  /-- The ids of the modules are listed in the same order. -/
  ids : out.cssModules = (after.entriesFor id).map CssModule.id
  /-- The inserted lines are the imports of helpers, one import for each id in the same order, and
  the tables, of which each belongs to the definition with its number among those that ask for
  one. -/
  lines : ∃ tables front back,
    out.code.toList = front ++ (linesText (e.generator.usage.imports e.runtime ++
      out.cssModules.map importLine ++ tables.map Table.text) ++ back) ∧
    List.Forall₂ (fun p t => t.BelongsTo (.ofFile options id) e.emitted p.1 p.2)
      (e.found.filterMap (Declaration.tabulated? options.tableThreshold)).zipIdx tables

end Emission

/-- **The styles of a compiled file**: no styles are lost, doubled or out of order.

**Proof sketch.** Of the ways in which compiling a file ends only one gives a compiled file, and it
comes with an emission. Its styles are registered in order and numbered from zero. The inserted
lines stand in the text in one piece, so the imports and the tables are found there in order. -/
theorem transformed_styles {parse : Parser} {options : Options} {registry : Registry}
    {source id : String} {out : Output}
    (h : (transformFileWith parse options registry source id).result = .ok (.transformed out)) :
    ∃ e : Emission parse options source id,
      e.Delivers (transformFileWith parse options registry source id).registry out := by
  have hexit := transformFileWith_exit parse options registry source id
  generalize (transformFileWith parse options registry source id).registry = after at hexit ⊢
  rw [h] at hexit
  cases hexit with
  | compiled e hout =>
    have hmodules := (registry.sets_replaceFile id e.styles).entriesFor_self
    have hids := e.cssModules_of_result? hout
    refine ⟨e, e.sublist_initializers, ?_, ?_, ?_, ?_⟩
    · rw [hmodules, Registry.map_css_number]
      exact styles_emitAll e.coded
    · rw [hmodules, Registry.map_index_number, Registry.length_number]
    · rw [hmodules, hids]
      rfl
    · obtain ⟨front, back, hcode⟩ := e.exists_code_of_result? hout
      refine ⟨_, front, back, ?_, tables_emitAll e.coded⟩
      rw [hcode, Emission.lines, preamble, hids, List.map_filterMap]

/-- A file with a template, a definition that gets a table and a definition without rules. -/
def stylesSource : String :=
  "import\x7bcss,cssVariants as v\x7dfrom'styled-static';let a=css`b`," ++
    "c=v(\x7bvariants:\x7bs:\x7bp:'q'\x7d\x7d\x7d),d=v(\x7b\x7d)"

/-- Options under which every definition with a value gets a table. -/
def stylesOptions : Options := { Options.standard with tableThreshold := 0 }

/-- Two of the three constructs of this file have styles. -/
theorem transformed_styles_sample : ∃ out,
    (transformFile stylesOptions .empty stylesSource "f.js").result = .ok (.transformed out) ∧
    out.cssModules = ["virtual:styled-static/f.js/0.css", "virtual:styled-static/f.js/1.css"] ∧
    ∃ e : Emission Script.parseModule? stylesOptions stylesSource "f.js",
      e.Delivers (transformFile stylesOptions .empty stylesSource "f.js").registry out := by
  have hids : (match (transformFile stylesOptions .empty stylesSource "f.js").result with
      | .ok (.transformed out) => some out.cssModules
      | _ => none) =
        some ["virtual:styled-static/f.js/0.css", "virtual:styled-static/f.js/1.css"] := by
    decide +kernel
  split at hids
  · next out hout => exact ⟨out, hout, by simpa using hids, transformed_styles hout⟩
  · cases hids

end StyleExtract
