import Mathlib.Tactic.Common
import StyleExtract.Proofs.Name
import StyleExtract.Proofs.Registry.Id
import StyleExtract.Proofs.Transform.Styles

/-!
# What the table threshold shows

A definition with more values than the threshold gets a table, and the table gets a name. The name
holds that of the variable, and it is checked as all names of generated code are: a variable with a
character that no such name can have is refused. A definition without a table needs no name, so the
threshold decides whether such a variable is refused at all. This file shows that nothing else of a
compilation depends on the threshold but the shape of the code.

## Main definitions

* `VariantUse.isNameable` — a definition whose variable can be part of a name.
* `tableRefusal?`, `fileRefusal?` — the first refusal of a table among constructs and in a file.
* `Report.Alike` — two compilations that differ in the shape of the code at most.

## Main results

* `VariantUse.accepts_tableName_iff` — which names of tables are accepted.
* `emitAll_eq_error_iff` — a file is refused exactly if a table is.
* `output?_isSome_congr` — whether the lines have a place depends on the spans alone.
* `threshold_hidden_iff_refusals_agree` — what two thresholds have in common.
-/

namespace StyleExtract

open Script (Module)

/-! ## Names of tables -/

/-- A definition whose variable can be part of a name. -/
def VariantUse.isNameable (v : VariantUse) : Bool := v.varName.toList.all isNameChar

/-- The name of the table of a definition with a number. -/
def VariantUse.tableName (v : VariantUse) (number : ℕ) : String :=
  generatedStart ++ v.varName ++ "_variants_" ++ toString number

/-- The name of a table is accepted exactly if the variable can be part of it. -/
lemma VariantUse.accepts_tableName_iff (v : VariantUse) (number : ℕ) :
    NameKind.binding.accepts (v.tableName number) = true ↔ v.isNameable = true := by
  have hdigits : (toString number).toList.all isNameChar = true := by
    rw [List.all_eq_true]
    intro c hc
    have hdigit := Text.isDigit_of_mem_toString number hc
    have hown : isDigit c = true := by
      simpa [isDigit, Char.isDigit, Char.le_def] using hdigit
    simp [isNameChar, hown]
  have hmiddle : "_variants_".toList.all isNameChar = true := by decide
  rw [tableName, String.append_assoc, String.append_assoc, accepts_generatedStart_iff, isNameable,
    String.toList_append, String.toList_append, List.all_append, List.all_append, hmiddle, hdigits,
    Bool.and_self, Bool.and_true]

/-! ## Refusals -/

/-- **The first refusal of a table** among constructs, by the variable of the definition that asks
for it; `number` tables stand before. -/
def tableRefusal? (file : String) (threshold number : ℕ) (found : List Declaration) :
    Option UnsafeName :=
  ((found.filterMap (Declaration.tabulated? threshold)).zipIdx number).findSome? fun p =>
    if p.1.isNameable then none else some ⟨file, p.1.tableName p.2, .binding⟩

/-- A construct without a table is not refused. -/
lemma tableRefusal?_cons_none {file : String} {threshold number : ℕ} {d : Declaration}
    (h : d.tabulated? threshold = none) (found : List Declaration) :
    tableRefusal? file threshold number (d :: found) =
      tableRefusal? file threshold number found := by
  rw [tableRefusal?, List.filterMap_cons_none h, tableRefusal?]

/-- A construct with a table is refused if its variable cannot be part of a name. -/
lemma tableRefusal?_cons_some {file : String} {threshold number : ℕ} {d : Declaration}
    {v : VariantUse} (h : d.tabulated? threshold = some v) (found : List Declaration) :
    tableRefusal? file threshold number (d :: found) =
      if v.isNameable then tableRefusal? file threshold (number + 1) found
      else some ⟨file, v.tableName number, .binding⟩ := by
  rw [tableRefusal?, List.filterMap_cons_some h, List.zipIdx_cons, List.findSome?_cons]
  cases v.isNameable <;> rfl

/-- Constructs whose variables can all be part of names are not refused. -/
lemma tableRefusal?_eq_none {file : String} {found : List Declaration}
    (h : ∀ v, Declaration.variants v ∈ found → v.isNameable = true) (threshold number : ℕ) :
    tableRefusal? file threshold number found = none := by
  refine List.findSome?_eq_none_iff.mpr fun p hp => ?_
  obtain ⟨d, hd, htab⟩ := List.mem_filterMap.mp (List.fst_mem_of_mem_zipIdx hp)
  have hown : d = .variants p.1 := by
    cases d with
    | construct c => cases htab
    | renderAs r => cases htab
    | variants v =>
      unfold Declaration.tabulated? at htab
      dsimp only at htab
      split at htab
      · cases htab
        rfl
      · cases htab
  rw [if_pos (h p.1 (hown ▸ hd))]

section Refusals

variable {naming : Naming} {g g' : Generator}

/-- Emitting a construct stays in the same file. -/
lemma file_emit {d : Declaration} {e : Emitted} (h : emit naming g d = .ok (e, g')) :
    g'.file = g.file := by
  cases d with
  | construct c =>
    cases h
    rfl
  | renderAs r =>
    cases h
    rfl
  | variants v =>
    obtain ⟨r, hr, rfl⟩ := exists_of_emit_variants h
    rcases Generator.variants_cases hr with ⟨-, hout⟩ | ⟨-, name, -, hout⟩
    · cases hout
      rfl
    · cases hout
      rfl

/-- **A construct is refused** exactly if it asks for a table and its variable cannot be part of a
name.

**Proof sketch.** Only a definition with look-ups asks for a name, that of its table. The name is
refused exactly if the variable cannot be part of it. -/
lemma emit_eq_error_iff {d : Declaration} {err : UnsafeName} :
    emit naming g d = .error err ↔ ∃ v, d.tabulated? g.threshold = some v ∧
      v.isNameable = false ∧ err = ⟨g.file, v.tableName g.tables, .binding⟩ := by
  cases d with
  | construct c => simp [emit, Declaration.tabulated?, pure, Except.pure]
  | renderAs r => simp [emit, Declaration.tabulated?, pure, Except.pure]
  | variants v =>
    cases hs : Strategy.choose v.variants g.threshold with
    | inlineBranches =>
      simp [emit, Declaration.tabulated?, Generator.variants, hs, bind, Except.bind, pure,
        Except.pure]
    | lookupTable =>
      have hname := v.accepts_tableName_iff g.tables
      have htext : g.tableName v.varName = v.tableName g.tables := rfl
      simp only [emit, Declaration.tabulated?, Generator.variants, hs, bind, Except.bind, htext,
        Name.check, Option.some.injEq, exists_eq_left']
      by_cases haccepts : NameKind.binding.accepts (v.tableName g.tables) = true
      · simp [haccepts, hname.mp haccepts, pure, Except.pure]
      · have hrefused : v.isNameable = false := by
          simpa using fun h => haccepts (hname.mpr h)
        simp [haccepts, hrefused, eq_comm]

/-- **A file is refused exactly if a table is**, and the first refusal is the one that counts.

**Proof sketch.** Induction on the constructs: by `table_emit` the number of tables grows with every
construct that asks for one. -/
theorem emitAll_eq_error_iff : ∀ {found : List Declaration} {g : Generator} {err : UnsafeName},
    emitAll naming g found = .error err ↔
      tableRefusal? g.file g.threshold g.tables found = some err := by
  intro found
  induction found with
  | nil =>
    intro g err
    simp [emitAll, tableRefusal?, pure, Except.pure]
  | cons d found ih =>
    intro g err
    cases he : emit naming g d with
    | error first =>
      obtain ⟨v, htab, hname, rfl⟩ := emit_eq_error_iff.mp he
      simp [emitAll, he, bind, Except.bind, tableRefusal?_cons_some htab, hname]
    | ok out =>
      obtain ⟨e, g₁⟩ := out
      have hcons : emitAll naming g (d :: found) = .error err ↔
          emitAll naming g₁ found = .error err := by
        cases hes : emitAll naming g₁ found <;>
          simp [emitAll, he, hes, bind, Except.bind, pure, Except.pure]
      -- the first construct is not refused, and its table, if it has one, takes the next number
      obtain ⟨hthreshold, htable⟩ := table_emit he
      rw [hcons, ih, file_emit he, hthreshold]
      cases htab : d.tabulated? g.threshold with
      | none =>
        rw [htab] at htable
        rw [tableRefusal?_cons_none htab, htable.2]
      | some v =>
        rw [htab] at htable
        have hname : v.isNameable = true := by
          by_contra hrefused
          have herror : emit naming g d = .error ⟨g.file, v.tableName g.tables, .binding⟩ :=
            emit_eq_error_iff.mpr ⟨v, htab, by simpa using hrefused, rfl⟩
          simp [he] at herror
        rw [tableRefusal?_cons_some htab, if_pos hname, htable.1]

end Refusals

/-! ## The place of the lines -/

section Places

variable (source : List Char) (lines lines' : List String) (place : ℕ)

/-- A last step that cannot fail does not matter for success. -/
lemma isSome_bind_some {α β : Type} (o : Option α) (f : α → β) :
    (o.bind fun a => some (f a)).isSome = o.isSome := by
  cases o <;> rfl

/-- Whether edits can be made behind the lines depends on their spans alone.

**Proof sketch.** Induction on the edits. A copy succeeds or fails by its range alone, and the
ranges are taken from the spans. -/
lemma spliceRest?_isSome_congr : ∀ {edits edits' : List Edit},
    edits.map Edit.span = edits'.map Edit.span → ∀ cursor,
      (spliceRest? source cursor edits).isSome = (spliceRest? source cursor edits').isSome := by
  intro edits
  induction edits with
  | nil =>
    intro edits' h cursor
    rw [List.map_nil, eq_comm, List.map_eq_nil_iff] at h
    rw [h]
  | cons e edits ih =>
    intro edits' h cursor
    cases edits' with
    | nil => cases h
    | cons e' edits' =>
      obtain ⟨hspan, hrest⟩ := List.cons.inj h
      have hsome := ih hrest e.span.stop
      simp only [spliceRest?, ← hspan, bind, pure]
      cases copy? source cursor e.span.start with
      | none => rfl
      | some before => simpa only [Option.bind_some, isSome_bind_some] using hsome

/-- Whether lines and edits have their places depends on the spans of the edits alone.

**Proof sketch.** Induction on the edits. A copy succeeds or fails by its range alone, and ranges
are taken from the spans and the place. -/
lemma spliceFrom?_isSome_congr : ∀ {edits edits' : List Edit},
    edits.map Edit.span = edits'.map Edit.span → ∀ cursor,
      (spliceFrom? source lines place cursor edits).isSome =
        (spliceFrom? source lines' place cursor edits').isSome := by
  intro edits
  induction edits with
  | nil =>
    intro edits' h cursor
    rw [List.map_nil, eq_comm, List.map_eq_nil_iff] at h
    rw [h]
    simp only [spliceFrom?, bind, pure]
    cases copy? source cursor place with
    | none => rfl
    | some before => simp only [Option.bind_some, isSome_bind_some]
  | cons e edits ih =>
    intro edits' h cursor
    cases edits' with
    | nil => cases h
    | cons e' edits' =>
      have hbehind := spliceRest?_isSome_congr source h place
      obtain ⟨hspan, hrest⟩ := List.cons.inj h
      have hsome := ih hrest e.span.stop
      simp only [spliceFrom?, ← hspan, bind, pure]
      split
      · cases copy? source cursor place with
        | none => rfl
        | some before => simpa only [Option.bind_some, isSome_bind_some] using hbehind
      · cases copy? source cursor e.span.start with
        | none => rfl
        | some before => simpa only [Option.bind_some, isSome_bind_some] using hsome

/-- **Whether the lines have a place** depends on the spans of the constructs alone. -/
theorem output?_isSome_congr (id source : String) (m : Module) {emitted emitted' : List Emitted}
    (h : emitted.map Emitted.span = emitted'.map Emitted.span) (ids : List String) :
    (output? id source m lines emitted ids).isSome =
      (output? id source m lines' emitted' ids).isSome := by
  have hspans : (emitted.map Emitted.edit).map Edit.span =
      (emitted'.map Emitted.edit).map Edit.span := by
    simpa [List.map_map, Function.comp_def, Emitted.edit] using h
  cases hpoint : m.insertionPoint? source.toList with
  | none => simp [output?, hpoint]
  | some place =>
    rw [output?_eq hpoint, output?_eq hpoint, Option.isSome_map, Option.isSome_map]
    exact spliceFrom?_isSome_congr _ _ _ _ hspans 0

end Places

/-! ## Two thresholds -/

/-- Two ends of a compilation that differ in the shape of the code at most: the same failure, or the
same kind of outcome with the same ids of modules. -/
def SameEnd : Except Failure Outcome → Except Failure Outcome → Prop
  | .ok (.transformed a), .ok (.transformed b) => a.cssModules = b.cssModules
  | a, b => a = b

/-- **Two compilations that differ in the shape of the code at most.** -/
structure Report.Alike (a b : Report (Except Failure Outcome)) : Prop where
  /-- They end in the same way, with the same ids. -/
  result : SameEnd a.result b.result
  /-- They leave the same registry. -/
  registry : a.registry = b.registry

/-- A compilation differs from itself in nothing. -/
lemma Report.Alike.refl (a : Report (Except Failure Outcome)) : a.Alike a := by
  refine ⟨?_, rfl⟩
  unfold SameEnd
  split
  · next ha hb => exact congrArg Output.cssModules (by simpa [ha] using hb)
  · rfl

/-- The same options with another threshold. -/
def Options.withThreshold (options : Options) (threshold : ℕ) : Options :=
  { options with tableThreshold := threshold }

/-- Constructs that all have code are compiled in the same way under two thresholds.

**Proof sketch.** The styles and the ranges of the emitted constructs do not depend on the
threshold. So the registry is updated in the same way, and the splice succeeds under both thresholds
or under none. -/
lemma compileModule_alike {options : Options} {t₁ t₂ : ℕ} {id : String}
    {found : List Declaration} {emitted₁ emitted₂ : List Emitted} {g₁ g₂ : Generator}
    (h₁ : emitAll (.ofFile options id) ⟨id, t₁, 0, {}⟩ found = .ok (emitted₁, g₁))
    (h₂ : emitAll (.ofFile options id) ⟨id, t₂, 0, {}⟩ found = .ok (emitted₂, g₂))
    (registry : Registry) (source runtime : String) (m : Module) :
    (compileModule (options.withThreshold t₁) registry source id runtime m found).Alike
      (compileModule (options.withThreshold t₂) registry source id runtime m found) := by
  have hnaming : ∀ t, Naming.ofFile (options.withThreshold t) id = .ofFile options id :=
    fun _ => rfl
  have hthreshold : ∀ t, (options.withThreshold t).tableThreshold = t := fun _ => rfl
  have hstyles : emitted₁.filterMap Emitted.css = emitted₂.filterMap Emitted.css :=
    (styles_emitAll h₁).trans (styles_emitAll h₂).symm
  have hspans : emitted₁.map Emitted.span = emitted₂.map Emitted.span :=
    (map_span_emitAll h₁).trans (map_span_emitAll h₂).symm
  simp only [compileModule, hnaming, hthreshold, h₁, h₂, hstyles]
  generalize registry.replaceReport id (emitted₂.filterMap Emitted.css) = replaced
  have hsome := output?_isSome_congr (preamble g₁.usage runtime replaced.result emitted₁)
    (preamble g₂.usage runtime replaced.result emitted₂) id source m hspans replaced.result
  cases hout₁ : output? id source m (preamble g₁.usage runtime replaced.result emitted₁) emitted₁
      replaced.result with
  | none =>
    cases hout₂ : output? id source m (preamble g₂.usage runtime replaced.result emitted₂)
        emitted₂ replaced.result with
    | none => exact .refl _
    | some out₂ => simp [hout₁, hout₂] at hsome
  | some out₁ =>
    cases hout₂ : output? id source m (preamble g₂.usage runtime replaced.result emitted₂)
        emitted₂ replaced.result with
    | none => simp [hout₁, hout₂] at hsome
    | some out₂ =>
      exact ⟨(cssModules_of_output? hout₁).trans (cssModules_of_output? hout₂).symm, rfl⟩

/-- The name that a compilation is refused for. -/
def refusedName? : Except Failure Outcome → Option UnsafeName
  | .error (.unsafeName err) => some err
  | .error .misplaced | .ok _ => none

/-- Compilations that end in the same way are refused for the same name. -/
lemma SameEnd.refusedName?_eq {a b : Except Failure Outcome} (h : SameEnd a b) :
    refusedName? a = refusedName? b := by
  unfold SameEnd at h
  split at h
  · rfl
  · rw [h]

/-- A refused compilation shows another end than one that is not refused. -/
lemma Report.not_alike_of_refused {a b : Report (Except Failure Outcome)} {err : UnsafeName}
    {outcome : Outcome} (ha : a.result = .error (.unsafeName err)) (hb : b.result = .ok outcome) :
    ¬ a.Alike b := by
  intro h
  have hsame := h.result.refusedName?_eq
  rw [ha, hb] at hsame
  cases hsame

/-- **Compiling constructs is refused** exactly if a table is. -/
lemma refusedName?_compileModule (options : Options) (registry : Registry)
    (source id runtime : String) (m : Module) (found : List Declaration) :
    refusedName? (compileModule options registry source id runtime m found).result =
      tableRefusal? id options.tableThreshold 0 found := by
  cases hcode : emitAll (.ofFile options id) ⟨id, options.tableThreshold, 0, {}⟩ found with
  | error err =>
    rw [emitAll_eq_error_iff.mp hcode]
    simp only [compileModule, hcode, refusedName?]
  | ok out =>
    have hnone : tableRefusal? id options.tableThreshold 0 found = none := by
      refine Option.eq_none_iff_forall_ne_some.mpr fun err herr => ?_
      have herror : emitAll (.ofFile options id) ⟨id, options.tableThreshold, 0, {}⟩ found =
          .error err := emitAll_eq_error_iff.mpr herr
      simp [hcode] at herror
    rw [hnone]
    simp only [compileModule, hcode]
    split <;> rfl

/-- **Compiling constructs under two thresholds** shows the same exactly if the same table is
refused, or none.

**Proof sketch.** A refused table is shown in the result, so compilations that show the same refuse
the same. If both refuse the same table they fail alike, and if none refuses one,
`compileModule_alike` applies. -/
lemma compileModule_alike_iff (options : Options) (t₁ t₂ : ℕ) (registry : Registry)
    (source id runtime : String) (m : Module) (found : List Declaration) :
    (compileModule (options.withThreshold t₁) registry source id runtime m found).Alike
      (compileModule (options.withThreshold t₂) registry source id runtime m found) ↔
      tableRefusal? id t₁ 0 found = tableRefusal? id t₂ 0 found := by
  constructor
  · intro halike
    have hrefused := halike.result.refusedName?_eq
    rwa [refusedName?_compileModule, refusedName?_compileModule] at hrefused
  · intro heq
    have hthreshold : ∀ t, (options.withThreshold t).tableThreshold = t := fun _ => rfl
    have hnaming : ∀ t, Naming.ofFile (options.withThreshold t) id = .ofFile options id :=
      fun _ => rfl
    cases h₁ : emitAll (.ofFile options id) ⟨id, t₁, 0, {}⟩ found with
    | error err =>
      have h₂ : emitAll (.ofFile options id) ⟨id, t₂, 0, {}⟩ found = .error err :=
        emitAll_eq_error_iff.mpr (heq ▸ emitAll_eq_error_iff.mp h₁)
      simp only [compileModule, hthreshold, hnaming, h₁, h₂]
      exact .refl _
    | ok out₁ =>
      cases h₂ : emitAll (.ofFile options id) ⟨id, t₂, 0, {}⟩ found with
      | error err =>
        have herror : emitAll (.ofFile options id) ⟨id, t₁, 0, {}⟩ found = .error err :=
          emitAll_eq_error_iff.mpr (heq ▸ emitAll_eq_error_iff.mp h₂)
        simp [h₁] at herror
      | ok out₂ => exact compileModule_alike h₁ h₂ registry source runtime m

/-- **The refusal of a table in a file**: among its constructs, if they can be read. -/
def fileRefusal? (parse : Parser) (options : Options) (source id : String) : Option UnsafeName :=
  if options.isMentioned source then do
    let m ← parse (.ofFile id) source
    let _ ← (Imports.ofItems options m.items).runtime
    match m.constructs options source id with
    | .ok found => tableRefusal? id options.tableThreshold 0 found
    | .error _ => none
  else none

section Files

variable (parse : Parser) (options : Options) (registry : Registry) (source id : String)

/-- What is said before a compilation does not matter for its end. -/
lemma Report.alike_after_iff {a b : Report (Except Failure Outcome)} (log : List LogEntry) :
    (a.after log).Alike (b.after log) ↔ a.Alike b :=
  ⟨fun h => ⟨h.result, h.registry⟩, fun h => ⟨h.result, h.registry⟩⟩

/-- **Compiling a file under two thresholds** shows the same exactly if the same table is refused,
or none.

**Proof sketch.** Along the stages of the pipeline: no stage before the code knows the threshold. -/
theorem transformFileWith_alike_iff (t₁ t₂ : ℕ) :
    (transformFileWith parse (options.withThreshold t₁) registry source id).Alike
      (transformFileWith parse (options.withThreshold t₂) registry source id) ↔
      fileRefusal? parse (options.withThreshold t₁) source id =
        fileRefusal? parse (options.withThreshold t₂) source id := by
  -- what the stages before the code read of the options
  have hmentioned : ∀ t, (options.withThreshold t).isMentioned source =
      options.isMentioned source := fun _ => rfl
  have himports : ∀ t items, Imports.ofItems (options.withThreshold t) items =
      Imports.ofItems options items := fun _ _ => rfl
  have hconstructs : ∀ t (m : Module), m.constructs (options.withThreshold t) source id =
      m.constructs options source id := fun _ _ => rfl
  have hlevel : ∀ t, (options.withThreshold t).skipLevel = options.skipLevel := fun _ => rfl
  have hthreshold : ∀ t, (options.withThreshold t).tableThreshold = t := fun _ => rfl
  simp only [transformFileWith, fileRefusal?, hmentioned, himports, hconstructs, hthreshold]
  by_cases hmention : options.isMentioned source = true
  · simp only [if_pos hmention, transformModule, himports, hlevel]
    cases parse (.ofFile id) source with
    | none => simp [Report.Alike.refl]
    | some m =>
      cases hruntime : (Imports.ofItems options m.items).runtime with
      | none => simp [hruntime, Report.Alike.refl]
      | some runtime =>
        obtain ⟨found?, hrun⟩ : ∃ r, (SourceFile.classify ⟨id, source.toList,
            Imports.ofItems options m.items, options.skipLevel⟩ m.items).run.run [] = r :=
          ⟨_, rfl⟩
        have hfound : m.constructs options source id = found?.1 := congrArg Prod.fst hrun
        obtain ⟨failure | found, log⟩ := found?
        · simp [hruntime, hrun, hfound, Report.Alike.refl]
        · cases found with
          | nil => simp [hruntime, hrun, hfound, tableRefusal?, Report.Alike.refl]
          | cons d ds =>
            simpa [hruntime, hrun, hfound, Report.alike_after_iff] using
              compileModule_alike_iff options t₁ t₂ registry source id runtime m (d :: ds)
  · simp [if_neg hmention, Report.Alike.refl]

variable {parse options source id}

/-- No table is refused in a file whose definitions all have variables that can be part of names. -/
lemma fileRefusal?_eq_none (t : ℕ)
    (h : ∀ m found, parse (.ofFile id) source = some m →
      m.constructs options source id = .ok found →
        ∀ v, Declaration.variants v ∈ found → v.isNameable = true) :
    fileRefusal? parse (options.withThreshold t) source id = none := by
  have hconstructs : ∀ m : Module, m.constructs (options.withThreshold t) source id =
      m.constructs options source id := fun _ => rfl
  unfold fileRefusal?
  split
  · cases hm : parse (.ofFile id) source with
    | none => rfl
    | some m =>
      cases hfound : m.constructs options source id with
      | error failure => simp [hconstructs, hfound]
      | ok found => simp [hconstructs, hfound, tableRefusal?_eq_none (h m found hm hfound)]
  · rfl

/-- **What two thresholds have in common.** Compiling a file under either of them ends in the same
way, with the same ids of modules and the same registry, exactly if both refuse the same table or
none. In particular it does whenever the variables of all definitions in the file have only the
characters that names of generated code can have.

**Proof sketch.** The threshold is first looked at when code is generated, so up to there the two
compilations are the same, and from there on `compileModule_alike_iff` says when they show the same.
A variable with the characters of generated names gives a safe table name, so nothing is refused. -/
theorem threshold_hidden_iff_refusals_agree (parse : Parser) (options : Options)
    (registry : Registry) (source id : String) (t₁ t₂ : ℕ) :
    ((transformFileWith parse (options.withThreshold t₁) registry source id).Alike
      (transformFileWith parse (options.withThreshold t₂) registry source id) ↔
      fileRefusal? parse (options.withThreshold t₁) source id =
        fileRefusal? parse (options.withThreshold t₂) source id) ∧
    ((∀ m found, parse (.ofFile id) source = some m →
      m.constructs options source id = .ok found →
        ∀ v, Declaration.variants v ∈ found → v.isNameable = true) →
      (transformFileWith parse (options.withThreshold t₁) registry source id).Alike
        (transformFileWith parse (options.withThreshold t₂) registry source id)) := by
  have hiff := transformFileWith_alike_iff parse options registry source id t₁ t₂
  refine ⟨hiff, fun hnames => hiff.mpr ?_⟩
  rw [fileRefusal?_eq_none t₁ hnames, fileRefusal?_eq_none t₂ hnames]

end Files

/-- A file with one definition, of one value, for a variable. -/
def thresholdSource (varName : String) : String :=
  "import\x7bcssVariants as v\x7dfrom'styled-static';let " ++ varName ++
    "=v(\x7bvariants:\x7bs:\x7bp:'q'\x7d\x7d\x7d)"

/-- Whether all definitions of a file have variables that can be part of names. -/
def namesFit (parse : Parser) (options : Options) (source id : String) : Bool :=
  match parse (.ofFile id) source with
  | none => true
  | some m =>
    match m.constructs options source id with
    | .error _ => true
    | .ok found => found.all fun d =>
      match d with
      | .variants v => v.isNameable
      | .construct _ | .renderAs _ => true

/-- What is checked of a file holds of its constructs. -/
lemma isNameable_of_namesFit {parse : Parser} {options : Options} {source id : String}
    (h : namesFit parse options source id = true) :
    ∀ m found, parse (.ofFile id) source = some m →
      m.constructs options source id = .ok found →
        ∀ v, Declaration.variants v ∈ found → v.isNameable = true := by
  intro m found hm hfound v hv
  simp only [namesFit, hm, hfound, List.all_eq_true] at h
  exact h _ hv

/-- A variable of ASCII letters is compiled in the same way with a table and without. -/
theorem threshold_hidden_sample :
    (transformFileWith Script.parseModule? (Options.standard.withThreshold 0) .empty
      (thresholdSource "a") "f.js").Alike
      (transformFileWith Script.parseModule? (Options.standard.withThreshold 4) .empty
        (thresholdSource "a") "f.js") := by
  have hfit : namesFit Script.parseModule? .standard (thresholdSource "a") "f.js" = true := by
    decide +kernel
  exact (threshold_hidden_iff_refusals_agree _ _ _ _ _ 0 4).2 (isNameable_of_namesFit hfit)

/-- **A variable with another letter shows the threshold**: with a table it is refused, without a
table it is compiled. -/
theorem threshold_shown :
    (transformFile (Options.standard.withThreshold 0) .empty (thresholdSource "é") "f.js").result =
      .error (.unsafeName ⟨"f.js", "__ss_é_variants_0", .binding⟩) ∧
    (∃ out, (transformFile (Options.standard.withThreshold 4) .empty (thresholdSource "é")
        "f.js").result = .ok (.transformed out) ∧
      out.cssModules = ["virtual:styled-static/f.js/0.css"]) ∧
    ¬ ∀ t₁ t₂, (transformFile (Options.standard.withThreshold t₁) .empty (thresholdSource "é")
      "f.js").Alike (transformFile (Options.standard.withThreshold t₂) .empty
        (thresholdSource "é") "f.js") := by
  have hrefused : (transformFile (Options.standard.withThreshold 0) .empty (thresholdSource "é")
      "f.js").result = .error (.unsafeName ⟨"f.js", "__ss_é_variants_0", .binding⟩) := by
    decide +kernel
  have hids : (match (transformFile (Options.standard.withThreshold 4) .empty
      (thresholdSource "é") "f.js").result with
      | .ok (.transformed out) => some out.cssModules
      | _ => none) = some ["virtual:styled-static/f.js/0.css"] := by
    decide +kernel
  split at hids
  · next out hout =>
    refine ⟨hrefused, ⟨out, hout, Option.some.inj hids⟩, fun h => ?_⟩
    exact Report.not_alike_of_refused hrefused hout (h 0 4)
  · cases hids

end StyleExtract
