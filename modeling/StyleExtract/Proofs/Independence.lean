import Mathlib.Tactic.Common
import StyleExtract.Classification
import StyleExtract.Proofs.Compounds

/-!
# What reading a file does not depend on

Reports and failures name the file, and nothing else that is read does. So a text gives the same
constructs under every id, whatever was reported before, and fails for the same reason.

## Main definitions

* `Failure.anonymous` — a failure without the file.
* `Extract.Agree` — two computations that come to the same, whatever was reported before.
* `Extract.returned` — what a computation returns, if it does not fail.
* `SourceFile.relabel` — the same text under another id.

## Main results

* `SourceFile.agree_variantDefinition` — definitions do not depend on the id.
* `SourceFile.agree_classify` — the constructs of a file do not depend on the id.

## Design

`Extract.Agree` compares two computations, with one rule for each way in which computations are put
together. With the same id on both sides it says that what a computation returns does not depend on
the reports before it.
-/

namespace StyleExtract

open Script (Argument Declarator Expr Item Property)
open Text (Span)

/-- A failure without the file in which it happened. -/
def Failure.anonymous : Failure → Failure
  | .unsafeName e => .unsafeName { e with file := "" }
  | .misplaced => .misplaced

/-! ## Computations that come to the same -/

namespace Extract

variable {α β : Type}

/-- **Two computations come to the same**, whatever was reported before: they return the same, or
they fail for the same reason, possibly in different files. -/
def Agree (m n : Extract α) : Prop :=
  ∀ log log', (m.outcome log).mapError Failure.anonymous =
    (n.outcome log').mapError Failure.anonymous

lemma agree_pure (a : α) : Agree (pure a) (pure a) := fun _ _ => rfl

/-- Failures in different files. -/
lemma agree_throw {e e' : Failure} (h : e.anonymous = e'.anonymous) :
    Agree (throw e : Extract α) (throw e') :=
  fun _ _ => congrArg Except.error h

/-- One computation after the other.

**Proof sketch.** The first computations return the same or fail for the same reason. If they return
the same, the second ones start alike, up to the reports so far, which do not matter. -/
lemma agree_bind {m n : Extract α} {k l : α → Extract β} (hm : Agree m n)
    (hk : ∀ a, Agree (k a) (l a)) : Agree (m >>= k) (n >>= l) := by
  intro log log'
  have hfirst := hm log log'
  rw [outcome_bind, outcome_bind]
  unfold outcome at hfirst
  rcases hr : m.run.run log with ⟨r, mid⟩
  rcases hr' : n.run.run log' with ⟨r', mid'⟩
  rw [hr, hr'] at hfirst
  cases r with
  | error e =>
    cases r' with
    | error e' => exact congrArg Except.error (Except.error.inj hfirst)
    | ok a' => cases hfirst
  | ok a =>
    cases r' with
    | error e' => cases hfirst
    | ok a' =>
      obtain rfl : a = a' := Except.ok.inj hfirst
      exact hk a mid mid'

/-- The same choice on both sides. -/
lemma agree_ite {p : Prop} [Decidable p] {m n m' n' : Extract α} (hyes : Agree m n)
    (hno : Agree m' n') : Agree (if p then m else m') (if p then n else n') := by
  split
  · exact hyes
  · exact hno

/-- What is reported does not matter. -/
lemma agree_report {level level' : Level} {notice notice' : Notice} :
    Agree (report level notice) (report level' notice') := fun _ _ => rfl

/-- What is reported before does not matter. -/
lemma agree_report_then {level level' : Level} {notice notice' : Notice} {m n : Extract α}
    (h : Agree m n) : Agree (do report level notice; m) (do report level' notice'; n) :=
  agree_bind agree_report fun _ => h

/-- Steps that come to the same, one after the other. -/
lemma agree_foldlM {step step' : β → α → Extract β} (hstep : ∀ b a, Agree (step b a) (step' b a))
    (l : List α) (b : β) : Agree (l.foldlM step b) (l.foldlM step' b) := by
  induction l generalizing b with
  | nil => exact agree_pure b
  | cons a l ih =>
    rw [List.foldlM_cons, List.foldlM_cons]
    exact agree_bind (hstep b a) ih

/-- Steps that come to the same, for each member of a list. -/
lemma agree_mapM {step step' : α → Extract β} (hstep : ∀ a, Agree (step a) (step' a))
    (l : List α) : Agree (l.mapM step) (l.mapM step') := by
  induction l with
  | nil =>
    rw [List.mapM_nil, List.mapM_nil]
    exact agree_pure []
  | cons a l ih =>
    rw [List.mapM_cons, List.mapM_cons]
    exact agree_bind (hstep a) fun _ => agree_bind ih fun _ => agree_pure _

/-- Failures that differ in the file at most return nothing alike. -/
lemma toOption_eq_of_mapError_eq {r r' : Except Failure α}
    (h : r.mapError Failure.anonymous = r'.mapError Failure.anonymous) :
    r.toOption = r'.toOption := by
  cases r with
  | error e =>
    cases r' with
    | error e' => rfl
    | ok a' => cases h
  | ok a =>
    cases r' with
    | error e' => cases h
    | ok a' => exact congrArg some (Except.ok.inj h)

/-- What a computation returns, if it does not fail. -/
def returned (m : Extract α) : Option α := (m.outcome []).toOption

@[simp] lemma returned_pure (a : α) : returned (pure a) = some a := rfl

/-- One computation after the other, where the second one does not depend on reports. -/
lemma returned_bind (m : Extract α) {k : α → Extract β} (hk : ∀ a, Agree (k a) (k a)) :
    returned (m >>= k) = (returned m).bind fun a => returned (k a) := by
  unfold returned
  rw [outcome_bind, outcome]
  rcases m.run.run [] with ⟨r, mid⟩
  cases r with
  | error e => rfl
  | ok a => exact toOption_eq_of_mapError_eq (hk a mid [])

/-- A computation that does not depend on reports returns the same after all of them. -/
lemma returned_eq_some_iff {m : Extract α} (h : Agree m m) {a : α} (log : List LogEntry) :
    returned m = some a ↔ ∃ log', m.run.run log = (.ok a, log') := by
  have hsame : returned m = (m.outcome log).toOption := toOption_eq_of_mapError_eq (h [] log)
  rw [hsame, outcome]
  rcases m.run.run log with ⟨r, log'⟩
  cases r with
  | error e =>
    constructor
    · rintro ⟨⟩
    · rintro ⟨_, ⟨⟩⟩
  | ok b =>
    constructor
    · rintro ⟨⟩
      exact ⟨log', rfl⟩
    · rintro ⟨_, ⟨⟩⟩
      rfl

end Extract

/-! ## Reading under another id -/

namespace SourceFile

open Extract

/-- The same text under another id, with its reports at another level. -/
def relabel (f : SourceFile) (id : String) (level : Level) : SourceFile :=
  { f with id, skipLevel := level }

variable (f : SourceFile) (id : String) (level : Level)

lemma agree_slice (s : Span) : Agree (f.slice s) ((f.relabel id level).slice s) := by
  unfold slice
  simp only [relabel]
  cases Text.slice? f.chars s.start s.stop with
  | none => exact agree_throw rfl
  | some cs => exact agree_pure _

lemma agree_inner (s : Span) : Agree (f.inner s) ((f.relabel id level).inner s) := by
  unfold inner
  split
  · exact agree_pure _
  · exact f.agree_slice id level _

lemma agree_name (kind : NameKind) (s : String) :
    Agree (f.name kind s) ((f.relabel id level).name kind s) := by
  unfold name Name.check
  by_cases h : kind.accepts s = true
  · simp only [dif_pos h]
    exact agree_pure _
  · simp only [dif_neg h]
    exact agree_throw rfl

lemma agree_templateText (s : Span) (holes : List Expr) :
    Agree (f.templateText s holes) ((f.relabel id level).templateText s holes) := by
  cases holes with
  | nil => exact agree_bind (f.agree_inner id level s) fun _ => agree_pure _
  | cons e es => exact agree_pure _

lemma agree_styleText (e : Expr) :
    Agree (f.styleText e) ((f.relabel id level).styleText e) := by
  unfold styleText
  split
  · exact agree_bind (f.agree_inner id level _) fun _ => agree_pure _
  · exact f.agree_templateText id level _ _
  · exact agree_ite (f.agree_templateText id level _ _) (agree_pure _)
  · exact agree_pure _

lemma agree_renderTarget (e : Expr) :
    Agree (f.renderTarget e) ((f.relabel id level).renderTarget e) := by
  unfold renderTarget
  split
  · exact agree_bind (f.agree_name id level _ _) fun _ => agree_pure _
  · exact agree_bind (f.agree_name id level _ _) fun _ => agree_pure _
  · exact agree_pure _

/-! ## Definitions -/

lemma agree_valueStyles (entries : List (String × Expr)) :
    Agree (f.valueStyles entries) ((f.relabel id level).valueStyles entries) := by
  refine agree_foldlM (fun styles entry => ?_) entries _
  obtain ⟨key, e⟩ := entry
  refine agree_bind (f.agree_name id level .value key) fun value => ?_
  refine agree_bind (f.agree_styleText id level e) fun css => ?_
  cases css with
  | none => exact agree_report_then (agree_pure _)
  | some css => exact agree_pure _

lemma agree_dimensions (entries : List (String × Expr)) :
    Agree (f.dimensions entries) ((f.relabel id level).dimensions entries) := by
  refine agree_foldlM (fun all entry => ?_) entries _
  obtain ⟨key, e⟩ := entry
  refine agree_bind (f.agree_name id level .dimension key) fun dimension => ?_
  split
  · exact agree_bind (f.agree_valueStyles id level _) fun _ => agree_pure _
  · exact agree_report_then (agree_pure _)

lemma agree_declaredValues (e : Expr) :
    Agree (f.declaredValues e) ((f.relabel id level).declaredValues e) := by
  unfold declaredValues
  split
  · exact f.agree_dimensions id level _
  · exact agree_report_then (agree_pure _)

variable (values : OrderedMap Dimension (OrderedMap Value String))

lemma agree_defaultValues (e : Expr) :
    Agree (f.defaultValues values e) ((f.relabel id level).defaultValues values e) := by
  unfold defaultValues
  split
  · refine agree_foldlM (fun defaults entry => ?_) _ _
    obtain ⟨key, e⟩ := entry
    dsimp only
    split
    · exact agree_report_then (agree_pure _)
    · split
      · exact agree_pure _
      · exact agree_report_then (agree_pure _)
  · exact agree_report_then (agree_pure _)

lemma agree_compoundParts (entries : List (String × Expr)) (draft : CompoundDraft) :
    Agree (f.compoundParts values draft entries)
      ((f.relabel id level).compoundParts values draft entries) := by
  induction entries generalizing draft with
  | nil => exact agree_pure _
  | cons entry rest ih =>
    obtain ⟨key, e⟩ := entry
    rw [compoundParts, compoundParts]
    refine agree_ite (agree_bind (f.agree_styleText id level e) fun _ => ih _) ?_
    split
    · exact agree_report_then (agree_pure _)
    · split
      · exact ih _
      · exact agree_report_then (agree_pure _)

lemma agree_compound (e : Expr) :
    Agree (f.compound values e) ((f.relabel id level).compound values e) := by
  unfold compound
  split
  · refine agree_bind (f.agree_compoundParts id level values _ {}) fun draft => ?_
    split
    · exact agree_pure _
    · split
      · exact agree_ite (agree_report_then (agree_pure _)) (agree_pure _)
      · exact agree_report_then (agree_pure _)
  · exact agree_report_then (agree_pure _)

lemma agree_compounds (e : Expr) :
    Agree (f.compounds values e) ((f.relabel id level).compounds values e) := by
  unfold compounds
  split
  · refine agree_bind (agree_mapM (fun a => f.agree_compound id level values _) _) fun _ => ?_
    exact agree_pure _
  · exact agree_report_then (agree_pure _)

lemma agree_addProperty (v : Variants) (entry : String × Expr) :
    Agree (f.addProperty v entry) ((f.relabel id level).addProperty v entry) := by
  obtain ⟨key, e⟩ := entry
  unfold addProperty
  dsimp only
  split
  · refine agree_ite (agree_bind (f.agree_renderTarget id level e) fun target => ?_) (agree_pure _)
    exact agree_ite (agree_report_then (agree_pure _)) (agree_pure _)
  · refine agree_bind (f.agree_styleText id level e) fun css => ?_
    exact agree_ite (agree_report_then (agree_pure _)) (agree_pure _)
  · exact agree_bind (f.agree_defaultValues id level v.values e) fun _ => agree_pure _
  · exact agree_bind (f.agree_compounds id level v.values e) fun _ => agree_pure _
  · exact agree_pure _

/-- **Definitions do not depend on the id.** -/
lemma agree_variantDefinition (kind : VariantKind) (properties : List Property) :
    Agree (f.variantDefinition kind properties)
      ((f.relabel id level).variantDefinition kind properties) := by
  have hread : ∀ values, Agree ((staticEntries properties).foldlM f.addProperty
      ⟨kind, none, none, values, .empty, []⟩) ((staticEntries properties).foldlM
        (f.relabel id level).addProperty ⟨kind, none, none, values, .empty, []⟩) := fun values =>
    agree_foldlM (fun v entry => f.agree_addProperty id level v entry) _ _
  unfold variantDefinition
  dsimp only
  split
  · exact agree_bind (f.agree_declaredValues id level _) hread
  · exact agree_bind (agree_pure _) hread

/-! ## Constructs -/

lemma agree_callKind (callee : Expr) (args : List Expr) :
    Agree (f.callKind callee args) ((f.relabel id level).callKind callee args) := by
  unfold callKind
  split
  · refine agree_ite ?_ (agree_pure _)
    exact agree_bind (f.agree_name id level _ _) fun _ => agree_pure _
  · rw [show (f.relabel id level).attrsTag? callee = f.attrsTag? callee from rfl]
    split
    · refine agree_ite (agree_bind (f.agree_name id level _ _) fun _ => ?_) (agree_pure _)
      exact agree_bind (f.agree_slice id level _) fun _ => agree_pure _
    · exact agree_pure _
  · exact agree_pure _

lemma agree_templateKind (tag : Expr) :
    Agree (f.templateKind tag) ((f.relabel id level).templateKind tag) := by
  unfold templateKind
  split
  · rw [show (f.relabel id level).styledTag? _ = f.styledTag? _ from rfl]
    split
    · exact agree_bind (f.agree_name id level _ _) fun _ => agree_pure _
    · exact agree_pure _
  · exact f.agree_callKind id level _ _
  · rw [show (f.relabel id level).imports = f.imports from rfl]
    split
    all_goals exact agree_pure _
  · exact agree_pure _

lemma agree_renderAs (varName : String) (span : Span) (args : List Expr) :
    Agree (f.renderAs varName span args) ((f.relabel id level).renderAs varName span args) := by
  unfold renderAs
  split
  · split
    · refine agree_bind (f.agree_name id level _ _) fun source => ?_
      refine agree_bind (f.agree_renderTarget id level _) fun target => ?_
      cases target with
      | none => exact agree_pure _
      | some target => exact agree_pure _
    · exact agree_pure _
  · exact agree_pure _

lemma agree_variantCall (kind : VariantKind) (varName : String) (span : Span)
    (args : List Expr) : Agree (f.variantCall kind varName span args)
      ((f.relabel id level).variantCall kind varName span args) := by
  unfold variantCall
  split
  · split
    · exact agree_bind (f.agree_variantDefinition id level _ _) fun _ => agree_pure _
    · exact agree_pure _
  · exact agree_pure _

lemma agree_classifyInit (varName : String) (init : Expr) :
    Agree (f.classifyInit varName init) ((f.relabel id level).classifyInit varName init) := by
  unfold classifyInit
  split
  · refine agree_bind (f.agree_templateKind id level _) fun kind => ?_
    cases kind with
    | none => exact agree_pure _
    | some kind =>
      refine agree_bind (f.agree_templateText id level _ _) fun css => ?_
      cases css with
      | none => exact agree_report_then (agree_pure _)
      | some css => exact agree_pure _
  · rw [show (f.relabel id level).imports = f.imports from rfl]
    split
    · exact f.agree_variantCall id level _ _ _ _
    · exact f.agree_variantCall id level _ _ _ _
    · exact f.agree_renderAs id level _ _ _
    · exact agree_pure _
  · exact agree_pure _

/-- **The constructs of a file do not depend on the id.** -/
lemma agree_classify (items : List Item) :
    Agree (f.classify items) ((f.relabel id level).classify items) := by
  refine agree_bind (agree_mapM (fun d => ?_) _) fun _ => agree_pure _
  unfold classifyDeclarator
  split
  · exact f.agree_classifyInit id level _ _
  · exact agree_pure _

end SourceFile

end StyleExtract
