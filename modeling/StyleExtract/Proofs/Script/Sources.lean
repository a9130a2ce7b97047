import Mathlib.Tactic.Common
import StyleExtract.Proofs.Script.Literal
import StyleExtract.Script.Parse

/-!
# Where the sources of imports stand

The tree of a text keeps the source of an import as a value. This file follows the grammar from the
items of a module down to the string token of an import, and so finds the literal that the source is
the value of.

## Main definitions

* `Script.Rule.Ensures` — whatever a rule reads in a text has a property.
* `Script.SourceIn` — an item that, if it is an import, has its source in a text.

## Main results

* `Script.ensures_moduleItem` — the sources of imports that are read in a text stand in it.
* `Script.exists_source_literalIn` — the same for the imports of a whole module.

## Design

Rules only move forward, which their type says. So `Rule.Ensures` needs no hypothesis about the
rules that others call, and only the rules on the way to an import have to be looked at. All others
give items that are no imports.
-/

namespace StyleExtract.Script

namespace Rule

variable {α β σ ρ : Type} {text : List Char}

/-- **Whatever a rule reads in a text has a property.** -/
def Ensures (text : List Char) (rule : Rule α) (P : α → Prop) : Prop :=
  ∀ ctx (c : Cursor) a behind, c.here <:+ text → rule ctx c = some (a, behind) → P a

/-- Reading nothing. -/
lemma ensures_pure {P : α → Prop} {a : α} (h : P a) : Ensures text (pure a) P := by
  rintro ctx c b behind hc hrun
  cases hrun
  exact h

/-- Nothing is required of what is read. -/
lemma ensures_trivial (rule : Rule α) : Ensures text rule fun _ => True :=
  fun _ _ _ _ _ _ => trivial

/-- One rule after the other: the second one goes on in the same text. -/
lemma ensures_bind {P : β → Prop} (Q : α → Prop) {rule : Rule α} {next : α → Rule β}
    (hrule : Ensures text rule Q) (hnext : ∀ a, Q a → Ensures text (next a) P) :
    Ensures text (rule >>= next) P := by
  intro ctx c b behind hc hrun
  simp only [bind] at hrun
  split at hrun
  · cases hrun
  · next a mid hfirst =>
    split at hrun
    · cases hrun
    · next b' behind' hsecond =>
      cases hrun
      exact hnext a (hrule ctx c a mid hc hfirst) ctx mid.1 b behind' (mid.2.trans hc) hsecond

/-- One rule after another of which nothing is required. -/
lemma ensures_then {P : β → Prop} {rule : Rule α} {next : α → Rule β}
    (hnext : ∀ a, Ensures text (next a) P) : Ensures text (rule >>= next) P :=
  ensures_bind _ (ensures_trivial rule) fun a _ => hnext a

/-- One of two ways to go on. -/
lemma ensures_branch {P : β → Prop} {rule : Rule α} {p : α → Prop} [DecidablePred p]
    {yes no : α → Rule β} (hyes : ∀ a, Ensures text (yes a) P) (hno : ∀ a, Ensures text (no a) P) :
    Ensures text (rule >>= fun a => if p a then yes a else no a) P := by
  refine ensures_then fun a => ?_
  split
  · exact hyes a
  · exact hno a

/-- Reading with another context. -/
lemma ensures_within {P : α → Prop} {f : Context → Context} {rule : Rule α}
    (h : Ensures text rule P) : Ensures text (within f rule) P :=
  fun ctx => h (f ctx)

/-- A rule that never reads anything. -/
lemma ensures_fail {P : α → Prop} : Ensures text fail P := by
  intro ctx c a behind hc hrun
  cases hrun

/-- The cursor is in the text. -/
lemma ensures_cursor : Ensures text cursor fun c => c.here <:+ text := by
  intro ctx c c' behind hc hrun
  cases hrun
  exact hc

/-- **A property that every round keeps** gives one of the result. -/
lemma ensures_iterate {I : σ → Prop} {P : ρ → Prop} {step : σ → Rule (σ ⊕ ρ)}
    (hstep : ∀ s, I s → Ensures text (step s) (Sum.elim I P)) {s : σ} (hs : I s) :
    Ensures text (iterate s step) P := by
  refine ensures_then fun ctx => ?_
  generalize ctx.size + 2 = fuel
  induction fuel generalizing s with
  | zero => exact ensures_fail
  | succ fuel ih =>
    refine ensures_bind _ (hstep s hs) fun r hr => ?_
    cases r with
    | inl s' => exact ih hr
    | inr a => exact ensures_pure hr

end Rule

open Rule

/-! ## Imports -/

variable {text : List Char}

/-- The source of an import is the value of a literal that stands in a text. -/
def SourceIn (text : List Char) (item : Item) : Prop :=
  ∀ span d, item = .import span d → ∃ raw, LiteralIn text raw d.source

lemma sourceIn_other (span : Text.Span) : SourceIn text (.other span) := by
  rintro _ _ ⟨⟩

/-- A string that is read is the value of a literal that stands in the text. -/
lemma ensures_textLiteral : Ensures text textLiteral fun s => ∃ raw, LiteralIn text raw s := by
  unfold textLiteral
  refine ensures_bind _ ensures_cursor fun c hc => ?_
  split
  · next s htoken =>
    refine ensures_then fun _ => ensures_pure ?_
    obtain hinvalid | ⟨fuel, hscan⟩ := c.scanned
    · rw [hinvalid] at htoken
      cases htoken
    · obtain ⟨raw, hraw⟩ := exists_literalIn (hscan.symm.trans htoken)
      exact ⟨raw, hraw.of_suffix hc⟩
  · exact ensures_fail

lemma ensures_sourceClause (r : Rules) :
    Ensures text (sourceClause r) fun s => ∃ raw, LiteralIn text raw s := by
  unfold sourceClause
  refine ensures_then fun _ => ensures_bind _ ensures_textLiteral fun s hs => ?_
  exact ensures_then fun _ => ensures_then fun _ => ensures_pure hs

/-- The source of an import that is read stands in the text.

**Proof sketch.** The declaration is read step by step, with and without a default name and a list
of names. Every way that ends in an import ends in its source, which is a string token of the
text. -/
lemma ensures_importDeclaration (r : Rules) (start : ℕ) :
    Ensures text (importDeclaration r start) (SourceIn text) := by
  unfold importDeclaration
  refine ensures_then fun c => ?_
  split
  · refine ensures_bind _ ensures_textLiteral fun source hsource => ?_
    refine ensures_then fun _ => ensures_then fun _ => ensures_then fun span => ensures_pure ?_
    rintro _ _ ⟨⟩
    exact hsource
  · refine ensures_then fun typeOnly => ?_
    extract_lets behindNames behindType
    have hnames : ∀ names, Ensures text (behindNames names) (SourceIn text) := by
      intro names
      refine ensures_bind _ (ensures_sourceClause r) fun source hsource => ?_
      refine ensures_then fun span => ensures_pure ?_
      rintro _ _ ⟨⟩
      exact hsource
    have htype : ∀ u, Ensures text (behindType u) (SourceIn text) := by
      intro u
      refine ensures_then fun c => ?_
      extract_lets hasDefault behindDefault
      have hdefault : ∀ u, Ensures text (behindDefault u) (SourceIn text) := by
        intro u
        refine ensures_then fun comma => ?_
        extract_lets listed behindComma
        have hcomma : ∀ u, Ensures text (behindComma u) (SourceIn text) := by
          intro u
          simp only [behindComma]
          split
          · exact ensures_then hnames
          · exact ensures_then hnames
        split
        · exact ensures_then hcomma
        · exact hcomma ()
      split
      · refine ensures_then fun _ => ensures_then fun typed => ensures_then fun equals => ?_
        split
        · exact ensures_then fun _ => ensures_then fun span => ensures_pure (sourceIn_other span)
        · exact hdefault ()
      · exact hdefault ()
    split
    · exact ensures_then htype
    · exact htype ()

/-! ## Other items -/

lemma ensures_variableDeclaration (r : Rules) (start : ℕ) (kind : VariableKind) :
    Ensures text (variableDeclaration r start kind) (SourceIn text) := by
  unfold variableDeclaration
  refine ensures_then fun _ => ensures_then fun _ => ensures_then fun _ => ensures_then fun _ => ?_
  refine ensures_pure ?_
  rintro _ _ ⟨⟩

/-- What stands at the end of a rule that gives an item of no kind of its own. -/
lemma ensures_other (start : ℕ) :
    Ensures text (do return .other (← spanFrom start)) (SourceIn text) :=
  ensures_then fun span => ensures_pure (sourceIn_other span)

/-- An item that may be missing: if it is an import, its source is in a text. -/
def OptionalSourceIn (text : List Char) (item : Option Item) : Prop :=
  ∀ i ∈ item, SourceIn text i

lemma optionalSourceIn_none : OptionalSourceIn text none := by
  rintro _ ⟨⟩

lemma optionalSourceIn_some {item : Item} (h : SourceIn text item) :
    OptionalSourceIn text (some item) := by
  rintro _ ⟨⟩
  exact h

lemma ensures_some_other (start : ℕ) :
    Ensures text (do return some (.other (← spanFrom start))) (OptionalSourceIn text) :=
  ensures_then fun span => ensures_pure (optionalSourceIn_some (sourceIn_other span))

lemma ensures_ambientDeclaration? (r : Rules) (start : ℕ) :
    Ensures text (ambientDeclaration? r start) (OptionalSourceIn text) := by
  unfold ambientDeclaration?
  refine ensures_within ?_
  refine ensures_branch (fun _ => ensures_then fun _ => ensures_some_other start) fun _ => ?_
  refine ensures_branch (fun _ => ?_) fun _ => ?_
  · exact ensures_then fun _ => ensures_then fun _ => ensures_then fun _ => ensures_some_other start
  refine ensures_branch (fun _ => ensures_then fun _ => ensures_some_other start) fun _ => ?_
  refine ensures_branch (fun _ => ensures_some_other start) fun _ => ?_
  refine ensures_then fun kind => ?_
  split
  · refine ensures_bind _ (ensures_variableDeclaration r start _) fun item hitem => ?_
    exact ensures_pure (optionalSourceIn_some hitem)
  · refine ensures_branch (fun _ => ensures_some_other start) fun _ => ?_
    exact ensures_pure optionalSourceIn_none

/-- What stands behind `declare`, where nothing else may. -/
lemma ensures_ambientDeclaration (r : Rules) (start : ℕ) :
    Ensures text (do
      match ← ambientDeclaration? r start with
      | some item => return some item
      | none => fail) (OptionalSourceIn text) := by
  refine ensures_bind _ (ensures_ambientDeclaration? r start) fun item hitem => ?_
  cases item with
  | none => exact ensures_fail
  | some item => exact ensures_pure hitem

lemma ensures_typedDeclaration? (r : Rules) (start : ℕ) :
    Ensures text (typedDeclaration? r start) (OptionalSourceIn text) := by
  unfold typedDeclaration?
  refine ensures_branch (fun _ => ensures_pure optionalSourceIn_none) fun _ => ?_
  refine ensures_branch (fun _ => ?_) fun _ => ?_
  · refine ensures_then fun _ => ensures_then fun _ => ensures_then fun _ => ?_
    exact ensures_ambientDeclaration r start
  refine ensures_branch (fun _ => ensures_some_other start) fun _ => ?_
  refine ensures_branch (fun _ => ensures_some_other start) fun _ => ?_
  exact ensures_pure optionalSourceIn_none

lemma ensures_declaration? (r : Rules) (start : ℕ) :
    Ensures text (declaration? r start) (OptionalSourceIn text) := by
  unfold declaration?
  refine ensures_branch (fun _ => ensures_then fun _ => ensures_some_other start) fun _ => ?_
  refine ensures_branch (fun _ => ?_) fun _ => ?_
  · exact ensures_then fun _ => ensures_then fun _ => ensures_then fun _ => ensures_some_other start
  refine ensures_branch (fun _ => ensures_then fun _ => ensures_some_other start) fun _ => ?_
  refine ensures_then fun _ => ensures_branch (fun _ => ?_) fun _ => ?_
  · refine ensures_then fun _ => ensures_then fun _ => ensures_then fun _ => ?_
    exact ensures_then fun _ => ensures_some_other start
  · exact ensures_typedDeclaration? r start

lemma ensures_statement (r : Rules) (declarations : Bool) :
    Ensures text (statement r declarations) (SourceIn text) := by
  unfold statement
  refine ensures_within (ensures_then fun start => ?_)
  refine ensures_branch (fun _ => ensures_other start) fun _ => ?_
  refine ensures_branch (fun _ => ensures_then fun _ => ensures_other start) fun _ => ?_
  refine ensures_branch (fun _ => ensures_other start) fun _ => ?_
  extract_lets atExpression noDeclaration
  have hexpression : ∀ u, Ensures text (atExpression u) (SourceIn text) := by
    intro u
    refine ensures_then fun value => ensures_then fun _ => ensures_then fun span => ensures_pure ?_
    rintro _ _ ⟨⟩
  have hnoDeclaration : ∀ u, Ensures text (noDeclaration u) (SourceIn text) := by
    intro u
    refine ensures_then fun kind => ?_
    split
    · exact ensures_variableDeclaration r start _
    refine ensures_then fun _ => ensures_branch (fun _ => ?_) fun _ => ?_
    · exact ensures_then fun _ => ensures_other start
    refine ensures_then fun _ => ensures_then fun _ => ?_
    exact ensures_branch (fun _ => ensures_then hexpression) fun _ => hexpression ()
  split
  · refine ensures_bind _ (ensures_declaration? r start) fun item hitem => ?_
    split
    · exact ensures_pure (hitem _ rfl)
    refine ensures_branch (fun _ => ?_) fun _ => hnoDeclaration ()
    exact ensures_then fun _ => ensures_then fun _ => ensures_variableDeclaration r start _
  · exact ensures_branch (fun _ => ensures_then hnoDeclaration) fun _ => hnoDeclaration ()

lemma ensures_typedExport? (r : Rules) (start : ℕ) :
    Ensures text (typedExport? r start) (OptionalSourceIn text) := by
  unfold typedExport?
  refine ensures_branch (fun _ => ensures_pure optionalSourceIn_none) fun _ => ?_
  refine ensures_branch (fun _ => ensures_then fun _ => ensures_ambientDeclaration r start)
    fun _ => ?_
  refine ensures_branch (fun _ => ensures_some_other start) fun _ => ?_
  refine ensures_branch (fun _ => ?_) fun _ => ?_
  · refine ensures_then fun _ => ensures_then fun _ => ?_
    extract_lets behindType
    have hbehindType : ∀ u, Ensures text (behindType u) (OptionalSourceIn text) := fun _ =>
      ensures_then fun _ => ensures_then fun _ => ensures_some_other start
    split
    · exact ensures_then hbehindType
    · exact hbehindType ()
  refine ensures_branch (fun _ => ?_) fun _ => ?_
  · exact ensures_then fun _ => ensures_then fun _ => ensures_some_other start
  refine ensures_branch (fun _ => ?_) fun _ => ensures_pure optionalSourceIn_none
  exact ensures_then fun _ => ensures_then fun _ => ensures_then fun _ => ensures_some_other start

lemma ensures_exportDeclaration (r : Rules) (start : ℕ) :
    Ensures text (exportDeclaration r start) (SourceIn text) := by
  unfold exportDeclaration
  refine ensures_bind _ (ensures_typedExport? r start) fun item hitem => ?_
  split
  · exact ensures_pure (hitem _ rfl)
  refine ensures_then fun _ => ensures_branch (fun _ => ?_) fun _ => ?_
  · exact ensures_then fun _ => ensures_then fun _ => ensures_other start
  refine ensures_branch (fun _ => ensures_then fun _ => ensures_other start) fun _ => ?_
  refine ensures_bind _ (ensures_declaration? r start) fun item hitem => ?_
  split
  · exact ensures_pure (hitem _ rfl)
  refine ensures_then fun kind => ?_
  split
  · exact ensures_variableDeclaration r start _
  · exact ensures_then fun _ => ensures_other start

/-! ## Modules -/

/-- **The sources of imports that are read in a text stand in it.** -/
lemma ensures_moduleItem (r : Rules) : Ensures text (moduleItem r) (SourceIn text) := by
  unfold moduleItem
  refine ensures_then fun start => ensures_then fun _ => ensures_then fun _ => ?_
  refine ensures_branch (fun _ => ensures_then fun _ => ensures_importDeclaration r start)
    fun _ => ?_
  refine ensures_branch (fun _ => ensures_then fun _ => ensures_exportDeclaration r start)
    fun _ => ?_
  refine ensures_then fun _ => ensures_branch (fun _ => ?_) fun _ => ensures_statement r true
  refine ensures_branch (fun _ => ?_) fun _ => ensures_statement r true
  exact ensures_then fun _ => ensures_then fun _ => ensures_exportDeclaration r start

lemma ensures_moduleItems (depth : ℕ) :
    Ensures text (moduleItems (rules (depth + 1))) fun items => ∀ i ∈ items, SourceIn text i := by
  refine ensures_iterate (I := fun items => ∀ i ∈ items, SourceIn text i) ?_ (by simp)
  intro items hitems
  refine ensures_branch (fun _ => ensures_pure ?_) fun _ => ?_
  · simpa using hitems
  · refine ensures_bind _ (ensures_moduleItem (rules depth)) fun item hitem => ensures_pure ?_
    simpa using ⟨hitem, hitems⟩

lemma withoutMark_suffix (cs : List Char) : withoutMark cs <:+ cs := by
  unfold withoutMark
  split
  · exact List.suffix_cons _ _
  · exact List.suffix_rfl

/-- **An import of a module stands in its text**: its source is the value of a string literal of
the text. -/
lemma exists_source_literalIn {dialect : Dialect} {source : String} {m : Module} {span : Text.Span}
    {d : Import} (hparse : parseModule? dialect source = some m)
    (hmem : .import span d ∈ m.items) : ∃ raw, LiteralIn source.toList raw d.source := by
  simp only [parseModule?] at hparse
  split at hparse
  · next items behind hitems =>
    cases hparse
    refine ensures_moduleItems _ _ _ _ _ ?_ hitems _ hmem span d rfl
    calc (Cursor.ofText _ _ _).here
      _ <:+ _ := Cursor.here_ofText_suffix _ _ _
      _ <:+ withoutMark source.toList := List.drop_suffix _ _
      _ <:+ source.toList := withoutMark_suffix _
  · cases hparse

end StyleExtract.Script
