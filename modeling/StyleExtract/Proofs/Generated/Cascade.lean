import StyleExtract.Generated.Generator
import StyleExtract.Proofs.Script.Component

/-!
# The order of classes in chains of components

A component that extends another one renders it with a class of its own, and the other one puts its
class in front. So the classes of a chain come out in the order of the chain, with the class of the
caller at the end, and what a component shows as its class has the same order. The one exception is
a component called `props`: it is hidden by the parameter of the function that refers to it.

## Main definitions

* `Chain` — an element with styles, and the components that extend it one after the other.
* `Wrapper` — a component that is rendered as a tag or as another one.
* `Chain.Declared`, `Wrapper.Declared` — a program declares them.
* `Component.Program.Renders` — a component renders an element with classes before the caller's.

## Main results

* `Chain.exists_value`, `Chain.renders_iff` — the class that a chain shows, and when it renders it.
* `cascade_order` — both for chains and for components that are rendered as others.
-/

namespace StyleExtract

open Component

/-! ## Rendering -/

namespace Component.Program

variable (p : Program)

/-- **Rendering a component reaches a value**: enough nested calls give it. -/
def Reaches (v : Component.Value) (props : Entries) (e : Component.Value) : Prop :=
  ∃ n, p.create n v (.object props) = some e

/-- **A component renders an element with classes**: whatever the caller gives, exactly one element
is reached, and the class of the caller comes behind these classes. -/
def Renders (v : Component.Value) (tag : String) (classes : List String) : Prop :=
  ∀ props k, callerClass? props = some k →
    ∃ es, (∀ e, p.Reaches v props e ↔ e = .element tag es) ∧
      es.lookup "className" = some (.text (joinClasses (classes ++ [k])))

/-- A component is rendered by its body. -/
lemma reaches_function_iff {file : String} {body : Term} {es props : Entries}
    {e : Component.Value} :
    p.Reaches (.function file "props" body es) props e ↔
      ∃ n, body.eval p (p.create n) file (p.inner file props) = some e := by
  constructor
  · rintro ⟨n, hn⟩
    cases n with
    | zero => cases hn
    | succ n => exact ⟨n, hn⟩
  · rintro ⟨n, hn⟩
    exact ⟨n + 1, hn⟩

/-- A tag makes an element at once. -/
lemma reaches_text_iff {tag : String} {props : Entries} {e : Component.Value} :
    p.Reaches (.text tag) props e ↔ e = .element tag props := by
  constructor
  · rintro ⟨n, hn⟩
    cases n with
    | zero => cases hn
    | succ n => exact (Option.some.inj hn).symm
  · rintro rfl
    exact ⟨1, rfl⟩

/-- The properties of a component are no component. -/
lemma not_reaches_object {es props : Entries} {e : Component.Value} :
    ¬ p.Reaches (.object es) props e := by
  rintro ⟨n, hn⟩
  cases n <;> cases hn

/-- What a component of a file renders: its target, with its class before the caller's. -/
lemma reaches_render_iff {r : Render} {file : String} {es props attrs : Entries}
    {t c e : Component.Value} {s k : String} (hprops : r.props = .whole)
    (ht : ∀ create, r.target.term.eval p create file (p.inner file props) = some t)
    (hc : ∀ create, r.className.term.eval p create file (p.inner file props) = some c)
    (hs : c.classText? = some s) (hk : callerClass? props = some k)
    (hattrs : p.attrsOf r (p.inner file props) = some attrs) :
    p.Reaches (.function file "props" r.term es) props e ↔
      p.Reaches t (("className", .text (joinClasses [s, k])) :: (p.kept r props ++ attrs)) e := by
  rw [reaches_function_iff]
  simp only [p.eval_render file hprops (ht _) (hc _) hs hk hattrs]
  rfl

end Component.Program

/-! ## Chains -/

/-- Where a component is declared, and under which class. -/
structure Site where
  /-- The file. -/
  file : String
  /-- The variable. -/
  varName : String
  /-- The styles as written. -/
  css : String
  /-- The place of the initializer. -/
  span : Text.Span
  /-- The class. -/
  className : String

/-- **A chain of components**: an element with styles, and those that extend it one after the
other, each by the name that it has where it is extended. -/
inductive Chain where
  /-- An element, with or without further properties. -/
  | element (site : Site) (tag : Tag) (attrs : Option String)
  /-- A component that extends another one. -/
  | extension (site : Site) (base : Binding) (of : Chain)

namespace Chain

/-- Where the last component of a chain is declared. -/
def site : Chain → Site
  | .element site _ _ | .extension site _ _ => site

/-- What the last component of a chain is made from. -/
def kind : Chain → ConstructKind
  | .element _ tag none => .element tag
  | .element _ tag (some source) => .attrs tag source
  | .extension _ base _ => .extension base

/-- The construct of the last component of a chain. -/
def construct (c : Chain) : Construct := ⟨c.kind, c.site.varName, c.site.css, c.site.span⟩

/-- What the last component of a chain creates. -/
def render : Chain → Render
  | .element site tag attrs => ⟨.tag tag, .whole, attrs, .literal site.className⟩
  | .extension site base _ => ⟨.component base, .whole, none, .literal site.className⟩

/-- What the last component of a chain shows as its class. -/
def exposed : Chain → ClassExpr
  | .element site _ _ => .literal site.className
  | .extension site base _ => .after base site.className

/-- The term of the last component of a chain. -/
def term (c : Chain) : Term := componentTerm c.render c.exposed c.site.varName

/-- The term has the text of the replacement. -/
lemma text_term (c : Chain) (g : Generator) :
    (g.construct c.construct (some c.site.className)).1.code.text = c.term.text := by
  rw [term, text_componentTerm]
  cases c with
  | element site tag attrs => cases attrs <;> rfl
  | extension site base of => rfl

/-- The classes of a chain, from the element on. -/
def classes : Chain → List String
  | .element site _ _ => [site.className]
  | .extension site _ of => of.classes ++ [site.className]

/-- The tag of the element. -/
def tag : Chain → String
  | .element _ tag _ => tag.text
  | .extension _ _ of => of.tag

/-- The names by which the components of a chain are extended. -/
def bases : Chain → List String
  | .element _ _ _ => []
  | .extension _ base of => base.text :: of.bases

/-- The value of the last component of a chain. -/
def value (p : Program) (c : Chain) : Option Component.Value := p.value c.site.file c.term

/-- **A program declares a chain**: every name stands for the component that it names, and further
properties of the element can be evaluated. -/
def Declared (p : Program) : Chain → Prop
  | .element site _ attrs => site.className ≠ "" ∧
    ∀ source ∈ attrs, ∀ props, (p.attributes source (p.inner site.file props)).isSome = true
  | .extension site base of =>
    site.className ≠ "" ∧ p.scope site.file base.text = of.value p ∧ of.Declared p

/-- **What a chain shows**: its last component is a function with the classes of the chain in
order.

**Proof sketch.** Induction on the chain. An element shows its own class. An extension merges the
class that its base shows, which is that of the chain before it, with its own. -/
lemma exists_value {p : Program} {c : Chain} (h : c.Declared p) :
    ∃ es, c.value p = some (.function c.site.file "props" c.render.term es) ∧
      es.lookup "className" = some (.text (joinClasses c.classes)) := by
  induction c with
  | element site tag attrs =>
    have hclasses : joinClasses (element site tag attrs).classes = site.className := by
      simp [classes]
    rw [hclasses]
    exact p.value_component _ _ _ rfl
  | extension site base of ih =>
    obtain ⟨-, hbase, hof⟩ := h
    obtain ⟨es, hvalue, hes⟩ := ih hof
    rw [hvalue] at hbase
    have hclasses : joinClasses (extension site base of).classes =
        joinClasses [joinClasses of.classes, site.className] := by
      simp [classes]
    rw [hclasses]
    apply p.value_component
    have hshown : (classOfTerm base.text).eval p (p.create 0) site.file (p.scope site.file) =
        some (.text (joinClasses of.classes)) :=
      p.eval_classOfTerm _ hbase hes
    simp only [exposed, ClassExpr.term, Chain.site, Term.eval, p.scope_alias, hshown]
    exact p.mergeClasses_eq (a := .text _) (b := .text _) rfl rfl

end Chain

/-! ## Components that render others -/

section Target

variable {p : Program} {file : String} {b : Binding} {cls : ClassExpr} {es props : Entries}
  {c e : Component.Value} {s k : String}

/-- **Rendering a component that renders another one** comes down to rendering that one with the
class in front of the caller's, unless it is called `props`. -/
lemma reaches_component_iff {v : Component.Value} (hv : p.scope file b.text = some v)
    (hne : b.text ≠ "props")
    (hc : ∀ create, cls.term.eval p create file (p.inner file props) = some c)
    (hs : c.classText? = some s) (hk : callerClass? props = some k) :
    p.Reaches (.function file "props" (Render.term ⟨.component b, .whole, none, cls⟩) es) props e ↔
      p.Reaches v (("className", .text (joinClasses [s, k])) :: props) e := by
  have ht : ∀ create,
      (Target.component b).term.eval p create file (p.inner file props) = some v := by
    intro create
    rw [Target.term, Term.eval, p.inner_of_ne _ _ hne, hv]
  rw [p.reaches_render_iff rfl ht hc hs hk rfl, Program.kept, List.append_nil]

/-- A component called `props` is hidden by the parameter of the function that refers to it, and the
properties in its place are no component. -/
lemma not_reaches_component (hb : b.text = "props")
    (hc : ∀ create, cls.term.eval p create file (p.inner file props) = some c)
    (hs : c.classText? = some s) (hk : callerClass? props = some k) :
    ¬ p.Reaches (.function file "props" (Render.term ⟨.component b, .whole, none, cls⟩) es)
      props e := by
  have ht : ∀ create, (Target.component b).term.eval p create file (p.inner file props) =
      some (.object props) := by
    intro create
    rw [Target.term, Term.eval, hb, p.inner_props]
  rw [p.reaches_render_iff rfl ht hc hs hk rfl]
  exact p.not_reaches_object

/-- Rendering a component that renders a tag reaches an element with the class in front of the
caller's. -/
lemma reaches_tag_iff {t : Tag} {source : Option String} {attrs : Entries}
    (hc : ∀ create, cls.term.eval p create file (p.inner file props) = some c)
    (hs : c.classText? = some s) (hk : callerClass? props = some k)
    (hattrs : p.attrsOf ⟨.tag t, .whole, source, cls⟩ (p.inner file props) = some attrs) :
    p.Reaches (.function file "props" (Render.term ⟨.tag t, .whole, source, cls⟩) es) props e ↔
      e = .element t.text
        (("className", .text (joinClasses [s, k])) :: (p.filterProps props ++ attrs)) := by
  rw [p.reaches_render_iff rfl (fun _ => rfl) hc hs hk hattrs, p.reaches_text_iff]
  rfl

end Target

namespace Chain

/-- **A chain renders its classes in order** if no component in it is extended by the name
`props`.

**Proof sketch.** Induction on the chain. An element is created with its class before that of the
caller. An extension calls its base with its own class before that of the caller, and the base,
whose name is not that of the parameter, puts the classes of the chain before both. -/
lemma renders {p : Program} {c : Chain} (h : c.Declared p) (hbases : "props" ∉ c.bases)
    {v : Component.Value} (hv : c.value p = some v) : p.Renders v c.tag c.classes := by
  induction c generalizing v with
  | element site tag attrs =>
    intro props k hk
    obtain ⟨es, hvalue, -⟩ := exists_value h
    obtain rfl := Option.some.inj (hv.symm.trans hvalue)
    have hattrs : ∃ a, p.attrsOf (element site tag attrs).render (p.inner site.file props) =
        some a := by
      cases attrs with
      | none => exact ⟨[], rfl⟩
      | some source => exact Option.isSome_iff_exists.mp (h.2 source rfl props)
    obtain ⟨a, ha⟩ := hattrs
    refine ⟨_, fun e => reaches_tag_iff (fun _ => rfl) rfl hk ha, ?_⟩
    simp [classes]
  | extension site base of ih =>
    intro props k hk
    obtain ⟨es, hvalue, -⟩ := exists_value h
    obtain rfl := Option.some.inj (hv.symm.trans hvalue)
    obtain ⟨-, hbase, hof⟩ := h
    obtain ⟨es', hvalue', -⟩ := exists_value hof
    rw [bases, List.mem_cons, not_or] at hbases
    rw [hvalue'] at hbase
    -- the extended component is called with this component's class in front of the caller's
    obtain ⟨result, hreach, hclass⟩ := ih hof hbases.2 hvalue'
      (("className", .text (joinClasses [site.className, k])) :: props) _ (callerClass?_cons _ _)
    refine ⟨result, fun e => ?_, ?_⟩
    · exact (reaches_component_iff hbase (Ne.symm hbases.1) (fun _ => rfl) rfl hk).trans (hreach e)
    · rw [hclass]
      simp [classes]

/-- A chain in which a component is extended by the name `props` renders nothing.

**Proof sketch.** The base with the name of the parameter is looked up as the properties of the
caller, which cannot be called. An extension further out only passes its properties on, so the
failure is reached all the same. -/
lemma not_reaches {p : Program} {c : Chain} (h : c.Declared p) (hbases : "props" ∈ c.bases)
    {v : Component.Value} (hv : c.value p = some v) {props : Entries} {k : String}
    (hk : callerClass? props = some k) (e : Component.Value) : ¬ p.Reaches v props e := by
  induction c generalizing v props k with
  | element site tag attrs => cases hbases
  | extension site base of ih =>
    obtain ⟨es, hvalue, -⟩ := exists_value h
    obtain rfl := Option.some.inj (hv.symm.trans hvalue)
    obtain ⟨-, hbase, hof⟩ := h
    obtain ⟨es', hvalue', -⟩ := exists_value hof
    rw [hvalue'] at hbase
    by_cases hprops : base.text = "props"
    · exact not_reaches_component hprops (fun _ => rfl) rfl hk
    · have hbases' := (List.mem_cons.mp hbases).resolve_left (Ne.symm hprops)
      intro hreach
      have hreach' := (reaches_component_iff hbase hprops (fun _ => rfl) rfl hk).mp hreach
      exact ih hof hbases' hvalue' (callerClass?_cons _ _) hreach'

/-- A chain shows some class. -/
lemma joinClasses_classes_ne {p : Program} {c : Chain} (h : c.Declared p) :
    joinClasses c.classes ≠ "" := by
  cases c with
  | element site tag attrs => simpa [classes] using h.1
  | extension site base of => simpa [classes] using fun _ => h.1

/-- **A chain renders its classes in order** exactly if no component in it is extended by the name
`props`. -/
theorem renders_iff {p : Program} {c : Chain} (h : c.Declared p) {v : Component.Value}
    (hv : c.value p = some v) : p.Renders v c.tag c.classes ↔ "props" ∉ c.bases := by
  constructor
  · intro hrenders hbases
    obtain ⟨es, hreach, -⟩ := hrenders [] "" rfl
    exact not_reaches h hbases hv rfl _ ((hreach _).mpr rfl)
  · exact fun hbases => renders h hbases hv

end Chain

/-! ## Components that are rendered as others -/

/-- What a component is rendered as. -/
inductive Shape where
  /-- A tag. -/
  | tag (t : Tag)
  /-- The last component of a chain, by its name. -/
  | component (name : Binding) (c : Chain)

namespace Shape

/-- The target in the construct. -/
def target : Shape → Target
  | .tag t => .tag t
  | .component name _ => .component name

/-- The tag of the element. -/
def tagText : Shape → String
  | .tag t => t.text
  | .component _ c => c.tag

/-- The classes that come with it. -/
def classes : Shape → List String
  | .tag _ => []
  | .component _ c => c.classes

/-- The names by which components are rendered. -/
def names : Shape → List String
  | .tag _ => []
  | .component name c => name.text :: c.bases

/-- A program declares it for a file. -/
def Declared (p : Program) (file : String) : Shape → Prop
  | .tag _ => True
  | .component name c => p.scope file name.text = c.value p ∧ c.Declared p

end Shape

/-- **A component that is rendered as something else**, with the class of a chain. -/
structure Wrapper where
  /-- The file. -/
  file : String
  /-- The variable. -/
  varName : String
  /-- The place of the initializer. -/
  span : Text.Span
  /-- What it is rendered as. -/
  shape : Shape
  /-- The name of the component whose class it has. -/
  source : Binding
  /-- The chain of that component. -/
  of : Chain

namespace Wrapper

variable (w : Wrapper)

/-- The construct of a wrapper. -/
def renderAs : RenderAs := ⟨w.shape.target, w.source, w.varName, w.span⟩

/-- What a wrapper creates. -/
def render : Render := ⟨w.shape.target, .whole, none, .classOf w.source⟩

/-- The term of a wrapper. -/
def term : Term := componentTerm w.render (.classOf w.source) w.varName

/-- The term has the text of the replacement. -/
lemma text_term (g : Generator) : (g.renderAs w.renderAs).1.code.text = w.term.text := by
  rw [term, text_componentTerm]
  rfl

/-- The value of a wrapper. -/
def value (p : Program) : Option Component.Value := p.value w.file w.term

/-- The names that the function of a wrapper refers to, and those by which it renders. -/
def names : List String := w.source.text :: w.shape.names

/-- A program declares a wrapper: every name stands for the component that it names. -/
structure Declared (p : Program) : Prop where
  /-- What it is rendered as is declared. -/
  shape : w.shape.Declared p w.file
  /-- Its source is named. -/
  source : p.scope w.file w.source.text = w.of.value p
  /-- Its source is declared. -/
  of : w.of.Declared p

variable {w}

/-- A wrapper shows the classes of its source. -/
lemma exists_value {p : Program} (h : w.Declared p) :
    ∃ es, w.value p = some (.function w.file "props" w.render.term es) ∧
      es.lookup "className" = some (.text (joinClasses w.of.classes)) := by
  obtain ⟨es, hvalue, hes⟩ := Chain.exists_value h.of
  exact p.value_component _ _ _ (p.eval_classOfTerm _ (h.source.trans hvalue) hes)

/-- The class that a wrapper puts in front: that of its source, or that of the caller if the source
is called `props`. -/
def frontClass (w : Wrapper) (k : String) : String :=
  if w.source.text = "props" then k else joinClasses w.of.classes

/-- The class in front, as the function of a wrapper finds it. -/
lemma exists_eval_source {p : Program} (h : w.Declared p) {props : Entries} {k : String}
    (hk : callerClass? props = some k) :
    ∃ c, (∀ create, (ClassExpr.classOf w.source).term.eval p create w.file
      (p.inner w.file props) = some c) ∧ c.classText? = some (w.frontClass k) := by
  by_cases hprops : w.source.text = "props"
  · refine ⟨(props.lookup "className").getD .undefined, fun create => ?_, ?_⟩
    · simp [ClassExpr.term, classOfTerm, Term.eval, hprops, Value.get]
    · rw [frontClass, if_pos hprops]
      exact hk
  · obtain ⟨es, hvalue, hes⟩ := Chain.exists_value h.of
    refine ⟨.text (joinClasses w.of.classes), fun create => ?_, ?_⟩
    · rw [← h.source, ← p.inner_of_ne w.file props hprops] at hvalue
      exact p.eval_classOfTerm _ hvalue hes
    · rw [frontClass, if_neg hprops]
      rfl

/-- What a wrapper renders if what it is rendered as is not called `props`.

**Proof sketch.** The wrapper calls what it is rendered as with the class of its source in front of
the caller's. A tag is created with these two, and a component adds the classes of its chain in
front (`Chain.renders`). -/
lemma exists_reaches_iff {p : Program} (h : w.Declared p) (hnames : "props" ∉ w.shape.names)
    {v : Component.Value} (hv : w.value p = some v) {props : Entries} {k : String}
    (hk : callerClass? props = some k) :
    ∃ es, (∀ e, p.Reaches v props e ↔ e = .element w.shape.tagText es) ∧
      es.lookup "className" =
        some (.text (joinClasses (w.shape.classes ++ [w.frontClass k, k]))) := by
  obtain ⟨es, hvalue, -⟩ := exists_value h
  obtain rfl := Option.some.inj (hv.symm.trans hvalue)
  obtain ⟨c, hc, hs⟩ := exists_eval_source h hk
  have hshape := h.shape
  unfold render
  cases hw : w.shape with
  | tag t =>
    exact ⟨_, fun e => reaches_tag_iff hc hs hk rfl, by simp [Shape.classes]⟩
  | component name chain =>
    rw [hw] at hshape hnames
    rw [Shape.names, List.mem_cons, not_or] at hnames
    obtain ⟨es', hvalue', -⟩ := Chain.exists_value hshape.2
    obtain ⟨result, hreach, hclass⟩ := Chain.renders hshape.2 hnames.2 hvalue'
      (("className", .text (joinClasses [w.frontClass k, k])) :: props) _ (callerClass?_cons _ _)
    refine ⟨result, fun e => ?_, ?_⟩
    · exact (reaches_component_iff (hshape.1.trans hvalue') (Ne.symm hnames.1) hc hs hk).trans
        (hreach e)
    · rw [hclass]
      simp [Shape.classes]

/-- A wrapper renders nothing if what it is rendered as is called `props`. -/
lemma not_reaches {p : Program} (h : w.Declared p) (hnames : "props" ∈ w.shape.names)
    {v : Component.Value} (hv : w.value p = some v) {props : Entries} {k : String}
    (hk : callerClass? props = some k) (e : Component.Value) : ¬ p.Reaches v props e := by
  obtain ⟨es, hvalue, -⟩ := exists_value h
  obtain rfl := Option.some.inj (hv.symm.trans hvalue)
  obtain ⟨c, hc, hs⟩ := exists_eval_source h hk
  have hshape := h.shape
  unfold render
  cases hw : w.shape with
  | tag t =>
    rw [hw] at hnames
    cases hnames
  | component name chain =>
    rw [hw] at hshape hnames
    by_cases hprops : name.text = "props"
    · exact not_reaches_component hprops hc hs hk
    · have hbases := (List.mem_cons.mp hnames).resolve_left (Ne.symm hprops)
      obtain ⟨es', hvalue', -⟩ := Chain.exists_value hshape.2
      intro hreach
      have hreach' := (reaches_component_iff (hshape.1.trans hvalue') hprops hc hs hk).mp hreach
      exact Chain.not_reaches hshape.2 hbases hvalue' (callerClass?_cons _ _) _ hreach'

/-- **A wrapper renders the classes of what it is rendered as, then those of its source**, exactly
if none of the components in it is called `props`.

**Proof sketch.** A hidden target is never rendered. A hidden source gives the class of the caller
twice, which differs where the caller gives none. -/
theorem renders_iff {p : Program} (h : w.Declared p) {v : Component.Value}
    (hv : w.value p = some v) :
    p.Renders v w.shape.tagText (w.shape.classes ++ w.of.classes) ↔ "props" ∉ w.names := by
  rw [names, List.mem_cons, not_or]
  constructor
  · intro hrenders
    obtain ⟨es, hreach, hclass⟩ := hrenders [] "" rfl
    have hnames : "props" ∉ w.shape.names := fun hnames =>
      not_reaches h hnames hv rfl _ ((hreach _).mpr rfl)
    refine ⟨fun hsource => ?_, hnames⟩
    have hnone : callerClass? [] = some "" := rfl
    obtain ⟨es', hreach', hclass'⟩ := exists_reaches_iff h hnames hv hnone
    obtain ⟨-, rfl⟩ := Component.Value.element.inj ((hreach' _).mp ((hreach _).mpr rfl))
    rw [hclass'] at hclass
    have htext := Component.Value.text.inj (Option.some.inj hclass)
    simp only [frontClass, ← hsource, if_true, joinClasses_append, joinClasses_cons,
      joinClasses_nil, merge_empty] at htext
    exact Chain.joinClasses_classes_ne h.of (merge_eq_left_iff.mp htext.symm)
  · rintro ⟨hsource, hnames⟩ props k hk
    obtain ⟨es, hreach, hclass⟩ := exists_reaches_iff h hnames hv hk
    refine ⟨es, hreach, ?_⟩
    rw [hclass, frontClass, if_neg (Ne.symm hsource)]
    simp

end Wrapper

/-! ## The order of classes -/

/-- **The order of classes in what is generated.** The last component of a chain shows the classes
of the chain from the element on, and renders the element with these and the class of the caller
behind them exactly if no component of the chain is extended by the name `props`. A component that
is rendered as something else shows the classes of its source, and renders the classes of what it is
rendered as, then those, then the class of the caller, exactly if it names none of them `props`.

**Proof sketch.** What chains and wrappers show is computed when they are declared
(`Chain.exists_value`, `Wrapper.exists_value`). What they render is followed from the outermost
component to the element (`Chain.renders_iff`, `Wrapper.renders_iff`); a base with the name of the
parameter is taken for the properties, which are no component. -/
theorem cascade_order (p : Program) :
    (∀ c : Chain, c.Declared p →
      (∀ g : Generator,
        (g.construct c.construct (some c.site.className)).1.code.text = c.term.text) ∧
      ∃ v, c.value p = some v ∧ v.get "className" = some (.text (joinClasses c.classes)) ∧
        (p.Renders v c.tag c.classes ↔ "props" ∉ c.bases)) ∧
    (∀ w : Wrapper, w.Declared p →
      (∀ g : Generator, (g.renderAs w.renderAs).1.code.text = w.term.text) ∧
      ∃ v, w.value p = some v ∧ v.get "className" = some (.text (joinClasses w.of.classes)) ∧
        (p.Renders v w.shape.tagText (w.shape.classes ++ w.of.classes) ↔ "props" ∉ w.names)) := by
  constructor
  · intro c h
    obtain ⟨es, hvalue, hes⟩ := Chain.exists_value h
    refine ⟨c.text_term, _, hvalue, ?_, Chain.renders_iff h hvalue⟩
    simp [Value.get, hes]
  · intro w h
    obtain ⟨es, hvalue, hes⟩ := Wrapper.exists_value h
    refine ⟨w.text_term, _, hvalue, ?_, Wrapper.renders_iff h hvalue⟩
    simp [Value.get, hes]

namespace Sample

/-- A program whose files see what generated code refers to, and some other names. -/
def program (names : Entries) : Program where
  scope _ x := List.lookup x (("Object", .objects) :: ("__ss_h", .helper .createElement) ::
    ("__ss_cx", .helper .mergeClasses) :: ("__ss_filter", .helper .filterProps) :: names)
  mergeClasses a b := do return .text (joinClasses [← a.classText?, ← b.classText?])
  filterProps := id
  attributes _ _ := some []
  scope_alias _ h := by cases h <;> rfl
  scope_object _ := rfl
  mergeClasses_eq ha hb := by simp [ha, hb]

/-- A variable of a file, under a class. -/
def site (x className : String) : Site := ⟨"f.js", x, "", ⟨0, 0⟩, className⟩

/-- An element under a variable. -/
def link (x : String) : Chain := .element (site x "ss-link-f") ⟨"a", by decide⟩ none

/-- The value of the element. -/
def linkValue (x : String) : Component.Value :=
  .function "f.js" "props" (link x).render.term
    [("displayName", .text x), ("className", .text "ss-link-f")]

/-- A component that extends the element. -/
def button (x : Binding) : Chain := .extension (site "Button" "ss-Button-f") x (link x.text)

/-- The value of the component. -/
def buttonValue (x : Binding) : Component.Value :=
  .function "f.js" "props" (button x).render.term
    [("displayName", .text "Button"), ("className", .text "ss-link-f ss-Button-f")]

lemma declared_link (p : Program) (x : String) : (link x).Declared p :=
  ⟨(by decide : "ss-link-f" ≠ ""), fun _ h => nomatch h⟩

end Sample

open Sample

/-- A component that extends a link, and the link rendered with the class of the component. -/
theorem cascade_order_sample :
    let Link : Binding := ⟨"Link", by decide⟩
    let p := program [("Link", linkValue "Link"), ("Button", buttonValue Link)]
    let w : Wrapper := ⟨"f.js", "Both", ⟨0, 0⟩, .component Link (link "Link"),
      ⟨"Button", by decide⟩, button Link⟩
    ((button Link).Declared p ∧ ∃ v, (button Link).value p = some v ∧
      v.get "className" = some (.text "ss-link-f ss-Button-f") ∧
      p.Renders v "a" ["ss-link-f", "ss-Button-f"]) ∧
    w.Declared p ∧ ∃ v, w.value p = some v ∧
      v.get "className" = some (.text "ss-link-f ss-Button-f") ∧
      p.Renders v "a" ["ss-link-f", "ss-link-f", "ss-Button-f"] := by
  intro Link p w
  have hbutton : (button Link).Declared p := ⟨by decide, rfl, declared_link p _⟩
  have hw : w.Declared p := ⟨⟨rfl, declared_link p _⟩, rfl, hbutton⟩
  obtain ⟨hchain, hwrapper⟩ := cascade_order p
  obtain ⟨-, v, hv, hclass, hrenders⟩ := hchain _ hbutton
  obtain ⟨-, v', hv', hclass', hrenders'⟩ := hwrapper _ hw
  exact ⟨⟨hbutton, v, hv, hclass, hrenders.mpr (by decide)⟩, hw, v', hv', hclass',
    hrenders'.mpr (by decide)⟩

/-- A component that extends one called `props` renders nothing. -/
theorem extension_of_props_not_rendered :
    let base : Binding := ⟨"props", by decide⟩
    let p := program [("props", linkValue "props")]
    (button base).Declared p ∧ ∃ v, (button base).value p = some v ∧
      v.get "className" = some (.text "ss-link-f ss-Button-f") ∧
      ∀ e, ¬ p.Reaches v [("className", .text "k")] e := by
  intro base p
  have hbutton : (button base).Declared p := ⟨by decide, rfl, declared_link p _⟩
  refine ⟨hbutton, buttonValue base, rfl, rfl, ?_⟩
  exact Chain.not_reaches hbutton (by decide) rfl rfl

end StyleExtract
