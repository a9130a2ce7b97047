import Mathlib.Logic.Function.Basic
import Mathlib.Tactic.Common
import StyleExtract.Generated.Code

/-!
# The scripts of generated components

The part of the script language in which components are written: calls, object literals with
spread entries, and functions of one parameter. Each form has its text and its meaning, and every
generated component is such a term.

## Main definitions

* `Component.Term`, `Component.Fields` — terms, and the fields of object literals.
* `Component.Term.text` — what is written.
* `Component.Value` — values.
* `Component.joinClasses` — class texts joined by blanks.
* `Component.Program` — the files of a program and the functions that they import.
* `Component.Term.eval`, `Component.Program.create` — evaluation, and the creation of elements.
* `componentTerm` — the term of a generated component.

## Main results

* `text_componentTerm` — its text is the text of the replacement.
* `Component.Program.eval_component` — its value shows what it is made to show.
* `Component.Program.eval_render` — what rendering it creates.

## Design

A function sees the names of the file that it is declared in, and its parameter hides what has its
name there. Creating an element from a component calls it, and it may create elements in turn, so
creation is bounded by a number of nested calls and what matters is whether some bound suffices. A
missing result is an exception. Source text of the author is not evaluated but taken from the
program.
-/

namespace StyleExtract

namespace Component

/-! ## Terms -/

mutual

/-- A term of a generated component. -/
inductive Term where
  /-- A text between quotes. -/
  | quoted (s : String)
  /-- A name. -/
  | name (x : String)
  /-- The property with a fixed name. -/
  | member (t : Term) (x : String)
  /-- A call with one argument. -/
  | call (f a : Term)
  /-- A call with two arguments. -/
  | call₂ (f a b : Term)
  /-- An object literal. -/
  | object (fields : Fields)
  /-- A function of one parameter. -/
  | function (param : String) (body : Term)
  /-- A call that is marked as free of effects. -/
  | marked (t : Term)

/-- The fields of an object literal. -/
inductive Fields where
  /-- No fields. -/
  | nil
  /-- All entries of a value. -/
  | spread (t : Term) (rest : Fields)
  /-- All entries of what some source text of the author stands for. -/
  | copied (source : String) (rest : Fields)
  /-- An entry. -/
  | entry (x : String) (t : Term) (rest : Fields)

end

mutual

/-- The text of a term. -/
@[simp] def Term.text : Term → String
  | .quoted s => Text.scriptQuote s
  | .name x => x
  | .member t x => t.text ++ "." ++ x
  | .call f a => f.text ++ "(" ++ a.text ++ ")"
  | .call₂ f a b => f.text ++ "(" ++ a.text ++ ", " ++ b.text ++ ")"
  | .object fields => braced (Text.join ", " fields.texts)
  | .function x body => "(" ++ x ++ ") => " ++ body.text
  | .marked t => pureMark ++ t.text

/-- The texts of fields. -/
@[simp] def Fields.texts : Fields → List String
  | .nil => []
  | .spread t rest => ("..." ++ t.text) :: rest.texts
  | .copied source rest => ("...(" ++ source ++ ")") :: rest.texts
  | .entry x t rest => (x ++ ": " ++ t.text) :: rest.texts

end

/-! ## Values -/

/-- A value. Entries are listed with the latest first. -/
inductive Value where
  /-- What a property that is not there stands for. -/
  | undefined
  /-- A text. -/
  | text (s : String)
  /-- An object literal. -/
  | object (entries : List (String × Value))
  /-- A function that a file declares, with the properties that it was given. -/
  | function (file param : String) (body : Term) (entries : List (String × Value))
  /-- An element. -/
  | element (tag : String) (entries : List (String × Value))
  /-- A function that is imported. -/
  | helper (h : Helper)
  /-- The global object of functions on objects. -/
  | objects
  /-- Its function that gives an object further entries. -/
  | assign

/-- The entries of an object, the latest first. -/
abbrev Entries := List (String × Value)

/-- The values of names. -/
abbrev Scope := String → Option Value

/-- Gives a name a value. -/
def Scope.set (scope : Scope) (x : String) (v : Value) : Scope := Function.update scope x (some v)

@[simp] lemma Scope.set_self (scope : Scope) (x : String) (v : Value) : scope.set x v x = some v :=
  Function.update_self _ _ _

lemma Scope.set_of_ne (scope : Scope) {x y : String} (h : y ≠ x) (v : Value) :
    scope.set x v y = scope y :=
  Function.update_of_ne h _ _

namespace Value

/-- The value of a property. Reading one of an undefined value is an exception. -/
def get : Value → String → Option Value
  | .undefined, _ => none
  | .object es, x | .function _ _ _ es, x => some ((es.lookup x).getD .undefined)
  | .objects, "assign" => some .assign
  | _, _ => some .undefined

/-- The entries that are spread. -/
def entries : Value → Entries
  | .object es | .function _ _ _ es => es
  | _ => []

/-- The class text that a value stands for, if it is a text or undefined. -/
def classText? : Value → Option String
  | .undefined => some ""
  | .text s => some s
  | _ => none

end Value

/-! ## Class texts -/

/-- **Class texts joined by one blank each**, where empty ones do not count. -/
def joinClasses (cs : List String) : String := Text.join " " (cs.filter (· ≠ ""))

/-- Two class texts with a blank between them, where empty ones do not count. -/
def merge (s t : String) : String := if s = "" then t else if t = "" then s else s ++ " " ++ t

@[simp] lemma merge_empty (s : String) : merge s "" = s := by
  simp only [merge, if_true]
  split
  · next h => exact h.symm
  · rfl

@[simp] lemma empty_merge (t : String) : merge "" t = t := rfl

/-- Only empty texts make up an empty one. -/
@[simp] lemma merge_eq_empty_iff {s t : String} : merge s t = "" ↔ s = "" ∧ t = "" := by
  unfold merge
  split
  · simp_all
  · split <;> simp_all

/-- A text that is added to a text changes it. -/
lemma merge_eq_left_iff {s t : String} : merge s t = s ↔ t = "" := by
  constructor
  · intro h
    by_contra ht
    have hs : s ≠ "" := fun hs => ht (by simpa [hs] using h)
    simp only [merge, hs, ht, if_false, String.append_assoc] at h
    have hlength := congrArg String.length h
    simp only [String.length_append] at hlength
    have hblank : " ".length = 1 := rfl
    omega
  · rintro rfl
    exact merge_empty s

lemma merge_assoc (s t u : String) : merge (merge s t) u = merge s (merge t u) := by
  by_cases hs : s = ""
  · simp [hs]
  · by_cases ht : t = ""
    · simp [ht]
    · by_cases hu : u = ""
      · simp [hu]
      · simp [merge, hs, ht, hu, String.append_assoc]

@[simp] lemma joinClasses_nil : joinClasses [] = "" := rfl

/-- Class texts are joined one by one.

**Proof sketch.** Empty texts are left out. If something is left behind the first text, it is not
empty, so a blank goes between them on both sides. -/
@[simp] lemma joinClasses_cons (c : String) (cs : List String) :
    joinClasses (c :: cs) = merge c (joinClasses cs) := by
  by_cases hc : c = ""
  · simp [joinClasses, hc]
  · have hkeep : (c :: cs).filter (· ≠ "") = c :: cs.filter (· ≠ "") := by simp [hc]
    rw [joinClasses, joinClasses, hkeep]
    cases hcs : cs.filter (· ≠ "") with
    | nil => simp [Text.join]
    | cons d ds =>
      have hd : d ∈ cs.filter (· ≠ "") := hcs ▸ List.mem_cons_self
      have hd : d ≠ "" := by simpa using (List.mem_filter.mp hd).2
      have hne : Text.join " " (d :: ds) ≠ "" := by
        cases ds with
        | nil => exact hd
        | cons e ds => simp [Text.join, hd]
      rw [Text.join, merge, if_neg hc, if_neg hne]
      exact fun h => nomatch h

/-- Class texts are joined group by group. -/
@[simp] lemma joinClasses_append (a b : List String) :
    joinClasses (a ++ b) = merge (joinClasses a) (joinClasses b) := by
  induction a with
  | nil => simp
  | cons c a ih => simp [ih, merge_assoc]

/-! ## Evaluation -/

/-- **A program**: the names that each of its files sees, and the functions that generated code
imports. -/
structure Program where
  /-- The values of the names in a file. -/
  scope : String → Scope
  /-- What joining two values as classes gives. -/
  mergeClasses : Value → Value → Option Value
  /-- The entries that an element keeps. -/
  filterProps : Entries → Entries
  /-- The entries that source text of the author adds where some names are seen. -/
  attributes : String → Scope → Option Entries
  /-- Every file sees the functions that generated code imports. -/
  scope_alias : ∀ file h, scope file h.alias = some (.helper h)
  /-- Every file sees the global object. -/
  scope_object : ∀ file, scope file "Object" = some .objects
  /-- Texts are joined by one blank each, where empty and undefined ones do not count. -/
  mergeClasses_eq : ∀ {a b s t}, a.classText? = some s → b.classText? = some t →
    mergeClasses a b = some (.text (joinClasses [s, t]))

section Eval

variable (p : Program) (create : Value → Value → Option Value)

/-- A call with one argument. -/
def Program.apply : Value → Value → Option Value
  | .helper .filterProps, .object es => some (.object (p.filterProps es))
  | _, _ => none

/-- A call with two arguments. -/
def Program.apply₂ : Value → Value → Value → Option Value
  | .helper .createElement, target, props => create target props
  | .helper .mergeClasses, a, b => p.mergeClasses a b
  | .assign, .function file x body es, .object new => some (.function file x body (new ++ es))
  | _, _, _ => none

variable (file : String) (scope : Scope)

mutual

/-- The value of a term in a file where some names are seen. -/
@[simp] def Term.eval : Term → Option Value
  | .quoted s => some (.text s)
  | .name x => scope x
  | .member t x => t.eval.bind (·.get x)
  | .call f a => do p.apply (← f.eval) (← a.eval)
  | .call₂ f a b => do p.apply₂ create (← f.eval) (← a.eval) (← b.eval)
  | .object fields => fields.eval.map .object
  | .function x body => some (.function file x body [])
  | .marked t => t.eval

/-- The entries of fields. What comes later hides what comes before. -/
@[simp] def Fields.eval : Fields → Option Entries
  | .nil => some []
  | .spread t rest => do
    let v ← t.eval
    return (← rest.eval) ++ v.entries
  | .copied source rest => do
    let es ← p.attributes source scope
    return (← rest.eval) ++ es
  | .entry x t rest => do
    let v ← t.eval
    return (← rest.eval) ++ [(x, v)]

end

end Eval

/-- **The creation of an element** within a number of nested calls: a tag makes an element, and a
component is called. -/
def Program.create (p : Program) : ℕ → Value → Value → Option Value
  | _ + 1, .text tag, .object es => some (.element tag es)
  | n + 1, .function file x body _, v => body.eval p (p.create n) file ((p.scope file).set x v)
  | _, _, _ => none

/-- The value of a term at the top of a file, where no element is created. -/
def Program.value (p : Program) (file : String) (t : Term) : Option Value :=
  t.eval p (p.create 0) file (p.scope file)

end Component

/-! ## The terms of generated components -/

open Component (Term Fields)

/-- The class of what a name stands for. -/
def classOfTerm (x : String) : Term := .member (.name x) "className"

/-- The term of a class expression. -/
def ClassExpr.term : ClassExpr → Term
  | .literal s => .quoted s
  | .gathered => .name classLocal
  | .classOf b => classOfTerm b.text
  | .after b s => .call₂ (.name Helper.mergeClasses.alias) (classOfTerm b.text) (.quoted s)

/-- The term of a target. -/
def Target.term : Target → Term
  | .tag t => .quoted t.text
  | .component b => .name b.text

namespace Render

variable (r : Render)

/-- The term of the caller's properties. -/
def spreadTerm : Term :=
  match r.target with
  | .tag _ => .call (.name Helper.filterProps.alias) (.name r.props.text)
  | .component _ => .name r.props.text

/-- The term of the merged classes. -/
def mergedTerm : Term :=
  .call₂ (.name Helper.mergeClasses.alias) r.className.term (classOfTerm r.props.text)

/-- The fields of a creation. -/
def fields : Fields :=
  let own := Fields.spread r.spreadTerm (.entry "className" r.mergedTerm .nil)
  match r.attrs with
  | some source => .copied source own
  | none => own

/-- The term of a creation. -/
def term : Term := .call₂ (.name Helper.createElement.alias) r.target.term (.object r.fields)

end Render

/-- **The term of a generated component.** -/
def componentTerm (r : Render) (exposed : ClassExpr) (display : String) : Term :=
  .marked (.call₂ (.member (.name "Object") "assign") (.function "props" r.term)
    (.object (.entry "className" exposed.term (.entry "displayName" (.quoted display) .nil))))

lemma ClassExpr.text_term (e : ClassExpr) : e.term.text = e.text := by
  cases e <;> simp [ClassExpr.term, ClassExpr.text, classOfTerm, Term.text, String.append_assoc]

lemma Target.text_term (t : Target) : t.term.text = t.text := by
  cases t <;> rfl

lemma Render.text_spreadTerm (r : Render) : "..." ++ r.spreadTerm.text = r.spread := by
  unfold Render.spreadTerm Render.spread
  cases r.target <;> simp [Term.text, String.append_assoc]

lemma Render.text_mergedTerm (r : Render) : r.mergedTerm.text =
    Helper.mergeClasses.alias ++ "(" ++ r.className.text ++ ", " ++ r.props.text ++
      ".className)" := by
  simp [Render.mergedTerm, classOfTerm, Term.text, r.className.text_term, String.append_assoc]

lemma Render.text_term (r : Render) : r.term.text = r.text := by
  have hcomma : ", className: " = ", " ++ "className: " := rfl
  have hfields : Text.join ", " r.fields.texts =
      (match r.attrs with
        | some source => "...(" ++ source ++ "), "
        | none => "") ++ r.spread ++ ", className: " ++ r.mergedTerm.text := by
    rw [← r.text_spreadTerm, Render.fields, hcomma]
    cases r.attrs <;> simp only [Fields.texts, Text.join, String.append_assoc] <;> rfl
  rw [Render.term, Term.text, Term.text, Term.text, hfields, r.target.text_term, r.text_mergedTerm]
  rfl

/-- **The text of the term** is the text of the replacement. -/
theorem text_componentTerm (r : Render) (exposed : ClassExpr) (display : String) :
    (componentTerm r exposed display).text = (Code.component r exposed display).text := by
  have hcomma : ", displayName: " = ", " ++ "displayName: " := rfl
  simp only [componentTerm, Code.text, exposing, Term.text, Fields.texts, Text.join, r.text_term,
    exposed.text_term, hcomma, String.append_assoc]
  rfl

/-! ## The values of generated components -/

namespace Component

/-- The class that a caller gives, if it is a text or not given. -/
def callerClass? (props : Entries) : Option String :=
  ((props.lookup "className").getD .undefined).classText?

@[simp] lemma callerClass?_cons (s : String) (props : Entries) :
    callerClass? (("className", .text s) :: props) = some s := rfl

namespace Program

variable (p : Program) (file : String)

/-- The names that a generated component of a file sees: its parameter hides a name of the file. -/
def inner (props : Entries) : Scope := (p.scope file).set "props" (.object props)

@[simp] lemma inner_props (props : Entries) : p.inner file props "props" = some (.object props) :=
  Scope.set_self _ _ _

lemma inner_of_ne (props : Entries) {x : String} (h : x ≠ "props") :
    p.inner file props x = p.scope file x :=
  Scope.set_of_ne _ h _

@[simp] lemma inner_alias (props : Entries) (h : Helper) :
    p.inner file props h.alias = some (.helper h) := by
  rw [inner_of_ne _ _ _ (by cases h <;> decide), p.scope_alias]

/-- The entries that the author adds to a creation. -/
def attrsOf (r : Render) (scope : Scope) : Option Entries :=
  match r.attrs with
  | some source => p.attributes source scope
  | none => some []

/-- The entries of the caller that a creation keeps. -/
def kept (r : Render) (props : Entries) : Entries :=
  match r.target with
  | .tag _ => p.filterProps props
  | .component _ => props

/-- The class that the function behind a name shows. -/
lemma eval_classOfTerm {create : Value → Value → Option Value} {scope : Scope} {x : String}
    {home param : String} {body : Term} {es : Entries} {c : Value}
    (hx : scope x = some (.function home param body es)) (hc : es.lookup "className" = some c) :
    (classOfTerm x).eval p create file scope = some c := by
  simp [classOfTerm, Term.eval, hx, Value.get, hc]

/-- **A generated component** is a function that shows its class. -/
lemma value_component (r : Render) {exposed : ClassExpr} (display : String) {c : Value}
    (hc : exposed.term.eval p (p.create 0) file (p.scope file) = some c) :
    ∃ es, p.value file (componentTerm r exposed display) =
        some (.function file "props" r.term es) ∧ es.lookup "className" = some c := by
  refine ⟨[("displayName", .text display), ("className", c)], ?_, rfl⟩
  simp [value, componentTerm, Term.eval, Fields.eval, p.scope_object, Value.get, apply₂, hc]

/-- **What rendering a generated component creates**: its target with the entries of the author and
the caller, and with its class before the caller's.

**Proof sketch.** The fields are evaluated in order. The attributes of the author come first, then
what is spread of the properties of the caller, and the merged class comes last and so wins. -/
lemma eval_render {r : Render} {create : Value → Value → Option Value} {props attrs : Entries}
    {t c : Value} {s k : String} (hprops : r.props = .whole)
    (ht : r.target.term.eval p create file (p.inner file props) = some t)
    (hc : r.className.term.eval p create file (p.inner file props) = some c)
    (hs : c.classText? = some s) (hk : callerClass? props = some k)
    (hattrs : p.attrsOf r (p.inner file props) = some attrs) :
    r.term.eval p create file (p.inner file props) =
      create t
        (.object (("className", .text (joinClasses [s, k])) :: (p.kept r props ++ attrs))) := by
  have hmerged : r.mergedTerm.eval p create file (p.inner file props) =
      some (.text (joinClasses [s, k])) := by
    simp only [Render.mergedTerm, classOfTerm, Term.eval, hprops, PropsName.text]
    simp [hc, Value.get, apply₂, p.mergeClasses_eq hs hk]
  have hspread : ∃ v, r.spreadTerm.eval p create file (p.inner file props) = some v ∧
      v.entries = p.kept r props := by
    unfold Render.spreadTerm kept
    cases r.target <;> simp [hprops, PropsName.text, Term.eval, apply, Value.entries]
  obtain ⟨v, hv, hentries⟩ := hspread
  have hfields : r.fields.eval p create file (p.inner file props) =
      some (("className", .text (joinClasses [s, k])) :: (p.kept r props ++ attrs)) := by
    unfold Render.fields attrsOf at *
    cases hr : r.attrs with
    | none =>
      obtain rfl : [] = attrs := by simpa [hr] using hattrs
      simp [Fields.eval, hv, hmerged, hentries]
    | some source =>
      rw [hr] at hattrs
      simp [Fields.eval, hattrs, hv, hmerged, hentries]
  simp [Render.term, Term.eval, ht, hfields, apply₂]

end Program

end Component

end StyleExtract
