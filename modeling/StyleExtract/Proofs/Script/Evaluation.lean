import Mathlib.Data.List.Nodup
import Mathlib.Logic.Function.Basic
import Mathlib.Tactic.Common
import StyleExtract.Generated.Code
import StyleExtract.Proofs.Script.Value
import StyleExtract.Script.Grammar.Reader

/-!
# The scripts of generated resolvers

The part of the script language in which resolvers are written: terms, statements, functions that
take a selection apart, and the declaration of a table beside such a function. Each form has its
text and its meaning.

## Main definitions

* `Script.Term`, `Script.Entries` — terms and the entries of object literals.
* `Script.Statement` — statements.
* `Script.Head`, `Script.Resolver`, `Script.Program` — a parameter, a function, and a function with
  its table.
* `Script.Term.text`, `Script.Program.text` — what is written.
* `Script.Scope` — the values of names.
* `Script.Term.eval`, `Script.Statement.exec` — evaluation.
* `Script.IsBindingName`, `Script.Program.IsLegal` — the names that strict code may bind, and
  programs that bind no others.
* `Script.Program.run` — the class text that a program has gathered for a selection.

## Main results

* `Script.Entries.eval_ofPairs` — what the entries of a table evaluate to.
* `Script.Head.bind_of_mem`, `Script.Head.bind_of_notMem` — what the body of a function sees.

## Design

Names are resolved in a scope, so a parameter hides what has its name outside. A missing result is
an exception. The entry `__proto__` of an object literal is no entry but decides what the object
inherits from. A function that binds a name twice, or a name that strict code may not bind, is no
script at all, so its program computes nothing (`Script.Program.run`), for whatever selection.

What a component creates has no value here: only the class text that goes into it is computed, and
that is found in the term that is returned (`Script.Term.ownClass`).
-/

namespace StyleExtract.Script

open Text (utf16)

/-! ## Terms -/

/-- How the name of an entry is written. -/
inductive Label where
  /-- As it is. -/
  | plain (s : String)
  /-- Between quotes. -/
  | quoted (s : String)
  deriving DecidableEq

/-- The name itself. -/
def Label.key : Label → String
  | .plain s | .quoted s => s

/-- The text of a name. -/
def Label.text : Label → String
  | .plain s => s
  | .quoted s => Text.scriptQuote s

mutual

/-- A term of a generated function. -/
inductive Term where
  /-- The object that is none. -/
  | null
  /-- A truth value. -/
  | bool (b : Bool)
  /-- A decimal numeral. -/
  | numeral (n : ℕ)
  /-- A number with the other sign. -/
  | negated (t : Term)
  /-- A text between quotes. -/
  | quoted (s : String)
  /-- A name. -/
  | name (x : String)
  /-- The type of what a name stands for. -/
  | typeOf (x : String)
  /-- The comparison `===`. -/
  | same (a b : Term)
  /-- The choice `||`: the first value that counts as true, or else the second. -/
  | either (a b : Term)
  /-- The choice `&&`: the second value, unless the first counts as false. -/
  | both (a b : Term)
  /-- A term in parentheses. -/
  | group (t : Term)
  /-- The property with a fixed name. -/
  | member (t : Term) (x : String)
  /-- The property whose key is a value. -/
  | index (t key : Term)
  /-- A call with one argument. -/
  | call (f argument : Term)
  /-- A call with two arguments. -/
  | call₂ (f a b : Term)
  /-- An object literal. -/
  | object (entries : Entries)

/-- The entries of an object literal. -/
inductive Entries where
  /-- No entries. -/
  | nil
  /-- An entry with a name. -/
  | cons (label : Label) (value : Term) (rest : Entries)
  /-- All entries of a value. -/
  | spread (value : Term) (rest : Entries)

end

/-- The entries of a list of pairs. -/
@[simp] def Entries.ofList : List (Label × Term) → Entries
  | [] => .nil
  | (l, t) :: rest => .cons l t (ofList rest)

mutual

/-- The text of a term. -/
@[simp] def Term.text : Term → String
  | .null => "null"
  | .bool b => (ScalarKey.bool b).text
  | .numeral n => toString n
  | .negated t => "-" ++ t.text
  | .quoted s => Text.scriptQuote s
  | .name x => x
  | .typeOf x => "typeof " ++ x
  | .same a b => a.text ++ " === " ++ b.text
  | .either a b => a.text ++ " || " ++ b.text
  | .both a b => a.text ++ " && " ++ b.text
  | .group t => "(" ++ t.text ++ ")"
  | .member t x => t.text ++ "." ++ x
  | .index t k => t.text ++ "[" ++ k.text ++ "]"
  | .call f a => f.text ++ "(" ++ a.text ++ ")"
  | .call₂ f a b => f.text ++ "(" ++ a.text ++ ", " ++ b.text ++ ")"
  | .object entries => braced (Text.join ", " entries.texts)

/-- The texts of entries. -/
@[simp] def Entries.texts : Entries → List String
  | .nil => []
  | .cons l t rest => (l.text ++ ": " ++ t.text) :: rest.texts
  | .spread t rest => ("..." ++ t.text) :: rest.texts

end

/-- The values of names. -/
abbrev Scope := String → Option Value

/-- Gives a name a value. -/
def Scope.set (scope : Scope) (x : String) (v : Value) : Scope := Function.update scope x (some v)

/-- Leaves open what a name stands for. -/
def Scope.hide (scope : Scope) (x : String) : Scope := Function.update scope x none

mutual

/-- The value of a term. A numeral that would have to be rounded has none, and neither has the
opposite of what is no number. Calls with two arguments create and merge, which is left out. -/
@[simp] def Term.eval (host : Host) (scope : Scope) : Term → Option Value
  | .null => some .null
  | .bool b => some (.bool b)
  | .numeral n => if n ≤ ScalarKey.maxSafeInteger then some (.number (.ofInt n)) else none
  | .negated t =>
    match t.eval host scope with
    | some (.number x) => some (.number x.neg)
    | _ => none
  | .quoted s => some (.text (utf16 s))
  | .name x => scope x
  | .typeOf x => some (.text (utf16 (((scope x).map Value.typeOf).getD "undefined")))
  | .same a b => do
    let v ← a.eval host scope
    let w ← b.eval host scope
    return .bool (v.strictEq host w)
  | .either a b => do
    let v ← a.eval host scope
    if v.truthy then return v else b.eval host scope
  | .both a b => do
    let v ← a.eval host scope
    if v.truthy then b.eval host scope else return v
  | .group t => t.eval host scope
  | .member t x => do
    let v ← t.eval host scope
    v.get host (.text (utf16 x))
  | .index t k => do
    let v ← t.eval host scope
    let w ← k.eval host scope
    v.get host (← w.key host)
  | .call f a => do
    let g ← f.eval host scope
    let v ← a.eval host scope
    g.call host v
  | .call₂ .. => none
  | .object entries => do
    let (inherits, own) ← entries.eval host scope true []
    return .literal inherits own

/-- Adds entries to those of an object: `__proto__` with no object makes it inherit nothing, and
with what is no object at all it does nothing. Other objects to inherit from are left out, and so
are the entries of other values. -/
@[simp] def Entries.eval (host : Host) (scope : Scope) (inherits : Bool)
    (own : List (List UInt16 × Value)) : Entries → Option (Bool × List (List UInt16 × Value))
  | .nil => some (inherits, own)
  | .cons l t rest => do
    let v ← t.eval host scope
    if l.key = "__proto__" then
      match v with
      | .null => rest.eval host scope false own
      | v => if v.isObject then none else rest.eval host scope inherits own
    else rest.eval host scope inherits ((utf16 l.key, v) :: own)
  | .spread .. => none

end

/-- **The class that a returned term shows**: where an element is created with a merged class, the
first of the two that are merged, else what is returned. -/
def Term.ownClass : Term → Term
  | .call₂ _ _ (.object (.spread _ (.cons (.plain "className") (.call₂ _ own _) .nil))) => own
  | t => t

/-! ## Statements -/

/-- A statement of a generated function. -/
inductive Statement where
  /-- Declares a local. -/
  | declare (x : String) (t : Term)
  /-- Adds to a local. -/
  | append (x : String) (t : Term)
  /-- Does something under a condition. -/
  | when (test : Term) (yes : Statement)
  /-- Does one thing or the other. -/
  | choose (test : Term) (yes no : Statement)

/-- The text of a statement. -/
@[simp] def Statement.text : Statement → String
  | .declare x t => "let " ++ x ++ " = " ++ t.text ++ ";"
  | .append x t => x ++ " += " ++ t.text ++ ";"
  | .when test yes => "if (" ++ test.text ++ ") " ++ yes.text
  | .choose test yes no => "if (" ++ test.text ++ ") " ++ yes.text ++ "\n  else " ++ no.text

/-- The lines of statements. -/
def linesOf (body : List Statement) : String :=
  Text.concat (body.map fun s => "  " ++ s.text ++ "\n")

/-- The scope after a statement. -/
@[simp] def Statement.exec (host : Host) (scope : Scope) : Statement → Option Scope
  | .declare x t => do
    let v ← t.eval host scope
    return scope.set x v
  | .append x t => do
    let v ← scope x
    let w ← t.eval host scope
    return scope.set x (← v.plus host w)
  | .when test yes => do
    let v ← test.eval host scope
    if v.truthy then yes.exec host scope else return scope
  | .choose test yes no => do
    let v ← test.eval host scope
    if v.truthy then yes.exec host scope else no.exec host scope

/-- The scope after statements. -/
@[simp] def execAll (host : Host) (scope : Scope) : List Statement → Option Scope
  | [] => some scope
  | s :: rest => do
    let scope' ← s.exec host scope
    execAll host scope' rest

/-! ## Functions and programs -/

/-- A parameter that is taken from a property of the argument, with the text that stands in for it
where the property is missing. -/
structure Parameter where
  /-- The name of the property and of the parameter. -/
  name : String
  /-- The text that stands in. -/
  default : Option String

/-- The text of a parameter. -/
def Parameter.text (p : Parameter) : String :=
  match p.default with
  | some s => p.name ++ " = " ++ Text.scriptQuote s
  | none => p.name

/-- The value of a parameter. -/
def Parameter.value (selection : String → Value) (p : Parameter) : Value :=
  match selection p.name, p.default with
  | .undefined, some s => .text (utf16 s)
  | v, _ => v

/-- The scope with parameters, which hide what has their names outside. -/
@[simp] def bindParameters (selection : String → Value) : List Parameter → Scope → Scope
  | [], scope => scope
  | p :: ps, scope => bindParameters selection ps (scope.set p.name (p.value selection))

/-- What a function takes its argument as. -/
inductive Head where
  /-- Under a name of its own. -/
  | whole (x : String)
  /-- By its properties, with perhaps a name for those that are not taken. Without such a name the
  function may be called without an argument. -/
  | properties (ps : List Parameter) (others : Option String)

namespace Head

/-- The text of a parameter list. -/
def text : Head → String
  | whole x => x ++ " = \x7b\x7d"
  | properties ps none => braced (Text.join ", " (ps.map Parameter.text)) ++ " = \x7b\x7d"
  | properties ps (some x) => braced (Text.join ", " (ps.map Parameter.text ++ ["..." ++ x]))

/-- The names that are bound. -/
def names : Head → List String
  | whole x => [x]
  | properties ps others => ps.map Parameter.name ++ others.toList

/-- The scope of a function body. What the argument itself and its other properties are is left
open. -/
def bind (selection : String → Value) (outer : Scope) : Head → Scope
  | whole x => outer.hide x
  | properties ps none => bindParameters selection ps outer
  | properties ps (some x) => (bindParameters selection ps outer).hide x

end Head

/-- A generated function: it gathers a class text in a local and returns it, or what is rendered
with it. -/
structure Resolver where
  /-- What it takes its argument as. -/
  head : Head
  /-- Its statements. -/
  body : List Statement
  /-- What it returns. -/
  result : Term

namespace Resolver

/-- The text of the body. -/
def block (f : Resolver) : String :=
  "\x7b\n" ++ linesOf f.body ++ "  return " ++ f.result.text ++ ";\n\x7d"

/-- The text of a function. -/
def text (f : Resolver) : String := "(" ++ f.head.text ++ ") => " ++ f.block

/-- What a function has gathered when it returns. -/
def gathered (host : Host) (outer : Scope) (selection : String → Value) (f : Resolver) :
    Option Value := do
  let scope ← execAll host (f.head.bind selection outer) f.body
  f.result.ownClass.eval host scope

end Resolver

/-- A function with the table beside it and the properties that it is given. -/
structure Program where
  /-- The name and the literal of the table. -/
  table : Option (String × Term)
  /-- The function. -/
  resolver : Resolver
  /-- Its properties, if it is given any. -/
  exposed : Option Entries

/-! ## Names that may be bound -/

/-- The name of an identifier. -/
def IsIdentifierName (s : String) : Prop :=
  headTail Text.isIdentifierStart Text.isIdentifierPart s.toList = true

/-- **A name that strict code may bind**: the name of an identifier that is not reserved, and
neither `eval` nor `arguments`. -/
def IsBindingName (s : String) : Prop :=
  IsIdentifierName s ∧ isReserved s = false ∧ s ≠ "eval" ∧ s ≠ "arguments"

instance : DecidablePred IsIdentifierName := fun s =>
  inferInstanceAs (Decidable (headTail _ Text.isIdentifierPart s.toList = true))

instance : DecidablePred IsBindingName := fun s =>
  inferInstanceAs (Decidable (IsIdentifierName s ∧ _ ∧ _ ∧ _))

/-- The name that a statement declares. -/
def Statement.declared? : Statement → Option String
  | .declare x _ => some x
  | .append .. | .when .. | .choose .. => none

/-- The names that a function binds: by its parameter, and as locals. -/
def Resolver.names (f : Resolver) : List String :=
  f.head.names ++ f.body.filterMap Statement.declared?

namespace Program

/-- **A program without early errors**: the function binds no name twice, and it and the table bind
only names that strict code may bind. -/
structure IsLegal (p : Program) : Prop where
  /-- The function binds no name twice. -/
  nodup : p.resolver.names.Nodup
  /-- It binds only names that may be bound. -/
  names : ∀ x ∈ p.resolver.names, IsBindingName x
  /-- So does the table. -/
  table : ∀ t ∈ p.table, IsBindingName t.1

instance : DecidablePred IsLegal := fun p =>
  decidable_of_iff (p.resolver.names.Nodup ∧ (∀ x ∈ p.resolver.names, IsBindingName x) ∧
    ∀ t ∈ p.table, IsBindingName t.1) ⟨fun h => ⟨h.1, h.2.1, h.2.2⟩, fun h => ⟨h.1, h.2, h.3⟩⟩

/-- The text that stands in the place of the construct. -/
def text (p : Program) : String :=
  match p.exposed with
  | some entries =>
    pureMark ++ "Object.assign(" ++ p.resolver.text ++ ", " ++ (Term.object entries).text ++ ")"
  | none => p.resolver.text

/-- The scope in which the function is defined. -/
def scope (host : Host) (outer : Scope) (p : Program) : Option Scope :=
  match p.table with
  | some (x, t) => do return outer.set x (← t.eval host outer)
  | none => some outer

/-- **The class text that a program gathers for a selection**, in a scope with the names of the
program around. A program with an early error computes nothing. -/
def run (host : Host) (outer : Scope) (selection : String → Value) (p : Program) : Option Value :=
  if p.IsLegal then do p.resolver.gathered host (← p.scope host outer) selection else none

/-- A program with an early error computes nothing. -/
lemma run_of_not_isLegal {p : Program} (h : ¬ p.IsLegal) (host : Host) (outer : Scope)
    (selection : String → Value) : p.run host outer selection = none :=
  if_neg h

end Program

/-! ## Scopes -/

namespace Scope

variable (scope : Scope) (x y : String) (v w : Value)

@[simp] lemma set_self : scope.set x v x = some v := by simp [set]

lemma set_of_ne {y : String} (h : y ≠ x) : scope.set x v y = scope y := by simp [set, h]

@[simp] lemma set_set : (scope.set x v).set x w = scope.set x w := by simp [set]

lemma hide_of_ne {y : String} (h : y ≠ x) : scope.hide x y = scope y := by simp [hide, h]

/-- Giving a name the value that it has changes nothing. -/
lemma set_eq_self {scope : Scope} {x : String} {v : Value} (h : scope x = some v) :
    scope.set x v = scope := by
  rw [set, ← h, Function.update_eq_self]

end Scope

/-- What is no parameter has its value from outside. -/
lemma bindParameters_of_not_mem (selection : String → Value) {x : String} :
    ∀ (ps : List Parameter) (scope : Scope), x ∉ ps.map Parameter.name →
      bindParameters selection ps scope x = scope x := by
  intro ps
  induction ps with
  | nil => intro scope _; rfl
  | cons p ps ih =>
    intro scope h
    rw [List.map_cons, List.mem_cons, not_or] at h
    rw [bindParameters, ih _ h.2, Scope.set_of_ne _ _ _ h.1]

/-- A parameter has its own value, where all have different names. -/
lemma bindParameters_of_mem (selection : String → Value) {p : Parameter} :
    ∀ (ps : List Parameter) (scope : Scope), (ps.map Parameter.name).Nodup → p ∈ ps →
      bindParameters selection ps scope p.name = some (p.value selection) := by
  intro ps
  induction ps with
  | nil => intro scope _ h; cases h
  | cons q ps ih =>
    intro scope hnd h
    rw [List.map_cons, List.nodup_cons] at hnd
    rw [bindParameters]
    rcases List.mem_cons.mp h with rfl | h
    · rw [bindParameters_of_not_mem selection ps _ hnd.1, Scope.set_self]
    · exact ih _ hnd.2 h

namespace Head

/-- What is not bound has its value from outside. -/
lemma bind_of_notMem (selection : String → Value) (outer : Scope) {h : Head} {x : String}
    (hx : x ∉ h.names) : h.bind selection outer x = outer x := by
  cases h with
  | whole y => exact Scope.hide_of_ne _ _ (by simpa [names] using hx)
  | properties ps others =>
    rw [names, List.mem_append, not_or] at hx
    cases others with
    | none => exact bindParameters_of_not_mem selection ps outer hx.1
    | some y =>
      rw [bind, Scope.hide_of_ne _ _ (by simpa using hx.2)]
      exact bindParameters_of_not_mem selection ps outer hx.1

/-- A parameter has its own value, where all names are different. -/
lemma bind_of_mem (selection : String → Value) (outer : Scope) {ps : List Parameter}
    {others : Option String} (hnd : (properties ps others).names.Nodup) {p : Parameter}
    (hp : p ∈ ps) :
    (properties ps others).bind selection outer p.name = some (p.value selection) := by
  rw [names, List.nodup_append] at hnd
  have hvalue := bindParameters_of_mem selection ps outer hnd.1 hp
  cases others with
  | none => exact hvalue
  | some y =>
    have hne : p.name ≠ y := hnd.2.2 _ (List.mem_map_of_mem hp) _ (by simp)
    rw [bind, Scope.hide_of_ne _ _ hne, hvalue]

end Head

/-- Statements one after the other. -/
lemma execAll_append (host : Host) (a b : List Statement) :
    ∀ scope, execAll host scope (a ++ b) = (execAll host scope a).bind (execAll host · b) := by
  induction a with
  | nil => intro scope; rfl
  | cons s a ih =>
    intro scope
    cases h : s.exec host scope with
    | none => simp [execAll, h]
    | some scope' => simp [execAll, h, ih]

/-! ## Tables -/

/-- Entries of which none is `__proto__` are added, the latest first.

**Proof sketch.** Induction on the list of entries: each is put in front of those before it. -/
lemma Entries.eval_ofPairs (host : Host) (scope : Scope) (label : String → Label)
    (hl : ∀ s, (label s).key = s) (inherits : Bool) :
    ∀ (entries : List (String × Term × Value)) (own : List (List UInt16 × Value)),
      (∀ e ∈ entries, e.1 ≠ "__proto__" ∧ e.2.1.eval host scope = some e.2.2) →
      (Entries.ofList (entries.map fun e => (label e.1, e.2.1))).eval host scope inherits own =
        some (inherits, (entries.map fun e => (utf16 e.1, e.2.2)).reverse ++ own) := by
  intro entries
  induction entries with
  | nil => intro own _; rfl
  | cons e entries ih =>
    intro own h
    obtain ⟨hne, hv⟩ := h e (by simp)
    rw [List.map_cons, ofList, Entries.eval, hv]
    simp only [hl, hne, Option.bind_eq_bind, Option.bind_some, if_false]
    rw [ih _ fun e' he' => h e' (by simp [he'])]
    simp

/-- The texts of entries in a list. -/
lemma Entries.texts_ofList (entries : List (Label × Term)) :
    (Entries.ofList entries).texts = entries.map fun e => e.1.text ++ ": " ++ e.2.text := by
  induction entries with
  | nil => rfl
  | cons e entries ih => simp [ofList, texts, ih]

end StyleExtract.Script
