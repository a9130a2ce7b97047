import StyleExtract.Generated.Plan
import StyleExtract.Text.Quoted

/-!
# Generated code

The expressions that replace constructs, as data, and their text. Names that come from the author
are validated bindings, texts are written as string literals, and only the argument of `attrs` is
copied as it stands.

## Main definitions

* `Helper` — the functions that generated code imports, with their local names.
* `ClassExpr`, `Render`, `Lookup`, `Code` — the expressions.
* `Table` — a declaration that a replacement depends on.
* `Code.text`, `Table.text` — what is written.
* `Code.uses` — the helpers that an expression refers to.
-/

namespace StyleExtract

/-- A function that generated code imports. -/
inductive Helper where
  /-- Creates an element. -/
  | createElement
  /-- Joins class texts. -/
  | mergeClasses
  /-- Drops properties that are none of an element. -/
  | filterProps
  deriving DecidableEq, Repr

/-- The local name of a helper. -/
def Helper.alias : Helper → String
  | .createElement => "__ss_h"
  | .mergeClasses => "__ss_cx"
  | .filterProps => "__ss_filter"

/-- The parameter that holds the properties of a component. -/
inductive PropsName where
  /-- All properties. -/
  | whole
  /-- Those that are no dimension. -/
  | others
  deriving DecidableEq, Repr

/-- The text of the parameter. -/
def PropsName.text : PropsName → String
  | .whole => "props"
  | .others => "__ss_props"

/-- The local in which a resolver gathers classes. -/
def classLocal : String := "__ss_c"

/-- An expression for a class text. -/
inductive ClassExpr where
  /-- A literal class. -/
  | literal (s : String)
  /-- What the resolver has gathered. -/
  | gathered
  /-- The class of another component. -/
  | classOf (b : Binding)
  /-- The class of another component, then a literal class. -/
  | after (b : Binding) (s : String)
  deriving DecidableEq

/-- The creation of an element: the construct's class comes before the caller's. -/
structure Render where
  /-- What is rendered. -/
  target : Target
  /-- The parameter with the caller's properties. -/
  props : PropsName
  /-- Further properties, by their source text. -/
  attrs : Option String
  /-- The class of the construct. -/
  className : ClassExpr
  deriving DecidableEq

/-- How a resolver finds class texts. -/
inductive Lookup where
  /-- By tests. -/
  | branches
  /-- In the table with a name. -/
  | table (name : Binding)
  deriving DecidableEq

/-- An expression that replaces a construct. -/
inductive Code where
  /-- A component that renders nothing. -/
  | nothing
  /-- A class or animation name. -/
  | name (s : String)
  /-- A component that shows its class and its name. -/
  | component (render : Render) (exposed : ClassExpr) (display : String)
  /-- A function from a selection to a class text. -/
  | classResolver (plan : Plan) (lookup : Lookup)
  /-- A component whose class depends on a selection. -/
  | componentResolver (plan : Plan) (lookup : Lookup) (target : Target) (display : String)
  deriving DecidableEq

/-- A table of class texts by dimension and value. -/
structure Table where
  /-- The constant that holds it. -/
  name : Binding
  /-- The plan that it tabulates. -/
  plan : Plan
  deriving DecidableEq

/-! ## Text -/

/-- The comment that marks a call as free of effects. -/
def pureMark : String := "/*#__PURE__*/"

/-- Text between braces with a blank on both sides. -/
def braced (s : String) : String := "\x7b " ++ s ++ " \x7d"

/-- A tag as a literal, a component as its name. -/
def Target.text : Target → String
  | .tag t => Text.scriptQuote t.text
  | .component b => b.text

/-- The text of a class expression. -/
def ClassExpr.text : ClassExpr → String
  | .literal s => Text.scriptQuote s
  | .gathered => classLocal
  | .classOf b => b.text ++ ".className"
  | .after b s =>
    Helper.mergeClasses.alias ++ "(" ++ b.text ++ ".className, " ++ Text.scriptQuote s ++ ")"

/-- The caller's properties: filtered for an element, as they are for a component. -/
def Render.spread (r : Render) : String :=
  match r.target with
  | .tag _ => "..." ++ Helper.filterProps.alias ++ "(" ++ r.props.text ++ ")"
  | .component _ => "..." ++ r.props.text

/-- The text of a creation. -/
def Render.text (r : Render) : String :=
  let attrs := match r.attrs with
    | some source => "...(" ++ source ++ "), "
    | none => ""
  let merged := Helper.mergeClasses.alias ++ "(" ++ r.className.text ++ ", " ++ r.props.text ++
    ".className)"
  Helper.createElement.alias ++ "(" ++ r.target.text ++ ", " ++
    braced (attrs ++ r.spread ++ ", className: " ++ merged) ++ ")"

/-- The test of a branch: the text, or the other selection that stands for it. -/
def ValuePlan.test (name : String) (v : ValuePlan) : String :=
  let textual := name ++ " === " ++ Text.scriptQuote v.value.text
  match v.key? with
  | some key => textual ++ " || " ++ name ++ " === " ++ key.text
  | none => textual

/-- One branch of a chain. -/
def ValuePlan.branch (name keyword : String) (v : ValuePlan) : String :=
  "  " ++ keyword ++ " (" ++ v.test name ++ ") " ++ classLocal ++ " += " ++
    Text.scriptQuote v.suffix ++ ";\n"

/-- The chain of a dimension. -/
def DimensionPlan.branches (d : DimensionPlan) : String :=
  match d.values with
  | [] => ""
  | v :: vs =>
    v.branch d.name.text "if" ++ Text.concat (vs.map fun v => v.branch d.name.text "else if")

/-- The look-up of a dimension in a table: only selections whose text is their identity reach the
table, since a property access turns its key into a text. -/
def DimensionPlan.lookup (table : String) (d : DimensionPlan) : String :=
  let name := d.name.text
  "  " ++ classLocal ++ " += (typeof " ++ name ++ " === \"string\" || typeof " ++ name ++
    " === \"boolean\" || Number.isSafeInteger(" ++ name ++ ")) && " ++ table ++ "." ++ name ++
    "[" ++ name ++ "] || \"\";\n"

/-- The statements that gather the classes of a selection. -/
def Lookup.text (plan : Plan) : Lookup → String
  | .branches => Text.concat (plan.dimensions.map DimensionPlan.branches)
  | .table name => Text.concat (plan.inhabited.map (DimensionPlan.lookup name.text))

/-- The parameters of a resolver: each dimension with its default. -/
def Plan.params (p : Plan) : List String :=
  p.dimensions.map fun d =>
    match d.default with
    | some v => d.name.text ++ " = " ++ Text.scriptQuote v.text
    | none => d.name.text

/-- The body of a resolver: start with the base, gather, return. -/
def resolverBody (plan : Plan) (lookup : Lookup) (result : String) : String :=
  "\x7b\n  let " ++ classLocal ++ " = " ++ Text.scriptQuote plan.base ++ ";\n" ++
    lookup.text plan ++ "  return " ++ result ++ ";\n\x7d"

/-- A callable that also shows its class and its name. -/
def exposing (callable className display : String) : String :=
  pureMark ++ "Object.assign(" ++ callable ++ ", " ++
    braced ("className: " ++ className ++ ", displayName: " ++ Text.scriptQuote display) ++ ")"

/-- The text of a replacement. -/
def Code.text : Code → String
  | .nothing => "() => null"
  | .name s => Text.scriptQuote s
  | .component render exposed display =>
    exposing ("(props) => " ++ render.text) exposed.text display
  | .classResolver plan lookup =>
    let params := match plan.params with
      | [] => "_ = \x7b\x7d"
      | ps => braced (Text.join ", " ps) ++ " = \x7b\x7d"
    "(" ++ params ++ ") => " ++ resolverBody plan lookup classLocal
  | .componentResolver plan lookup target display =>
    let render : Render := ⟨target, .others, none, .gathered⟩
    let params := Text.join ", " (plan.params ++ ["..." ++ PropsName.others.text])
    exposing ("(" ++ braced params ++ ") => " ++ resolverBody plan lookup render.text)
      (Text.scriptQuote plan.base) display

/-- The entries of a dimension in a table, without a prototype so that nothing is inherited. -/
def DimensionPlan.tableText (d : DimensionPlan) : String :=
  d.name.text ++ ": " ++ braced ("__proto__: null, " ++ Text.join ", " (d.values.map fun v =>
    Text.scriptQuote v.value.text ++ ": " ++ Text.scriptQuote v.suffix))

/-- The declaration of a table. -/
def Table.text (t : Table) : String :=
  "const " ++ t.name.text ++ " = " ++
    braced ("__proto__: null, " ++ Text.join ", " (t.plan.inhabited.map DimensionPlan.tableText)) ++
    ";"

/-! ## Helpers in use -/

/-- Which helpers some code refers to. -/
structure Usage where
  createElement : Bool := false
  mergeClasses : Bool := false
  filterProps : Bool := false
  deriving DecidableEq, Repr

namespace Usage

/-- What either of two pieces of code refers to. -/
def union (a b : Usage) : Usage :=
  ⟨a.createElement || b.createElement, a.mergeClasses || b.mergeClasses,
    a.filterProps || b.filterProps⟩

/-- The import lines for the helpers in use; `runtime` is the module of the last two. -/
def imports (u : Usage) (runtime : String) : List String :=
  let element :=
    if u.createElement then
      ["import " ++ braced ("createElement as " ++ Helper.createElement.alias) ++
        " from \"react\";"]
    else []
  let names :=
    (if u.mergeClasses then ["cx as " ++ Helper.mergeClasses.alias] else []) ++
      (if u.filterProps then ["filterProps as " ++ Helper.filterProps.alias] else [])
  let rest :=
    if names.isEmpty then []
    else ["import " ++ braced (Text.join ", " names) ++ " from " ++ Text.scriptQuote runtime ++ ";"]
  element ++ rest

end Usage

/-- The helpers of a creation: elements have their properties filtered. -/
def Render.uses (r : Render) : Usage where
  createElement := true
  mergeClasses := true
  filterProps := match r.target with
    | .tag _ => true
    | .component _ => false

/-- The helpers of a replacement. -/
def Code.uses : Code → Usage
  | .nothing | .name _ | .classResolver .. => {}
  | .component render _ _ => render.uses
  | .componentResolver _ _ target _ => Render.uses ⟨target, .others, none, .gathered⟩

end StyleExtract
