import StyleExtract.Generated.Code

/-!
# Generating replacements

One generator serves one file. It counts the tables that it has declared, so that each gets a
name of its own, and remembers which helpers the code made so far refers to.

## Main definitions

* `Replacement` — the code for a construct and the table that it depends on.
* `Generator` — the state between the constructs of a file.
* `Generator.construct`, `Generator.renderAs`, `Generator.variants` — one construct each.
-/

namespace StyleExtract

/-- The code for a construct and the table that it depends on. -/
structure Replacement where
  /-- What stands in the place of the construct. -/
  code : Code
  /-- The table that it looks classes up in. -/
  table : Option Table
  deriving DecidableEq

/-- The state between the constructs of a file. -/
structure Generator where
  /-- The file, for refusals. -/
  file : String
  /-- From how many values on a table is used. -/
  threshold : Nat
  /-- How many tables there are so far. -/
  tables : Nat := 0
  /-- Which helpers are in use so far. -/
  usage : Usage := {}

namespace Generator

/-- Hands out a replacement and remembers its helpers. -/
def emit (g : Generator) (code : Code) (table : Option Table) : Replacement × Generator :=
  (⟨code, table⟩, { g with
    usage := g.usage.union code.uses
    tables := g.tables + if table.isSome then 1 else 0 })

/-- The code of a tagged template under a class. Global styles need none at run time. -/
def constructCode (c : Construct) (name? : Option String) : Code :=
  let component (target : Target) (attrs : Option String) (name : String) (exposed : ClassExpr) :=
    Code.component ⟨target, .whole, attrs, .literal name⟩ exposed c.varName
  match c.kind, name? with
  | .globalStyle, _ | _, none => .nothing
  | .scopedClass, some name | .keyframes, some name => .name name
  | .element tag, some name => component (.tag tag) none name (.literal name)
  | .attrs tag source, some name => component (.tag tag) (some source) name (.literal name)
  | .extension base, some name => component (.component base) none name (.after base name)

/-- The replacement of a tagged template. -/
def construct (g : Generator) (c : Construct) (name? : Option String) : Replacement × Generator :=
  g.emit (constructCode c name?) none

/-- The replacement of a component rendered as something else. -/
def renderAs (g : Generator) (r : RenderAs) : Replacement × Generator :=
  g.emit (.component ⟨r.target, .whole, none, .classOf r.source⟩ (.classOf r.source) r.varName) none

/-- The name of the next table for a variable. -/
def tableName (g : Generator) (varName : String) : String :=
  generatedStart ++ varName ++ "_variants_" ++ toString g.tables

/-- The element that a component renders when nothing is said. -/
def defaultTarget : Target := .tag ⟨"div", by decide⟩

/-- The resolver of a variant definition. -/
def resolverCode (v : VariantUse) (base : String) (lookup : Lookup) : Code :=
  let plan := Plan.ofVariants base v.variants
  match v.variants.kind with
  | .className => .classResolver plan lookup
  | .component => .componentResolver plan lookup (v.variants.target.getD defaultTarget) v.varName

/-- The replacement of a variant definition under a base class. A table whose name would be
unsafe is refused, and the generator stays as it is. -/
def variants (g : Generator) (v : VariantUse) (base : String) :
    Except UnsafeName (Replacement × Generator) :=
  match Strategy.choose v.variants g.threshold with
  | .inlineBranches => .ok (g.emit (resolverCode v base .branches) none)
  | .lookupTable => do
    let name ← Name.check g.file .binding (g.tableName v.varName)
    return g.emit (resolverCode v base (.table name))
      (some ⟨name, Plan.ofVariants base v.variants⟩)

end Generator

end StyleExtract
