import StyleExtract.Generated.Generator
import StyleExtract.StyleRule

/-!
# Emitting styles and code

Every construct of a file gives a replacement, and every construct with styles gives the text of a
style module. Both are made in one pass in source order.

## Main definitions

* `Emitted` — what one construct gives.
* `emit` — one construct.
* `emitAll` — the constructs of a file.
-/

namespace StyleExtract

/-- What one construct gives. -/
structure Emitted where
  /-- The place that is replaced. -/
  span : Text.Span
  /-- The styles of its module, if it has one. -/
  css : Option String
  /-- Its code. -/
  replacement : Replacement
  deriving DecidableEq

/-- The styles of a definition, if it has a rule. -/
def Variants.css? (base : String) (v : Variants) : Option String :=
  if v.css base = "" then none else some (v.css base)

/-- What one construct gives, and the generator afterwards. -/
def emit (naming : Naming) (g : Generator) (d : Declaration) :
    Except UnsafeName (Emitted × Generator) :=
  match d with
  | .construct c =>
    let name? := naming.ofConstruct? c
    let (r, g) := g.construct c name?
    return (⟨c.span, some (c.kind.cssText name? c.css), r⟩, g)
  | .variants v => do
    let base := naming.ofVariants v
    let (r, g) ← g.variants v base
    return (⟨v.span, v.variants.css? base, r⟩, g)
  | .renderAs a =>
    let (r, g) := g.renderAs a
    return (⟨a.span, none, r⟩, g)

/-- What the constructs of a file give, and the generator afterwards. -/
def emitAll (naming : Naming) : Generator → List Declaration →
    Except UnsafeName (List Emitted × Generator)
  | g, [] => return ([], g)
  | g, d :: ds => do
    let (e, g) ← emit naming g d
    let (es, g) ← emitAll naming g ds
    return (e :: es, g)

end StyleExtract
