import StyleExtract.Text.Measure
import StyleExtract.Variant

/-!
# Constructs of the authoring functions

What a top-level declaration of a file can be: a tagged template with styles, a call with a
variant definition, or a call that renders one component as another.

## Main definitions

* `ConstructKind`, `Construct` — a tagged template.
* `VariantUse` — a call with a variant definition.
* `RenderAs` — a component rendered as something else.
* `Declaration` — any of them.
-/

namespace StyleExtract

/-- What a tagged template makes. -/
inductive ConstructKind where
  /-- A component that renders an element. -/
  | element (tag : Tag)
  /-- A component that adds a class to another one. -/
  | extension (base : Binding)
  /-- A component that renders an element with further properties, given by their source text. -/
  | attrs (tag : Tag) (source : String)
  /-- A class name. -/
  | scopedClass
  /-- Styles without a class. -/
  | globalStyle
  /-- An animation. -/
  | keyframes
  deriving DecidableEq

/-- A tagged template with its styles. -/
structure Construct where
  /-- What it makes. -/
  kind : ConstructKind
  /-- The variable that it initializes. -/
  varName : String
  /-- The styles as written. -/
  css : String
  /-- The place of the initializer. -/
  span : Text.Span
  deriving DecidableEq

/-- A call with a variant definition. -/
structure VariantUse where
  /-- The definition. -/
  variants : Variants
  /-- The variable that it initializes. -/
  varName : String
  /-- The place of the initializer. -/
  span : Text.Span
  deriving DecidableEq

/-- A component rendered as something else. -/
structure RenderAs where
  /-- What is rendered. -/
  target : Target
  /-- The component whose class is used. -/
  source : Binding
  /-- The variable that it initializes. -/
  varName : String
  /-- The place of the initializer. -/
  span : Text.Span
  deriving DecidableEq

/-- A declaration that is compiled. -/
inductive Declaration where
  | construct (c : Construct)
  | variants (v : VariantUse)
  | renderAs (r : RenderAs)
  deriving DecidableEq

/-- The place of the initializer that is replaced. -/
def Declaration.span : Declaration → Text.Span
  | .construct c => c.span
  | .variants v => v.span
  | .renderAs r => r.span

end StyleExtract
