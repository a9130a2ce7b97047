import StyleExtract.Name
import StyleExtract.OrderedMap

/-!
# Variant definitions

A variant definition lists dimensions (such as `size`), for each dimension its values with their
styles, the values chosen by default, and styles for combinations of values. The order in which
dimensions and values are declared is kept, because it decides the order of the emitted rules.

## Main definitions

* `Target` — what a component renders: an element or another component.
* `Compound` — styles for a combination of values.
* `Variants` — a variant definition.
* `Variants.contentKey` — a text that determines the styles of a definition.
-/

namespace StyleExtract

/-- What a component renders. -/
inductive Target where
  /-- An element with a tag. -/
  | tag (t : Tag)
  /-- Another component. -/
  | component (b : Binding)
  deriving DecidableEq

/-- What a variant definition makes. -/
inductive VariantKind where
  /-- A component. -/
  | component
  /-- A function that returns a class text. -/
  | className
  deriving DecidableEq, Repr

/-- Styles that apply where several dimensions have given values. -/
structure Compound where
  /-- The value that each dimension has to have. -/
  conditions : OrderedMap Dimension Value
  /-- The styles. -/
  css : String
  deriving DecidableEq

/-- A variant definition. -/
structure Variants where
  /-- What it makes. -/
  kind : VariantKind
  /-- What the component renders, if that is said. -/
  target : Option Target
  /-- The styles that apply to every selection. -/
  baseCss : Option String
  /-- The styles of each value of each dimension. -/
  values : OrderedMap Dimension (OrderedMap Value String)
  /-- The values of dimensions that the caller leaves out. -/
  defaults : OrderedMap Dimension Value
  /-- The styles of combinations. -/
  compounds : List Compound
  deriving DecidableEq

namespace Variants

/-- All pairs of a dimension and one of its values, in the order of declaration. -/
def pairs (v : Variants) : List (Dimension × Value) :=
  v.values.entries.flatMap fun (d, vs) => vs.keys.map fun x => (d, x)

/-- The number of pairs of a dimension and a value. -/
def valueCount (v : Variants) : Nat := v.pairs.length

/-- The declared pair with the given texts. -/
def declared? (values : OrderedMap Dimension (OrderedMap Value String)) (d v : String) :
    Option (Dimension × Value) := do
  let (dimension, vs) ← values.entries.find? fun e => e.1.text = d
  let (value, _) ← vs.entries.find? fun e => e.1.text = v
  return (dimension, value)

/-- A text made of everything that shapes the styles: the base styles; for each dimension a
separator, its name and its values with their styles; for each combination a separator, its
conditions and its styles. -/
def contentKey (v : Variants) : String :=
  v.baseCss.getD "" ++
    Text.concat (v.values.entries.map fun (d, vs) =>
      "\x00" ++ d.text ++
        Text.concat (vs.entries.map fun (x, css) => "\x01" ++ x.text ++ "\x01" ++ css)) ++
    Text.concat (v.compounds.map fun c =>
      "\x00" ++ Text.concat (c.conditions.entries.map fun (d, x) =>
        d.text ++ "=" ++ x.text ++ "\x01") ++ c.css)

end Variants

end StyleExtract
