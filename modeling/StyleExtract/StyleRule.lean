import StyleExtract.ClassName
import StyleExtract.Text.Blank

/-!
# Style rules

Literal styles are wrapped into rules and never looked into. A variant definition gives one rule
for its base, one for each value in the order of declaration, and one for each combination, whose
selector joins the classes of its conditions.

## Main definitions

* `StyleRule` — a selector and the styles between its braces.
* `classRule`, `keyframesRule` — the rules of one class and of one animation.
* `Construct.css`, `Variants.rules`, `Variants.css` — the text of a tagged template and of a
  variant definition.
-/

namespace StyleExtract

/-- A rule: a selector and the styles between its braces. -/
structure StyleRule where
  /-- What stands before the braces. -/
  selector : String
  /-- What stands between them, without white space at its ends. -/
  body : String
  deriving DecidableEq

/-- The text of a rule. -/
def StyleRule.text (r : StyleRule) : String :=
  r.selector ++ " \x7b " ++ r.body ++ " \x7d"

/-- The selector that joins some classes. -/
def classSelector (classes : List String) : String :=
  Text.concat (classes.map fun c => "." ++ c)

/-- The rule of a class. -/
def classRule (name css : String) : StyleRule := ⟨classSelector [name], Text.trim css⟩

/-- The rule of an animation. -/
def keyframesRule (name css : String) : StyleRule := ⟨"@keyframes " ++ name, Text.trim css⟩

/-- The styles of a tagged template: a rule for its class, or for the animation of that name;
without a class the styles as they are. -/
def ConstructKind.cssText (kind : ConstructKind) (name? : Option String) (css : String) : String :=
  match kind, name? with
  | .globalStyle, _ | _, none => Text.trim css
  | .keyframes, some name => (keyframesRule name css).text
  | _, some name => (classRule name css).text

namespace Variants

/-- The class of a pair under a base class. -/
def pairClass (base : String) (p : Dimension × Value) : String :=
  variantClass base p.1.text p.2.text

/-- The rules of a variant definition. -/
def rules (base : String) (v : Variants) : List StyleRule :=
  (v.baseCss.toList.map fun css => classRule base css) ++
    (v.values.entries.flatMap fun (d, vs) =>
      vs.entries.map fun (x, css) => classRule (pairClass base (d, x)) css) ++
    (v.compounds.map fun c =>
      ⟨classSelector (c.conditions.entries.map (pairClass base)), Text.trim c.css⟩)

/-- The text of a variant definition: its rules, one a line. -/
def css (base : String) (v : Variants) : String :=
  Text.join "\n" ((v.rules base).map StyleRule.text)

end Variants

end StyleExtract
