import StyleExtract.ClassName

/-!
# Plans of generated functions

A variant definition is compiled to a function that turns a selection of values into a class
text. What the function has to know is its plan: the base class, and for each dimension its
default and, for each value, the class text to append. A plan is carried out in one of two ways,
by a chain of tests in the function or by a table beside it.

## Main definitions

* `ScalarKey` — a truth value or an integer that names the same property as a text.
* `ValuePlan`, `DimensionPlan`, `Plan` — what a function has to know.
* `Plan.ofVariants` — the plan of a variant definition.
* `Strategy` — the two ways, and `Strategy.choose`.
-/

namespace StyleExtract

/-- A selection that is no text but names the same property as one. -/
inductive ScalarKey where
  | bool (b : Bool)
  | integer (n : Int)
  deriving DecidableEq, Repr

namespace ScalarKey

/-- The largest number up to which all integers are exact. -/
def maxSafeInteger : Nat := 0x1FFFFFFFFFFFFF

/-- The text of a key. -/
def text : ScalarKey → String
  | .bool b => if b then "true" else "false"
  | .integer n => toString n

/-- The value of a run of decimal digits. -/
def natOfDigits? : List Char → Option Nat
  | [] => none
  | ds => if ds.all isDigit then some (ds.foldl (fun n c => n * 10 + (c.toNat - 48)) 0) else none

/-- The integer that a list of characters spells. -/
def intOfChars? : List Char → Option Int
  | '-' :: ds => (natOfDigits? ds).map fun n => -(n : Int)
  | ds => (natOfDigits? ds).map fun n => (n : Int)

/-- The key with a given text: a truth value, or an exact integer whose text it is. -/
def ofText? (s : String) : Option ScalarKey :=
  if s = "true" then some (.bool true)
  else if s = "false" then some (.bool false)
  else
    match intOfChars? s.toList with
    | some n => if toString n = s ∧ n.natAbs ≤ maxSafeInteger then some (.integer n) else none
    | none => none

end ScalarKey

/-- What a function has to know of one value. -/
structure ValuePlan where
  /-- The value. -/
  value : Value
  /-- The class text to append: a space and the class. -/
  suffix : String
  deriving DecidableEq

/-- The selection other than the text itself that stands for a value. -/
def ValuePlan.key? (v : ValuePlan) : Option ScalarKey := ScalarKey.ofText? v.value.text

/-- What a function has to know of one dimension. -/
structure DimensionPlan where
  /-- The dimension, which is also the name of a parameter. -/
  name : Dimension
  /-- The value when the caller gives none. -/
  default : Option Value
  /-- The values in the order of declaration. -/
  values : List ValuePlan
  deriving DecidableEq

/-- What a function has to know. -/
structure Plan where
  /-- The class that every selection has. -/
  base : String
  /-- The dimensions in the order of declaration. -/
  dimensions : List DimensionPlan
  deriving DecidableEq

/-- The plan of a variant definition under a base class. -/
def Plan.ofVariants (base : String) (v : Variants) : Plan where
  base := base
  dimensions := v.values.entries.map fun (d, vs) =>
    { name := d
      default := v.defaults.get? d
      values := vs.keys.map fun x => ⟨x, " " ++ variantClass base d.text x.text⟩ }

/-- The dimensions that have a value at all. -/
def Plan.inhabited (p : Plan) : List DimensionPlan :=
  p.dimensions.filter fun d => !d.values.isEmpty

/-- How a plan is carried out. -/
inductive Strategy where
  /-- A chain of tests for each dimension. -/
  | inlineBranches
  /-- A table of class texts by dimension and value. -/
  | lookupTable
  deriving DecidableEq, Repr

/-- A definition with more values than the threshold gets a table. -/
def Strategy.choose (v : Variants) (threshold : Nat) : Strategy :=
  if threshold < v.valueCount then .lookupTable else .inlineBranches

end StyleExtract
