import StyleExtract.Construct
import StyleExtract.Digest.Base36
import StyleExtract.Digest.Xxh3
import StyleExtract.Options.Basic

/-!
# Class names

In development a class name is made of the prefix, the variable and the file, reduced to ASCII
letters and digits. In production it is made of the prefix and a digest of the styles: eight
digits for a tagged template and six for a variant definition.

## Main definitions

* `Text.fileStem?` — the last component of a path without its extension.
* `Naming` — how the constructs of one file are named.
* `Naming.ofConstruct?`, `Naming.ofVariants` — the names.
* `variantClass` — the class of one value of a dimension.
-/

namespace StyleExtract

namespace Text

/-- The last component of a path, where repeated slashes and `.` components do not count. A path
that ends in `..` or has no component has none. -/
def lastComponent? (path : List Char) : Option (List Char) :=
  match ((piecesList '/' path).filter fun p => p ≠ [] ∧ p ≠ ['.']).getLast? with
  | some name => if name = ['.', '.'] then none else some name
  | none => none

/-- A file name without its extension; a dot at the very beginning starts no extension. -/
def stem (name : List Char) : List Char :=
  match splitLastList? '.' name with
  | some ([], _) => name
  | some (s, _) => s
  | none => name

/-- The last component of a path without its extension. -/
def fileStem? (path : String) : Option String :=
  (lastComponent? path.toList).map fun name => String.ofList (stem name)

/-- The ASCII letters and digits of a text. -/
def alphanumeric (s : String) : String :=
  String.ofList (s.toList.filter fun c => isLetter c || isDigit c)

end Text

/-- The id of a file without its query. -/
def withoutQuery (id : String) : String := Text.before '?' id

/-- How the constructs of one file are named. -/
structure Naming where
  /-- Readable names or digests. -/
  mode : Mode
  /-- The beginning of every name. -/
  start : Name .classPrefix
  /-- The letters and digits of the stem of the file. -/
  file : String

namespace Naming

/-- How the constructs of a file are named under given options. -/
def ofFile (options : Options) (id : String) : Naming where
  mode := options.mode
  start := options.classPrefix
  file := Text.alphanumeric ((Text.fileStem? (withoutQuery id)).getD "")

/-- The name of a variable in development. -/
def readable (n : Naming) (varName : String) : String :=
  n.start.text ++ "-" ++ Text.alphanumeric varName ++ "-" ++ n.file

/-- The number of digits in the name of a tagged template. -/
def constructDigits : Nat := 8

/-- The number of digits in the name of a variant definition. -/
def variantDigits : Nat := 6

/-- The name of a content in production. -/
def hashed (n : Naming) (digits : Nat) (content : String) : String :=
  n.start.text ++ "-" ++ Digest.lastDigits digits (Digest.ofText content)

/-- The class of a tagged template; global styles have none. -/
def ofConstruct? (n : Naming) (c : Construct) : Option String :=
  match c.kind with
  | .globalStyle => none
  | _ =>
    match n.mode with
    | .development => some (n.readable c.varName)
    | .production => some (n.hashed constructDigits c.css)

/-- The base class of a variant definition. -/
def ofVariants (n : Naming) (v : VariantUse) : String :=
  match n.mode with
  | .development => n.readable v.varName
  | .production => n.hashed variantDigits v.variants.contentKey

end Naming

/-- The class of one value of a dimension. -/
def variantClass (base dimension value : String) : String :=
  base ++ "--" ++ dimension ++ "-" ++ value

end StyleExtract
