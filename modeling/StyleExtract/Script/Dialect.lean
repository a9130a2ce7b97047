import StyleExtract.ClassName

/-!
# Dialects of the script language

The ending of a file decides which syntax beyond the plain language it may use.

## Main definitions

* `Script.Dialect` — whether type annotations and markup are allowed.
* `Script.Dialect.ofFile` — the dialect of a file.
-/

namespace StyleExtract.Script

/-- What a file may use beyond the plain language. -/
structure Dialect where
  /-- Type annotations and decorators. -/
  typed : Bool
  /-- Elements written as markup. -/
  markup : Bool
  deriving DecidableEq, Repr

/-- Typed files without markup, typed files with markup, and plain files with markup. -/
def Dialect.ofFile (id : String) : Dialect :=
  let path := withoutQuery id
  if Text.endsWith ".ts" path || Text.endsWith ".mts" path || Text.endsWith ".cts" path then
    ⟨true, false⟩
  else if Text.endsWith ".tsx" path then ⟨true, true⟩
  else ⟨false, true⟩

end StyleExtract.Script
