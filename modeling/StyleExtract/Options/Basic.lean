import StyleExtract.Name

/-!
# Options of a build session

## Main definitions

* `Mode` — readable names for development, hashed ones for production.
* `Options` — everything that the host can set.
* `Options.runtimeFor?` — where generated code imports its helpers from, given the source that
  the authoring functions were imported from.
-/

namespace StyleExtract

/-- What a build is for. -/
inductive Mode where
  /-- Readable class names and styles that are injected at run time. -/
  | development
  /-- Class names from content digests. -/
  | production
  deriving DecidableEq, Repr

/-- The package that the authoring functions are imported from. -/
def packageSource : String := "styled-static"

/-- The options of a build session. -/
structure Options where
  /-- What the build is for. -/
  mode : Mode
  /-- The beginning of every generated class name. -/
  classPrefix : Name .classPrefix
  /-- A variant definition with more values than this is resolved by a table. -/
  tableThreshold : Nat
  /-- Further import sources that stand for the package. -/
  devSources : List String
  /-- Whether production styles go to assets of their own and not into modules. -/
  extractCss : Bool
  /-- Whether skipped parts are reported at a higher level. -/
  verbose : Bool

namespace Options

/-- The options when nothing is set. -/
def standard : Options where
  mode := .development
  classPrefix := ⟨"ss", by decide⟩
  tableThreshold := 4
  devSources := ["../src/index", "@/index"]
  extractCss := false
  verbose := false

/-- The standard options of a production build. -/
def production : Options := { standard with mode := .production }

/-- The helper module beside an import source: `index` files have it in their directory, and
anything else is itself the directory. -/
def siblingRuntime (source : String) : String :=
  match Text.splitLast? '/' source with
  | some (dir, last) =>
    if last = "index" ∨ Text.startsWith "index." last then dir ++ "/runtime"
    else source ++ "/runtime"
  | none => source ++ "/runtime"

/-- The helper module that belongs to an import source, if the source provides the authoring
functions. -/
def runtimeFor? (options : Options) (source : String) : Option String :=
  if source = packageSource then some (packageSource ++ "/runtime")
  else if source ∈ options.devSources then some (siblingRuntime source)
  else none

end Options

end StyleExtract
