import StyleExtract.Bundle.Basic
import StyleExtract.StyleInjector
import StyleExtract.Transform

/-!
# Build sessions

A session is what the host of a build drives: it compiles files, serves the virtual modules that
they import, drops those of changed files and finishes the bundle.

## Main definitions

* `Session` — options and the modules registered so far.
* `Session.handles` — whether a file is one to compile.
* `Session.transform` — compiles a file.
* `Session.load` — the text of a virtual module.
* `Session.changed`, `Session.finish`, `Session.teardown` — the other hooks.
-/

namespace StyleExtract

/-- Options and the modules registered so far. -/
structure Session where
  /-- The options. -/
  options : Options
  /-- The modules. -/
  registry : Registry

/-- The endings of script files. -/
def scriptEndings : List String := ["js", "jsx", "mjs", "cjs", "ts", "tsx", "mts", "cts"]

namespace Session

/-- A session without modules. -/
def start (options : Options) : Session := ⟨options, .empty⟩

/-- Whether a file is one to compile: a script that is no virtual module and belongs to no
package. -/
def handles (id : String) : Bool :=
  !VirtualId.recognizes id && !Text.occursIn "/node_modules/" id &&
    match Text.splitLast? '.' (withoutQuery id) with
    | some (_, ending) => scriptEndings.contains ending
    | none => false

/-- Compiles a file, if it is one to compile. -/
def transform (s : Session) (source id : String) : Report (Except Failure Outcome) :=
  if handles id then transformFile s.options s.registry source id
  else ⟨.ok .notApplicable, s.registry, []⟩

/-- The text of a virtual module under the options, given its styles and their digest. -/
def moduleText (options : Options) (id css hash : String) : String :=
  match options.mode with
  | .production => if options.extractCss then "" else css
  | .development => styleInjector (VirtualId.importForm id) css hash

/-- The text of a virtual module; one that is not registered has no styles. Other ids belong to
someone else. -/
def load (s : Session) (id : String) : Report (Option String) :=
  if VirtualId.recognizes id then
    match s.registry.entry? id with
    | some m => ⟨some (moduleText s.options id m.css m.hash), s.registry, []⟩
    | none => ⟨some (moduleText s.options id "" ""), s.registry,
        [⟨.debug, .noCss (VirtualId.importForm id)⟩]⟩
  else ⟨none, s.registry, []⟩

/-- Drops the modules of a changed file; the result is their ids. -/
def changed (s : Session) (id : String) : Report (List String) :=
  s.registry.invalidateReport id

/-- Finishes the bundle. -/
def finish (s : Session) (chunks : List Chunk) : Report (List Chunk × List Asset) :=
  finishBundle s.registry chunks

/-- Ends the session and forgets all modules. -/
def teardown (s : Session) : Report Unit :=
  ⟨(), .empty, [⟨.debug, .ended s.registry.size⟩]⟩

end Session

end StyleExtract
