import StyleExtract.Classification
import StyleExtract.Emission
import StyleExtract.Prologue
import StyleExtract.Registry.Report
import StyleExtract.Script.Parse
import StyleExtract.Splice

/-!
# Compiling a file

A file that imports the authoring functions is parsed and its constructs are recognized, named,
registered and replaced. Everything that can refuse the file happens before the registry changes.

## Main definitions

* `Outcome` — what became of a file.
* `compileModule` — compiles a file whose constructs are known.
* `transformModule` — compiles a file whose tree is known.
* `transformFile` — compiles a file.

## Design

The tree of a file is an argument of `transformModule`, so that what is said about it holds for
every tree and not only for those that the grammar gives.
-/

namespace StyleExtract

open Script (Module)

/-- A compiled file. -/
structure Output where
  /-- The new text. -/
  code : String
  /-- Where it comes from. -/
  map : SourceMap
  /-- The ids of its style modules, in order. -/
  cssModules : List String
  deriving DecidableEq

/-- What became of a file. All outcomes but the last leave its text as it is. -/
inductive Outcome where
  /-- It does not import the authoring functions. -/
  | notApplicable
  /-- It is not well formed. -/
  | parseFailed
  /-- It has nothing to compile. -/
  | noConstructs
  /-- It was compiled. -/
  | transformed (output : Output)
  deriving DecidableEq

/-- Whether a text mentions a source of the authoring functions at all. -/
def Options.isMentioned (options : Options) (source : String) : Bool :=
  Text.occursIn packageSource source || options.devSources.any fun s => Text.occursIn s source

/-- The line that imports a style module. -/
def importLine (id : String) : String := "import " ++ Text.scriptQuote id ++ ";"

/-- The inserted lines: the imports of helpers, the imports of style modules and the tables. -/
def preamble (usage : Usage) (runtime : String) (ids : List String) (emitted : List Emitted) :
    List String :=
  usage.imports runtime ++ ids.map importLine ++
    emitted.filterMap fun e => e.replacement.table.map Table.text

/-- The edit that an emitted construct makes. -/
def Emitted.edit (e : Emitted) : Edit := ⟨e.span, e.replacement.code.text⟩

/-- The new text and its map, if the lines have a place between the constructs. -/
def output? (id source : String) (m : Module) (lines : List String) (emitted : List Emitted)
    (ids : List String) : Option Output := do
  let chars := source.toList
  let place ← m.insertionPoint? chars
  let pieces ← splice? chars lines place (emitted.map Emitted.edit)
  return { code := String.ofList (piecesText pieces)
           map := ⟨id, source, piecesSegments chars .start pieces⟩
           cssModules := ids }

/-- Compiles a file whose constructs are known. The registry is updated as soon as all of them
have code. -/
def compileModule (options : Options) (registry : Registry) (source id runtime : String)
    (m : Module) (found : List Declaration) : Report (Except Failure Outcome) :=
  let generator : Generator := { file := id, threshold := options.tableThreshold }
  match emitAll (.ofFile options id) generator found with
  | .error e => ⟨.error (.unsafeName e), registry, []⟩
  | .ok (emitted, generator) =>
    let replaced := registry.replaceReport id (emitted.filterMap Emitted.css)
    let lines := preamble generator.usage runtime replaced.result emitted
    match output? id source m lines emitted replaced.result with
    | none => replaced.map fun _ => .error .misplaced
    | some output =>
      { replaced.map (fun _ => .ok (.transformed output)) with
        log := replaced.log ++ [⟨.debug, .compiled id emitted.length⟩] }

/-- Drops the modules of a file that turned out to have none. -/
def dropModules (registry : Registry) (id : String) (outcome : Outcome) :
    Report (Except Failure Outcome) :=
  (registry.replaceReport id []).map fun _ => .ok outcome

/-- Compiles a file whose tree is known, if it has one. -/
def transformModule (options : Options) (registry : Registry) (source id : String)
    (parsed : Option Module) : Report (Except Failure Outcome) :=
  match parsed with
  | none => ⟨.ok .parseFailed, registry, [⟨.warn, .parseError id⟩]⟩
  | some m =>
    let imports := Imports.ofItems options m.items
    match imports.runtime with
    | none => (dropModules registry id .notApplicable).after [⟨options.skipLevel, .noImport id⟩]
    | some runtime =>
      let file : SourceFile := ⟨id, source.toList, imports, options.skipLevel⟩
      match (file.classify m.items).run.run [] with
      | (.error e, log) => ⟨.error e, registry, log⟩
      | (.ok [], log) =>
        (dropModules registry id .noConstructs).after
          (log ++ [⟨options.skipLevel, .noConstructs id⟩])
      | (.ok found, log) => (compileModule options registry source id runtime m found).after log

/-- Compiles a file. A text that does not mention the authoring functions is not even parsed. -/
def transformFile (options : Options) (registry : Registry) (source id : String) :
    Report (Except Failure Outcome) :=
  if options.isMentioned source then
    transformModule options registry source id
      (Script.parseModule? (Script.Dialect.ofFile id) source)
  else dropModules registry id .notApplicable

end StyleExtract
