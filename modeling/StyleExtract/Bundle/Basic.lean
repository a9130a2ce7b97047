import StyleExtract.Bundle.VirtualImport
import StyleExtract.Registry.Report
import StyleExtract.Text.Quoted

/-!
# Finishing a bundle

Each chunk of a bundle that owns styles gets one style sheet beside it and imports it by one line.

## Main definitions

* `Chunk`, `Asset` — what the host hands over and gets back.
* `assetName` — the file of the style sheet of a chunk.
* `finishChunk` — one chunk.
* `finishBundle` — all chunks.
-/

namespace StyleExtract

/-- An output file of the host. -/
structure Chunk where
  /-- Its file. -/
  fileName : String
  /-- The files and modules that it is built from, in order. -/
  moduleIds : List String
  /-- Its code. -/
  code : String
  deriving DecidableEq, Repr

/-- A style sheet to be written. -/
structure Asset where
  /-- Its file. -/
  fileName : String
  /-- Its styles. -/
  source : String
  deriving DecidableEq, Repr

/-- A file name without its directory. -/
def baseName (path : String) : String :=
  match Text.splitLast? '/' path with
  | some (_, name) => name
  | none => path

/-- A file name without its ending. -/
def stem (name : String) : String :=
  match Text.splitLast? '.' name with
  | some (s, _) => s
  | none => name

/-- The file of the style sheet of a chunk: beside it, with its stem. -/
def assetName (fileName : String) : String :=
  match Text.splitLast? '/' fileName with
  | some (dir, name) => dir ++ "/" ++ stem name ++ ".css"
  | none => stem fileName ++ ".css"

/-- The line that imports a style sheet from its own directory. -/
def assetImport (asset : String) : String :=
  "import " ++ Text.scriptQuote ("./" ++ baseName asset) ++ ";\n"

/-- A finished chunk and its style sheet, if it owns styles. -/
def finishChunk (registry : Registry) (c : Chunk) : Chunk × Option Asset :=
  let css := registry.aggregate c.moduleIds
  if css = "" then ({ c with code := VirtualImport.erase c.code }, none)
  else
    let asset := assetName c.fileName
    ({ c with code := VirtualImport.redirect (assetImport asset) c.code }, some ⟨asset, css⟩)

/-- What is said about a finished chunk. -/
def chunkNotice (c : Chunk × Option Asset) : Option LogEntry :=
  c.2.map fun a => ⟨.debug, .emitting c.1.fileName a.fileName⟩

/-- The finished chunks of a bundle, and the style sheets in the order of their chunks. -/
def finishBundle (registry : Registry) (chunks : List Chunk) :
    Report (List Chunk × List Asset) :=
  let finished := chunks.map (finishChunk registry)
  ⟨(finished.map Prod.fst, finished.filterMap Prod.snd), registry,
    finished.filterMap chunkNotice⟩

end StyleExtract
