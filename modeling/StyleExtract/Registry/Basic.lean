import StyleExtract.Digest.Base36
import StyleExtract.Digest.Xxh3
import StyleExtract.OrderedMap
import StyleExtract.Registry.Id

/-!
# The registry of virtual modules

The styles of every compiled file, as numbered modules. All modules of a file are replaced
together when the file is compiled again, so no styles of an earlier version survive.

## Main definitions

* `CssModule` — one module.
* `Registry` — the modules of every file, files in the order of their first registration.
* `Registry.register`, `Registry.replaceFile`, `Registry.invalidate` — the updates.
* `Registry.entry?`, `Registry.entriesFor`, `Registry.aggregate` — the queries.
-/

namespace StyleExtract

/-- One module of styles. -/
structure CssModule where
  /-- Its id, as written in imports. -/
  id : String
  /-- The styles. -/
  css : String
  /-- The digest of the styles. -/
  hash : String
  /-- The file that it belongs to. -/
  file : String
  /-- Its number in the file. -/
  index : Nat
  deriving DecidableEq, Repr

/-- The module of a file (in its one form) with a number and styles. -/
def CssModule.make (file : String) (index : Nat) (css : String) : CssModule where
  id := VirtualId.ofFile file index
  css := css
  hash := Digest.render (Digest.ofText css)
  file := file
  index := index

/-- The modules of every file. -/
structure Registry where
  /-- The modules of each file, by number. -/
  files : OrderedMap String (List CssModule)

namespace Registry

/-- The registry without modules. -/
def empty : Registry := ⟨OrderedMap.empty⟩

/-- All modules, file after file. -/
def modules (r : Registry) : List CssModule := r.files.values.flatten

/-- The number of modules. -/
def size (r : Registry) : Nat := r.modules.length

/-- Whether there are no modules. -/
def isEmpty (r : Registry) : Bool := r.size == 0

/-- Puts a module at its place in a list ordered by number, over the one with the same number if
there is one. -/
def place (m : CssModule) : List CssModule → List CssModule
  | [] => [m]
  | x :: xs =>
    if x.index = m.index then m :: xs
    else if m.index < x.index then m :: x :: xs
    else x :: place m xs

/-- Adds one module to a file, or replaces the one with that number. -/
def register (r : Registry) (file : String) (index : Nat) (css : String) : String × Registry :=
  let key := FileId.normalize file
  let m := CssModule.make key index css
  (m.id, ⟨r.files.insert key (place m ((r.files.get? key).getD []))⟩)

/-- The modules of a list of styles, numbered from zero. -/
def number (file : String) (css : List String) : List CssModule :=
  css.mapIdx fun i s => CssModule.make file i s

/-- Replaces all modules of a file; a file without modules is removed. -/
def replaceFile (r : Registry) (file : String) (css : List String) : List String × Registry :=
  let key := FileId.normalize file
  let ms := number key css
  (ms.map CssModule.id, ⟨if ms.isEmpty then r.files.erase key else r.files.insert key ms⟩)

/-- The modules of a file. -/
def entriesFor (r : Registry) (file : String) : List CssModule :=
  (r.files.get? (FileId.normalize file)).getD []

/-- Removes the modules of a file and returns their marked ids. -/
def invalidate (r : Registry) (file : String) : List String × Registry :=
  ((r.entriesFor file).map fun m => String.singleton idMarker ++ m.id,
    ⟨r.files.erase (FileId.normalize file)⟩)

/-- The first module with an id, marked or not. -/
def entry? (r : Registry) (id : String) : Option CssModule :=
  r.modules.find? fun m => m.id = VirtualId.importForm id

/-- The styles of the module with an id. -/
def load? (r : Registry) (id : String) : Option String := (r.entry? id).map CssModule.css

/-- The modules that an id stands for: itself if it is that of a virtual module, else all modules
of the file. -/
def resolve (r : Registry) (id : String) : List CssModule :=
  if VirtualId.recognizes id then (r.entry? id).toList else r.entriesFor id

/-- A list of modules without those whose id has occurred before. -/
def distinct (seen : List String) : List CssModule → List CssModule
  | [] => []
  | m :: ms => if m.id ∈ seen then distinct seen ms else m :: distinct (m.id :: seen) ms

/-- The styles of everything that a chunk is built from, in order and each module once. -/
def aggregate (r : Registry) (ids : List String) : String :=
  Text.join "\n" ((distinct [] (ids.flatMap r.resolve)).map CssModule.css)

end Registry

end StyleExtract
