import StyleExtract.Text.Cut

/-!
# Ids of files and of virtual modules

A host names the same file in several ways: with a query, with backslashes, as a `file:` URL, or
behind the marker U+0000 of ids that belong to a plugin. A file id is brought to one form before
it is used as a key, and the id of each virtual module is made from the file and a number.

## Main definitions

* `FileId.normalize` — the one form of a file id.
* `VirtualId.ofFile` — the id of a virtual module, as it is written in an import.
* `VirtualId.recognizes` — whether an id is that of a virtual module.
* `VirtualId.canonical?` — the marked form that hosts use for resolved ids.
-/

namespace StyleExtract

/-- The marker of ids that belong to a plugin. -/
def idMarker : Char := '\x00'

namespace FileId

/-- A `file:` URL as a path. -/
def stripScheme (s : String) : String :=
  match Text.stripStart? "file:///" s with
  | some rest => "/" ++ rest
  | none => (Text.stripStart? "file://" s).getD s

/-- The one form of a file id: without markers and query, with forward slashes, and as a path. -/
def normalize (id : String) : String :=
  stripScheme (Text.replaceChar '\\' '/' (Text.before '?' (Text.dropLeading idMarker id)))

end FileId

namespace VirtualId

/-- How every id of a virtual module begins. -/
def start : String := "virtual:styled-static/"

/-- The id of the virtual module with a number in a file. -/
def ofFile (file : String) (index : Nat) : String :=
  start ++ Text.dropLeading '/' (FileId.normalize file) ++ "/" ++ toString index ++ ".css"

/-- An id without leading markers: the form written in imports. -/
def importForm (id : String) : String := Text.dropLeading idMarker id

/-- Whether an id is that of a virtual module, marked or not. -/
def recognizes (id : String) : Bool := Text.startsWith start (importForm id)

/-- The id with one marker and without query, if it is that of a virtual module. -/
def canonical? (id : String) : Option String :=
  if recognizes id then some (String.singleton idMarker ++ Text.before '?' (importForm id)) else none

end VirtualId

end StyleExtract
