import StyleExtract.Options.Basic
import StyleExtract.Script.Tree

/-!
# The authoring functions

A file uses the authoring functions under the names that its imports give them.

## Main definitions

* `ApiFunction` — the functions that are known.
* `Imports` — the local name of each function in a file, and where its helpers come from.
* `Imports.ofItems` — the imports of a file.
* `Imports.functionOf?` — the function that a local name stands for.
-/

namespace StyleExtract

open Script (Import ImportName Item)

/-- The authoring functions. -/
inductive ApiFunction where
  /-- Makes a component from a tag or another component. -/
  | styled
  /-- Makes a class. -/
  | css
  /-- Adds styles without a class. -/
  | createGlobalStyle
  /-- Makes an animation. -/
  | keyframes
  /-- Makes a component from a variant definition. -/
  | styledVariants
  /-- Makes a function from a variant definition. -/
  | cssVariants
  /-- Renders one component as another. -/
  | withComponent
  /-- Joins classes. -/
  | cx
  deriving DecidableEq, Repr

namespace ApiFunction

/-- All functions, in the order in which a local name is looked up. -/
def all : List ApiFunction :=
  [.styled, .css, .createGlobalStyle, .keyframes, .styledVariants, .cssVariants, .withComponent,
    .cx]

/-- The name under which a function is exported. -/
def exportName : ApiFunction → String
  | .styled => "styled"
  | .css => "css"
  | .createGlobalStyle => "createGlobalStyle"
  | .keyframes => "keyframes"
  | .styledVariants => "styledVariants"
  | .cssVariants => "cssVariants"
  | .withComponent => "withComponent"
  | .cx => "cx"

/-- The function that is exported under a name. -/
def ofExport? (name : String) : Option ApiFunction :=
  all.find? fun f => f.exportName = name

end ApiFunction

/-- What a file imports of the authoring functions. -/
structure Imports where
  /-- The local name of each function; of two imports the later one counts. -/
  localName : ApiFunction → Option String
  /-- The module of the helpers, set by the first import. -/
  runtime : Option String

namespace Imports

/-- No imports. -/
def empty : Imports := ⟨fun _ => none, none⟩

/-- Binds a function to a local name. -/
def bind (i : Imports) (f : ApiFunction) (name : String) : Imports :=
  { i with localName := fun g => if g = f then some name else i.localName g }

/-- Adds a named import, if it is that of a function and of more than a type. -/
def addName (i : Imports) (n : ImportName) : Imports :=
  if n.typeOnly then i
  else match ApiFunction.ofExport? n.exported with
    | some f => i.bind f n.localName
    | none => i

/-- Adds an import declaration, if its source is one of the authoring functions. -/
def add (options : Options) (i : Imports) (d : Import) : Imports :=
  if d.typeOnly then i
  else match options.runtimeFor? d.source with
    | none => i
    | some runtime => d.names.foldl addName { i with runtime := i.runtime.or (some runtime) }

/-- The import that an item is. -/
def declarationOf? : Item → Option Import
  | .import _ d => some d
  | _ => none

/-- The imports among the items of a module. -/
def ofItems (options : Options) (items : List Item) : Imports :=
  (items.filterMap declarationOf?).foldl (add options) empty

/-- Whether a name is the local one of a function. -/
def isLocal (i : Imports) (f : ApiFunction) (name : String) : Bool :=
  i.localName f == some name

/-- The function that a local name stands for. -/
def functionOf? (i : Imports) (name : String) : Option ApiFunction :=
  ApiFunction.all.find? fun f => i.isLocal f name

/-- Whether there is no import of the authoring functions. -/
def isEmpty (i : Imports) : Bool := i.runtime.isNone

end Imports

end StyleExtract
