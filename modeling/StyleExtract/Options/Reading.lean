import StyleExtract.Decimal.Layout
import StyleExtract.Options.Basic
import StyleExtract.Options.Json
import StyleExtract.Text.Blank
import StyleExtract.Text.Visible

/-!
# Reading options

Options come as the text of a JSON object, whose fields may stand in any order, or of a JSON
array that gives them by position. A blank text stands for the standard options. The text is read
from left to right and the first problem in it is reported; the class prefix is judged last.

## Main definitions

* `OptionsError` — why a text gives no options, with its message.
* `Options.read` — the options of a text.
-/

namespace StyleExtract

/-- What a diagnostic says that it found. -/
inductive Found where
  | null
  | bool (b : Bool)
  | whole (n : Int)
  | double (x : Float)
  | text (s : String)
  | sequence
  | map

/-- What a diagnostic says that it expected. -/
inductive Wanted where
  | text
  | count
  | sequence
  | boolean
  | unit
  | variantName
  | options
  deriving DecidableEq, Repr

/-- A value of the wrong shape. -/
inductive ShapeError where
  | unknownField (name : String)
  | duplicateField (name : String)
  | unknownMode (name : String)
  | wrongType (found : Found) (wanted : Wanted)
  | negative (n : Int)

/-- Why a text gives no options. -/
inductive OptionsError where
  /-- The text is not JSON. -/
  | malformed
  /-- It is, as far as it was read, but not of the right shape. -/
  | shape (e : ShapeError)
  /-- The class prefix is refused. -/
  | badPrefix (text : String)

namespace Found

/-- Numbers in diagnostics: positional from five places behind the point to sixteen before it,
with a fraction in any case. -/
def numberFormat : Decimal.Format where
  positional := fun point => -5 < point && point ≤ 16
  keepsFraction := true

/-- What was found, in words. -/
def describe : Found → String
  | .null => "null"
  | .bool b => "boolean `" ++ (if b then "true" else "false") ++ "`"
  | .whole n => "integer `" ++ toString n ++ "`"
  | .double x => "floating point `" ++ numberFormat.writeDouble x ++ "`"
  | .text s => "string " ++ Text.visibleQuote s
  | .sequence => "sequence"
  | .map => "map"

end Found

/-- What was expected, in words. -/
def Wanted.describe : Wanted → String
  | .text => "a string"
  | .count => "usize"
  | .sequence => "a sequence"
  | .boolean => "a boolean"
  | .unit => "unit"
  | .variantName => "variant identifier"
  | .options => "struct Config"

/-- The names of the fields, in the order of their positions. -/
def Options.fieldNames : List String :=
  ["mode", "classPrefix", "variantTableThreshold", "devImportSources", "extractCss", "verbose"]

/-- A wrong shape, in words. -/
def ShapeError.describe : ShapeError → String
  | .unknownField name =>
    "unknown field `" ++ name ++ "`, expected one of " ++
      Text.join ", " (Options.fieldNames.map fun f => "`" ++ f ++ "`")
  | .duplicateField name => "duplicate field `" ++ name ++ "`"
  | .unknownMode name => "unknown variant `" ++ name ++ "`, expected `development` or `production`"
  | .wrongType found wanted =>
    "invalid type: " ++ found.describe ++ ", expected " ++ wanted.describe
  | .negative n => "invalid value: integer `" ++ toString n ++ "`, expected usize"

/-- The message of a refusal; a malformed text has none. -/
def OptionsError.message? : OptionsError → Option String
  | .malformed => none
  | .shape e => some ("invalid styled-static options: " ++ e.describe)
  | .badPrefix text => some ("class prefix `" ++ text ++ "` must match [A-Za-z][A-Za-z0-9_-]*")

namespace Options

/-- What reading has gathered so far: each field once. -/
structure Draft where
  mode : Option Mode := none
  classPrefix : Option String := none
  tableThreshold : Option Nat := none
  devSources : Option (List String) := none
  extractCss : Option Bool := none
  verbose : Option Bool := none

/-- The complaint about a value where another type was expected; a fault of the text comes
first. -/
def mismatch {α : Type} (wanted : Wanted) (value : Json) : Except OptionsError α :=
  let wrong found := .error (.shape (.wrongType found wanted))
  match value with
  | .broken => .error .malformed
  | .null => wrong .null
  | .bool b => wrong (.bool b)
  | .whole n => wrong (.whole n)
  | .double x => wrong (.double x)
  | .text s => wrong (.text s)
  | .array _ => wrong .sequence
  | .object _ => wrong .map

/-- A text. -/
def readText : Json → Except OptionsError String
  | .text s => .ok s
  | v => mismatch .text v

/-- A truth value. -/
def readBool : Json → Except OptionsError Bool
  | .bool b => .ok b
  | v => mismatch .boolean v

/-- A number of things. -/
def readCount : Json → Except OptionsError Nat
  | .whole n => if n < 0 then .error (.shape (.negative n)) else .ok n.toNat
  | v => mismatch .count v

/-- The texts of an array. -/
def readTexts : Json.Items → Except OptionsError (List String)
  | .done => .ok []
  | .broken => .error .malformed
  | .item value rest => do
    let s ← readText value
    let more ← readTexts rest
    return s :: more

/-- A list of texts. -/
def readTextList : Json → Except OptionsError (List String)
  | .array items => readTexts items
  | v => mismatch .sequence v

/-- The mode of a name. -/
def modeOfName (name : String) : Except OptionsError Mode :=
  if name = "development" then .ok .development
  else if name = "production" then .ok .production
  else .error (.shape (.unknownMode name))

/-- A mode: its name, or an object whose one key is its name and whose value is null. -/
def readMode : Json → Except OptionsError Mode
  | .text name => modeOfName name
  | .object (.field name value rest) => do
    let mode ← modeOfName name
    match value with
    | .null => pure ()
    | v => mismatch .unit v
    match rest with
    | .done => return mode
    | _ => .error .malformed
  | .object (.oddKey key) => mismatch .variantName key
  | _ => .error .malformed

/-- Adds the value of the field with a given name to a draft. A repeated name is reported before
its value is looked at. -/
def Draft.add (draft : Draft) (name : String) (value : Json) : Except OptionsError Draft :=
  let fresh {α : Type} (present : Bool) (read : Except OptionsError α) : Except OptionsError α :=
    if present then .error (.shape (.duplicateField name)) else read
  match name with
  | "mode" => return { draft with mode := ← fresh draft.mode.isSome (readMode value) }
  | "classPrefix" =>
    return { draft with classPrefix := ← fresh draft.classPrefix.isSome (readText value) }
  | "variantTableThreshold" =>
    return { draft with tableThreshold := ← fresh draft.tableThreshold.isSome (readCount value) }
  | "devImportSources" =>
    return { draft with devSources := ← fresh draft.devSources.isSome (readTextList value) }
  | "extractCss" =>
    return { draft with extractCss := ← fresh draft.extractCss.isSome (readBool value) }
  | "verbose" => return { draft with verbose := ← fresh draft.verbose.isSome (readBool value) }
  | other => .error (.shape (.unknownField other))

/-- The fields of an object, in any order. -/
def readFields (draft : Draft) : Json.Fields → Except OptionsError Draft
  | .done => .ok draft
  | .field name value rest => do
    let draft ← draft.add name value
    readFields draft rest
  | _ => .error .malformed

/-- The items of an array, by position; there are no more of them than names. -/
def readPositions (draft : Draft) : List String → Json.Items → Except OptionsError Draft
  | _, .done => .ok draft
  | name :: names, .item value rest => do
    let draft ← draft.add name value
    readPositions draft names rest
  | _, _ => .error .malformed

/-- The options of a draft: standard where nothing is set, if the prefix is accepted. -/
def Draft.finish (draft : Draft) : Except OptionsError Options := do
  let classPrefix ← match draft.classPrefix with
    | none => pure standard.classPrefix
    | some s =>
      match Name.check "" .classPrefix s with
      | .ok n => pure n
      | .error _ => throw (.badPrefix s)
  return {
    mode := draft.mode.getD standard.mode
    classPrefix
    tableThreshold := draft.tableThreshold.getD standard.tableThreshold
    devSources := draft.devSources.getD standard.devSources
    extractCss := draft.extractCss.getD standard.extractCss
    verbose := draft.verbose.getD standard.verbose }

/-- The options of a text. -/
def read (text : String) : Except OptionsError Options := do
  if text.toList.all Text.isBlank then return standard
  let (value, ends) := Json.read text.toList
  let draft ← match value with
    | .object fields => readFields {} fields
    | .array items => readPositions {} fieldNames items
    | v => mismatch .options v
  if !ends then throw .malformed
  draft.finish

end Options

end StyleExtract
