import StyleExtract.Api
import StyleExtract.Construct
import StyleExtract.Decimal.Layout
import StyleExtract.Notice

/-!
# Extracting literal styles

Styles and variant definitions are read from the syntax tree without evaluating anything. What is
not a literal is left out and reported.

## Main definitions

* `Failure` — why a file cannot be compiled.
* `Extract` — a computation that may fail and reports what it leaves out.
* `SourceFile` — the file that is read.
* `SourceFile.styleText` — the styles of an expression.
* `SourceFile.variantDefinition` — the variant definition of an object.

## Design

Styles are taken from the source as written, between their delimiters; names and keys are taken
as the values of their literals. A default or condition counts only if it names a declared value,
and a combination of which one condition does not count is left out as a whole, because a rule
with fewer conditions would apply more often.
-/

namespace StyleExtract

open Script (Argument Expr Key Property)
open Text (Span)

/-- Why a file cannot be compiled. -/
inductive Failure where
  /-- A name cannot stand in generated code. -/
  | unsafeName (e : UnsafeName)
  /-- A place in the source falls inside a character or outside the text. -/
  | misplaced
  deriving DecidableEq, Repr

/-- A computation that may fail and reports what it leaves out. Reports before a failure stay. -/
abbrev Extract := ExceptT Failure (StateM (List LogEntry))

/-- Reports something. -/
def report (level : Level) (notice : Notice) : Extract Unit :=
  modify fun log => log ++ [⟨level, notice⟩]

/-- The file that is read. -/
structure SourceFile where
  /-- Its id. -/
  id : String
  /-- Its text. -/
  chars : List Char
  /-- What it imports. -/
  imports : Imports
  /-- How important it is that a part is left out. -/
  skipLevel : Level

/-- The level at which left-out parts are reported. -/
def Options.skipLevel (options : Options) : Level :=
  if options.verbose then .info else .debug

namespace SourceFile

/-- The text at a place. -/
def slice (f : SourceFile) (s : Span) : Extract String :=
  match Text.slice? f.chars s.start s.stop with
  | some cs => return String.ofList cs
  | none => throw .misplaced

/-- The text at a place without its first and last byte, which are its delimiters. -/
def inner (f : SourceFile) (s : Span) : Extract String :=
  if s.stop < s.start + 2 then return "" else f.slice ⟨s.start + 1, s.stop - 1⟩

/-- A text as a name of a kind. -/
def name (f : SourceFile) (kind : NameKind) (s : String) : Extract (Name kind) :=
  match Name.check f.id kind s with
  | .ok n => return n
  | .error e => throw (.unsafeName e)

/-- Reports that a part is no literal. -/
def skip (f : SourceFile) (what : String) (s : Span) : Extract Unit :=
  report f.skipLevel (.skipped f.id what s.start)

end SourceFile

/-! ## Keys and values -/

/-- Numbers as keys are written without exponents and without a needless fraction. -/
def keyFormat : Decimal.Format := ⟨fun _ => true, false⟩

/-- The text of a key, if it is fixed. -/
def Script.Key.text? : Key → Option String
  | .name s => some s
  | .text s => some s
  | .number x => some (keyFormat.writeDouble x)
  | .other => none

/-- The key and value of a property, if the key is fixed. -/
def Script.Property.static? : Property → Option (String × Expr)
  | .keyValue k v => k.text?.map fun s => (s, v)
  | _ => none

/-- The properties of an object whose keys are fixed. -/
def staticEntries (properties : List Property) : List (String × Expr) :=
  properties.filterMap Property.static?

/-- The value of a string literal or of a template without holes. -/
def literalText? (e : Expr) : Option String :=
  match e.unwrap with
  | .text _ value => some value
  | .template _ cooked [] => cooked.head?.join
  | _ => none

namespace SourceFile

/-- The styles of a template, if it has no holes. -/
def templateText (f : SourceFile) (s : Span) (holes : List Expr) : Extract (Option String) :=
  match holes with
  | [] => return some (← f.inner s)
  | _ :: _ => return none

/-- The styles of an expression: a string, a template, or a template tagged as a class. -/
def styleText (f : SourceFile) (e : Expr) : Extract (Option String) :=
  match e.unwrap with
  | .text s _ => return some (← f.inner s)
  | .template s _ holes => f.templateText s holes
  | .tagged _ (.ident _ tag) s holes =>
    if f.imports.isLocal .css tag then f.templateText s holes else return none
  | _ => return none

/-- What a component renders: the tag in a string, or a component by its name. -/
def renderTarget (f : SourceFile) (e : Expr) : Extract (Option Target) :=
  match e.unwrap with
  | .text _ tag => return some (.tag (← f.name .tag tag))
  | .ident _ name => return some (.component (← f.name .binding name))
  | _ => return none

/-! ## Variant definitions -/

/-- The styles of the values of a dimension. -/
def valueStyles (f : SourceFile) (entries : List (String × Expr)) :
    Extract (OrderedMap Value String) :=
  entries.foldlM (fun styles (key, e) => do
    let value ← f.name .value key
    match ← f.styleText e with
    | some css => return styles.insert value css
    | none =>
      f.skip "variant value" e.span
      return styles) .empty

/-- The dimensions and their values. -/
def dimensions (f : SourceFile) (entries : List (String × Expr)) :
    Extract (OrderedMap Dimension (OrderedMap Value String)) :=
  entries.foldlM (fun all (key, e) => do
    let dimension ← f.name .dimension key
    match e.unwrap with
    | .object _ properties =>
      return all.insert dimension (← f.valueStyles (staticEntries properties))
    | _ =>
      f.skip "variant dimension" e.span
      return all) .empty

/-- The dimensions that an expression declares. -/
def declaredValues (f : SourceFile) (e : Expr) :
    Extract (OrderedMap Dimension (OrderedMap Value String)) :=
  match e.unwrap with
  | .object _ properties => f.dimensions (staticEntries properties)
  | _ => do
    f.skip "variants" e.span
    return .empty

/-- The values of dimensions that the caller leaves out. -/
def defaultValues (f : SourceFile) (values : OrderedMap Dimension (OrderedMap Value String))
    (e : Expr) : Extract (OrderedMap Dimension Value) :=
  match e.unwrap with
  | .object _ properties =>
    (staticEntries properties).foldlM (fun defaults (key, e) => do
      match literalText? e with
      | none =>
        f.skip "default variant" e.span
        return defaults
      | some text =>
        match Variants.declared? values key text with
        | some (dimension, value) => return defaults.insert dimension value
        | none =>
          report f.skipLevel (.unknownDefault f.id key text)
          return defaults) .empty
  | _ => do
    f.skip "defaultVariants" e.span
    return .empty

/-- The parts of a combination so far. -/
structure CompoundDraft where
  /-- The conditions. -/
  conditions : OrderedMap Dimension Value := .empty
  /-- The styles. -/
  css : Option String := none

/-- The parts of a combination; nothing if a condition does not count. -/
def compoundParts (f : SourceFile) (values : OrderedMap Dimension (OrderedMap Value String)) :
    CompoundDraft → List (String × Expr) → Extract (Option CompoundDraft)
  | draft, [] => return some draft
  | draft, (key, e) :: rest => do
    if key = "css" then
      f.compoundParts values { draft with css := ← f.styleText e } rest
    else
      match literalText? e with
      | none =>
        f.skip "compound variant condition" e.span
        return none
      | some text =>
        match Variants.declared? values key text with
        | some (dimension, value) =>
          f.compoundParts values
            { draft with conditions := draft.conditions.insert dimension value } rest
        | none =>
          report f.skipLevel (.unknownCondition f.id key text)
          return none

/-- A combination: it has styles and at least one condition. -/
def compound (f : SourceFile) (values : OrderedMap Dimension (OrderedMap Value String))
    (e : Expr) : Extract (Option Compound) :=
  match e.unwrap with
  | .object s properties => do
    match ← f.compoundParts values {} (staticEntries properties) with
    | none => return none
    | some draft =>
      match draft.css with
      | some css =>
        if draft.conditions.entries.isEmpty then
          f.skip "compound variant" s
          return none
        return some ⟨draft.conditions, css⟩
      | none =>
        f.skip "compound variant" s
        return none
  | _ => do
    f.skip "compound variant" e.span
    return none

/-- The combinations of a definition. -/
def compounds (f : SourceFile) (values : OrderedMap Dimension (OrderedMap Value String))
    (e : Expr) : Extract (List Compound) :=
  match e.unwrap with
  | .array _ items => do
    let found ← (items.filterMap fun x => x).mapM fun (a : Argument) => f.compound values a.value
    return found.filterMap fun x => x
  | _ => do
    f.skip "compoundVariants" e.span
    return []

/-- Adds one property to a definition. Of a repeated key the last occurrence counts. -/
def addProperty (f : SourceFile) (v : Variants) (entry : String × Expr) : Extract Variants := do
  let (key, e) := entry
  match key with
  | "component" =>
    if v.kind = .component then
      let target ← f.renderTarget e
      if target.isNone then f.skip "component" e.span
      return { v with target }
    return v
  | "css" =>
    let baseCss ← f.styleText e
    if baseCss.isNone then f.skip "base css" e.span
    return { v with baseCss }
  | "defaultVariants" => return { v with defaults := ← f.defaultValues v.values e }
  | "compoundVariants" => return { v with compounds := ← f.compounds v.values e }
  | _ => return v

/-- The variant definition of an object. The dimensions are read first, from the first property
of that name, because everything else refers to them. -/
def variantDefinition (f : SourceFile) (kind : VariantKind) (properties : List Property) :
    Extract Variants := do
  let entries := staticEntries properties
  let values ← match entries.find? (·.1 = "variants") with
    | some (_, e) => f.declaredValues e
    | none => pure .empty
  let start : Variants :=
    { kind, target := none, baseCss := none, values, defaults := .empty, compounds := [] }
  entries.foldlM f.addProperty start

end SourceFile

end StyleExtract
