import StyleExtract.Script.Grammar.Statements

/-!
# Imports and exports

## Main definitions

* `Script.importDeclaration` — an import.
* `Script.exportDeclaration` — an export.
* `Script.moduleItem` — an item of a module or namespace.
-/

namespace StyleExtract.Script

/-! ## Imports -/

/-- The name of something that a module exports: a word or a string. The flag tells a string. -/
def exportedName : Rule (String × Bool) := do
  match (← cursor).token with
  | .text s =>
    advance
    return (s, true)
  | _ => return (← propertyName, false)

/-- The attributes of an import, which typed files may have. -/
def importAttributes (r : Rules) : Rule Unit := do
  if (← isTyped) && !(← cursor).lineBreak && (← atOneOf ["with", "assert"]) then
    advance
    let start ← position
    expect "\x7b"
    let _ ← objectLiteral r start

/-- Where names come from: the word `from`, a module and the end of the statement. -/
def sourceClause (r : Rules) : Rule String := do
  expectWord "from"
  let source ← textLiteral
  importAttributes r
  semicolon
  return source

/-- The names behind a word `type` in a list of imports or exports, with `as` between them, and
whether the word was a modifier: `type as`, `type as as x` and `type x` start with one, and
`type as x` renames something called `type`. -/
def typeModified (renamed : Rule String) : Rule (String × Option String × Bool) := do
  let name ← propertyName
  if name != "as" then
    if ← eatWord "as" then return (name, some (← renamed), true)
    return (name, none, true)
  if !(← cursor).token.isName then return ("as", none, true)
  let second ← renamed
  if second == "as" && (← cursor).token.isName then return ("as", some (← renamed), true)
  return ("type", some second, false)

/-- One name in a list of imports. -/
def importName (typeOnly : Bool) : Rule ImportName := do
  let (exported, isText) ← exportedName
  if isText then
    expectWord "as"
    return { exported, localName := ← bindingName, typeOnly := false }
  if (← isTyped) && exported == "type" && (← cursor).token.isName then
    let (exported, localName, modified) ← typeModified bindingName
    earlyErrorIf (typeOnly && modified)
    if localName.isNone && isReserved exported then fail
    return { exported, localName := localName.getD exported, typeOnly := modified }
  if ← eatWord "as" then return { exported, localName := ← bindingName, typeOnly := false }
  if isReserved exported then fail
  return { exported, localName := exported, typeOnly := false }

/-- The names in braces. -/
def importNames (typeOnly : Bool) : Rule (List ImportName) :=
  iterate ([] : List ImportName) fun names => do
    if ← eat "\x7d" then return .inr names.reverse
    let names := (← importName typeOnly) :: names
    if ← eat "\x7d" then return .inr names.reverse
    expect ","
    return .inl names

/-- What is imported behind the name for the module's default: the whole module, or names. -/
def importList (typeOnly : Bool) : Rule (List ImportName) := do
  if ← eat "*" then
    expectWord "as"
    let _ ← bindingName
    return []
  expect "\x7b"
  importNames typeOnly

/-- What stands behind the equals sign of an import: a module, or a name with members. -/
def importAssignment : Rule Unit := do
  expect "="
  if (← atWord "require") && (← aheadPunct "(") then
    advance
    advance
    let _ ← textLiteral
    expect ")"
  else qualifiedName
  semicolon

/-- Whether the word `type` here says that only types are imported. -/
def atTypeImport : Rule Bool := do
  if !((← isTyped) && (← atWord "type")) then return false
  let next ← ahead
  if next.token.isPunct "*" || next.token.isPunct "\x7b" then return true
  if !next.token.isBindable then return false
  let third := next.next (← read).size
  return !next.token.isWord "from" || third.token.isWord "from" || third.token.isPunct "="

/-- An import behind its keyword. -/
def importDeclaration (r : Rules) (start : Nat) : Rule Item := do
  if (← cursor).token.isText then
    let source ← textLiteral
    importAttributes r
    semicolon
    return .import (← spanFrom start) { source, typeOnly := false, names := [] }
  let typeOnly ← atTypeImport
  if typeOnly then advance
  let hasDefault := (← cursor).token.isName
  if hasDefault then
    let _ ← bindingName
    if (← isTyped) && (← atPunct "=") then
      importAssignment
      return .other (← spanFrom start)
  let listed := !hasDefault || (← atPunct ",")
  if hasDefault && listed then advance
  let names ← if listed then importList typeOnly else pure []
  let source ← sourceClause r
  return .import (← spanFrom start) { source, typeOnly, names }

/-! ## Exports -/

/-- Words that cannot be exported under their own name. -/
def isUnexportable (w : String) : Bool :=
  keywords.contains w || w == "enum" || w == "package"

/-- One name in a list of exports; the result is whether it can be a variable of this module. -/
def exportName (typeOnly : Bool) : Rule Bool := do
  let (name, isText) ← exportedName
  if (← isTyped) && !isText && name == "type" && (← cursor).token.isName then
    let (name, _, modified) ← typeModified propertyName
    earlyErrorIf (typeOnly && modified)
    return !(isUnexportable name)
  if ← eatWord "as" then
    let _ ← exportedName
  return !isText && !(isUnexportable name)

/-- The names in braces; the result is whether all can be variables of this module. -/
def exportNames (typeOnly : Bool) : Rule Bool :=
  iterate true fun ok => do
    if ← eat "\x7d" then return .inr ok
    let ok := (← exportName typeOnly) && ok
    if ← eat "\x7d" then return .inr ok
    expect ","
    return .inl ok

/-- Exports of names or of another module's names. -/
def exportList (r : Rules) (typeOnly : Bool) : Rule Unit := do
  if ← eat "*" then
    if ← eatWord "as" then
      let _ ← exportedName
    let _ ← sourceClause r
  else
    expect "\x7b"
    let ok ← exportNames typeOnly
    if ← atWord "from" then
      let _ ← sourceClause r
    else
      earlyErrorIf !ok
      let _ ← eat ";"

/-- What a module exports as its default, behind the keyword. -/
def exportDefault (r : Rules) : Rule Unit := do
  decorators r
  let next ← ahead
  let typed ← isTyped
  if typed && (← atWord "abstract") && next.token.isWord "class" && !next.lineBreak then
    advance
    advance
    classExpression r true
  else if typed && (← atWord "interface") && next.token.isBindable && !next.lineBreak then
    advance
    interfaceDeclaration r
  else if ← eatWord "class" then classExpression r false
  else if (← atWord "function") || (← atAsyncFunction) then
    let isAsync ← eatWord "async"
    advance
    let isGenerator ← eat "*"
    if (← cursor).token.isName then
      let _ ← bindingName
    let _ ← functionRest r { isAsync, isGenerator } false
  else
    let _ ← r.value
    semicolon

/-- An export that only typed files have, if one stands here. -/
def typedExport? (r : Rules) (start : Nat) : Rule (Option Item) := do
  if !(← isTyped) then return none
  if ← atDeclare then
    advance
    match ← ambientDeclaration? r start with
    | some item => return some item
    | none => fail
  if (← wordDeclaration? r).isSome then return some (.other (← spanFrom start))
  if ← eatWord "import" then
    if (← atWord "type") && (← ahead).token.isBindable then advance
    let _ ← propertyName
    importAssignment
    return some (.other (← spanFrom start))
  if ← eat "=" then
    let _ ← r.expression
    semicolon
    return some (.other (← spanFrom start))
  if ← eatWord "as" then
    expectWord "namespace"
    let _ ← bindingName
    semicolon
    return some (.other (← spanFrom start))
  return none

/-- An export behind its keyword. -/
def exportDeclaration (r : Rules) (start : Nat) : Rule Item := do
  if let some item ← typedExport? r start then return item
  if (← isTyped) && (← atWord "type") then
    advance
    exportList r true
    return .other (← spanFrom start)
  if ← eatWord "default" then
    exportDefault r
    return .other (← spanFrom start)
  if let some item ← declaration? r start then return item
  if let some kind ← variableKind? then return ← variableDeclaration r start kind
  exportList r false
  return .other (← spanFrom start)

/-- An item of a module or namespace. Decorators may stand before the export of a class. -/
def moduleItem (r : Rules) : Rule Item := do
  let start ← position
  if (← atWord "import") && !((← aheadPunct "(") || (← aheadPunct ".")) then
    advance
    return ← importDeclaration r start
  if ← atWord "export" then
    advance
    return ← exportDeclaration r start
  if (← isTyped) && (← atPunct "@") then
    let decorated ← wouldRead do
      decorators r
      expectWord "export"
    if decorated then
      decorators r
      advance
      return ← exportDeclaration r start
  statement r true

end StyleExtract.Script
