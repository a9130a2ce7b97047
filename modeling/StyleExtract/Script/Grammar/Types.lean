import StyleExtract.Script.Grammar.Bindings

/-!
# Types

Types are read and dropped. Angle brackets are single tokens, so nested type arguments close one
by one.

## Main definitions

* `Script.typeExpr` — a type.
* `Script.typeOperand` — a type without unions, intersections, functions and conditions.
* `Script.typeArguments`, `Script.typeParameters` — lists in angle brackets.
* `Script.returnType` — the type behind the parameters of a function.
* `Script.typeMembers` — the members of an object type or interface.
-/

namespace StyleExtract.Script

/-- Reads a type where conditions are types. -/
def freely (rule : Rule Unit) : Rule Unit :=
  within (fun c => { c with plainTypes := false }) rule

/-- Type arguments; there is at least one. -/
def typeArguments (r : Rules) : Rule Unit := do
  expect "<"
  earlyErrorIf (← atPunct ">")
  commaList ">" (freely r.type)

/-- Type parameters with their modifiers, bounds and defaults; there is at least one. -/
def typeParameters (r : Rules) : Rule Unit := do
  expect "<"
  earlyErrorIf (← atPunct ">")
  commaList ">" do
    iterate () fun _ => do
      if (← atOneOf ["const", "in", "out"]) && (← ahead).token.isName then
        advance
        return .inl ()
      return .inr ()
    let _ ← propertyName
    if ← eatWord "extends" then freely r.type
    if ← eat "=" then freely r.type

/-- Type parameters of a typed file, where there are some. -/
def optionalTypeParameters (r : Rules) : Rule Unit := do
  if (← isTyped) && (← atPunct "<") then typeParameters r

/-- A type, or what a function says about one of its parameters. -/
def typeOrPredicate (r : Rules) : Rule Unit := do
  let next ← ahead
  let asserts := (← atWord "asserts") && next.token.isName && !next.lineBreak &&
    !next.token.isWord "is"
  if asserts then
    advance
    let _ ← propertyName
    if (← atWord "is") && !(← cursor).lineBreak then
      advance
      freely r.type
  else if (← cursor).token.isName && next.token.isWord "is" && !next.lineBreak then
    let _ ← propertyName
    advance
    freely r.type
  else freely r.type

/-- The type behind the parameters of a function, where there is one. -/
def returnType (r : Rules) : Rule Unit := do
  if ← isTyped then
    if ← eat ":" then typeOrPredicate r

/-- A name with members, such as `a.b.c`. -/
def qualifiedName : Rule Unit := do
  let _ ← propertyName
  iterate () fun _ => do
    if ← eat "." then
      match (← cursor).token with
      | .privateName _ => advance
      | _ => let _ ← propertyName
      return .inl ()
    return .inr ()

/-- Type arguments on the same line, where there are some. -/
def attachedTypeArguments (r : Rules) : Rule Unit := do
  if (← atPunct "<") && !(← cursor).lineBreak then typeArguments r

/-- A type of an imported module, behind `import`. -/
def importType (r : Rules) : Rule Unit := do
  expect "("
  let _ ← textLiteral
  if ← eat "," then
    if !(← atPunct ")") then
      let _ ← r.value
      let _ ← eat ","
  expect ")"
  if ← eat "." then qualifiedName
  attachedTypeArguments r

/-- The type of a value, behind `typeof`. -/
def typeQuery (r : Rules) : Rule Unit := do
  if ← eatWord "import" then importType r
  else
    qualifiedName
    attachedTypeArguments r

/-- A template of types behind its backtick. -/
def typeTemplate (r : Rules) : Rule Unit :=
  iterate () fun _ => do
    let chunk ← templateChunk
    earlyErrorIf chunk.cooked.isNone
    if chunk.hole then
      freely r.type
      if !(← atPunct "\x7d") then fail
      return .inl ()
    return .inr ()

/-- An element of a tuple: spread, labelled, or optional. -/
def tupleElement (r : Rules) : Rule Unit := do
  let _ ← eat "..."
  let label := (← cursor).token.isName
  let next ← ahead
  let labelled := label && (next.token.isPunct ":" ||
    (next.token.isPunct "?" && (next.next (← read).size).token.isPunct ":"))
  if labelled then
    advance
    let _ ← eat "?"
    expect ":"
  freely r.type
  let _ ← eat "?"

/-- The end of a member of an object type. -/
def memberEnd : Rule Unit := do
  if !(← eat ",") then
    if !(← eat ";") then
      if !(← canEndStatement) then fail

/-- Whether an index signature stands here: a bracket, a name and a colon. -/
def atIndexSignature : Rule Bool := do
  if !(← atPunct "[") then return false
  let name ← ahead
  return name.token.isName && (name.next (← read).size).token.isPunct ":"

/-- An index signature without its end. -/
def indexSignature (r : Rules) : Rule Unit := do
  expect "["
  let _ ← propertyName
  expect ":"
  freely r.type
  expect "]"
  annotation r

/-- Whether a token can start the name of a member. -/
def Token.startsKey (t : Token) : Bool :=
  t.isName || t.isText || t.isNumber || t.isPrivate || t.isPunct "["

/-- A call signature: type parameters, parameters and a result. -/
def callSignature (r : Rules) : Rule Unit := do
  optionalTypeParameters r
  let _ ← parameters r false
  returnType r

/-- A member of an object type. -/
def typeMember (r : Rules) : Rule Unit := do
  if (← atPunct "(") || (← atPunct "<") then callSignature r
  else if (← atWord "new") && ((← aheadPunct "(") || (← aheadPunct "<")) then
    advance
    callSignature r
  else
    if (← atWord "readonly") && (← ahead).token.startsKey then advance
    if ← atIndexSignature then indexSignature r
    else
      if (← atOneOf ["get", "set"]) && (← ahead).token.startsKey then advance
      let _ ← propertyKey r
      let _ ← eat "?"
      if (← atPunct "(") || (← atPunct "<") then callSignature r
      else annotation r
  memberEnd

/-- The members of an object type, from the opening to the closing brace. -/
def typeMembers (r : Rules) : Rule Unit := do
  expect "\x7b"
  iterate () fun _ => do
    if ← eat "\x7d" then return .inr ()
    typeMember r
    return .inl ()

/-- A sign before a modifier of a mapped type. -/
def mappedSign : Rule Bool := do
  if ← eat "+" then return true
  eat "-"

/-- The head of a mapped type: maybe `readonly`, and a key that runs through a type. -/
def mappedHead : Rule Unit := do
  expect "\x7b"
  if ← mappedSign then expectWord "readonly"
  else if (← atWord "readonly") && (← aheadPunct "[") then advance
  expect "["
  let _ ← propertyName
  expectWord "in"

/-- A mapped type. -/
def mappedType (r : Rules) : Rule Unit := do
  mappedHead
  freely r.type
  if ← eatWord "as" then freely r.type
  expect "]"
  if ← mappedSign then expect "?"
  else
    let _ ← eat "?"
  annotation r
  if !(← eat ";") then
    let _ ← eat ","
  expect "\x7d"

/-- The start of a parameter in a function type. -/
def parameterStart (r : Rules) : Rule Unit := do
  iterate () fun _ => do
    if (← atOneOf fieldModifiers) && (← ahead).token.isName then
      advance
      return .inl ()
    return .inr ()
  if (← cursor).token.isName then advance
  else
    let _ ← r.pattern

/-- Whether a function type stands here: type parameters, or a parenthesis behind which a list of
parameters starts. -/
def atFunctionType (r : Rules) : Rule Bool := do
  if ← atPunct "<" then return true
  if !(← atPunct "(") then return false
  wouldRead do
    advance
    if (← atPunct ")") || (← atPunct "...") then return
    parameterStart r
    if (← atPunct ":") || (← atPunct ",") || (← atPunct "?") || (← atPunct "=") then return
    expect ")"
    if !(← atPunct "=>") then fail

/-- A function type behind its optional `new`. -/
def functionType (r : Rules) : Rule Unit := do
  optionalTypeParameters r
  let _ ← parameters r false
  expect "=>"
  typeOrPredicate r

/-- A type that no bracket follows. -/
def plainType (r : Rules) : Rule Unit := do
  let c ← cursor
  match c.token with
  | .text _ => advance
  | .number _ => advance
  | .word "import" false =>
    advance
    importType r
  | .word "typeof" false =>
    advance
    typeQuery r
  | .word "this" false => advance
  | .word "void" false => advance
  | .word "null" false => advance
  | .word "true" false => advance
  | .word "false" false => advance
  | .word name false =>
    if keywords.contains name then fail
    qualifiedName
    attachedTypeArguments r
  | .word _ true =>
    qualifiedName
    attachedTypeArguments r
  | .punct "-" =>
    advance
    if !(← cursor).token.isNumber then fail
    advance
  | .punct "\x7b" =>
    if ← wouldRead mappedHead then mappedType r else typeMembers r
  | .punct "[" =>
    advance
    commaList "]" (tupleElement r)
  | .punct "(" =>
    advance
    freely r.type
    expect ")"
  | .punct "\x60" => typeTemplate r
  | _ => fail

/-- A type with the brackets of arrays and indexed accesses behind it. -/
def arrayType (r : Rules) : Rule Unit := do
  plainType r
  iterate () fun _ => do
    if (← atPunct "[") && !(← cursor).lineBreak then
      advance
      if ← eat "]" then return .inl ()
      freely r.type
      expect "]"
      return .inl ()
    return .inr ()

/-- A type behind its operators. -/
def typeOperand (r : Rules) : Rule Unit := do
  let next := (← ahead).token
  let operand := next.startsKey || next.isPunct "\x7b" || next.isPunct "(" || next.isPunct "\x60"
  if (← atOneOf ["keyof", "unique", "readonly"]) && operand then
    advance
    r.typeOperand
  else if (← atWord "infer") && next.isName then
    advance
    let _ ← propertyName
    let _ ← attempt do
      expectWord "extends"
      within (fun c => { c with plainTypes := true }) r.type
      if !(← read).plainTypes && (← atPunct "?") then fail
  else arrayType r

/-- Types with a mark between them, and maybe one in front. -/
def typeList (mark : String) (item : Rule Unit) : Rule Unit := do
  let _ ← eat mark
  item
  iterate () fun _ => do
    if ← eat mark then
      item
      return .inl ()
    return .inr ()

/-- A type that is no condition. -/
def unconditionalType (r : Rules) : Rule Unit := do
  if ← atFunctionType r then functionType r
  else if (← atWord "new") || ((← atWord "abstract") && (← aheadWord "new")) then
    let _ ← eatWord "abstract"
    advance
    functionType r
  else typeList "|" (typeList "&" do
    if ← atFunctionType r then functionType r else r.typeOperand)

/-- A type. -/
def typeExpr (r : Rules) : Rule Unit := do
  unconditionalType r
  if !(← read).plainTypes && !(← cursor).lineBreak && (← atWord "extends") then
    advance
    within (fun c => { c with plainTypes := true }) (unconditionalType r)
    expect "?"
    freely r.type
    expect ":"
    freely r.type

end StyleExtract.Script
