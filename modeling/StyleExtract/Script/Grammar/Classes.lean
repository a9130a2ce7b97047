import StyleExtract.Script.Grammar.Functions

/-!
# Classes

## Main definitions

* `Script.classMember` — one member.
* `Script.classTail` — everything behind the name of a class.
-/

namespace StyleExtract.Script

/-- The modifiers of a member. -/
structure Modifiers where
  isStatic : Bool := false
  isAbstract : Bool := false
  isAmbient : Bool := false

/-- Words that are modifiers in typed files. -/
def memberModifiers : List String :=
  ["declare", "public", "private", "protected", "abstract", "override", "readonly", "accessor"]

/-- The modifiers before the name of a member. A word is one if a name may follow it; all but
`static` stand on the line of what they modify. -/
def modifiers : Rule Modifiers := do
  let typed ← isTyped
  iterate ({} : Modifiers) fun m => do
    let next ← ahead
    let leads := next.token.startsKey || next.token.isPunct "*"
    if (← atWord "static") && (leads || next.token.isPunct "\x7b") then
      advance
      return .inl { m with isStatic := true }
    if typed && (← atOneOf memberModifiers) && leads && !next.lineBreak then
      let m := { m with
        isAbstract := m.isAbstract || (← atWord "abstract")
        isAmbient := m.isAmbient || (← atWord "declare") }
      advance
      return .inl m
    return .inr m

/-- The context of the initializers and static blocks of a class. -/
def Context.enterField (c : Context) : Context :=
  { c with
    inField := true
    inParameters := false
    hasParent := true
    inFunction := false
    hasReceiver := true
    inAsync := false
    inGenerator := false
    breakable := false
    continuable := false
    labels := []
    allowIn := true
    inConditional := false
    colonAhead := false }

/-- Whether a key is a given name. -/
def Key.isNamed (s : String) : Key → Bool
  | .name k | .text k => k == s
  | _ => false

/-- What stands before the name of a method. -/
structure MethodMarks where
  isAsync : Bool := false
  isGenerator : Bool := false
  isGetter : Bool := false
  isSetter : Bool := false

/-- The marks before the name of a method. -/
def methodMarks : Rule MethodMarks := do
  let next ← ahead
  if (← atWord "async") && !next.lineBreak && (next.token.startsKey || next.token.isPunct "*") then
    advance
    return { isAsync := true, isGenerator := ← eat "*" }
  if ← eat "*" then return { isGenerator := true }
  if (← atWord "get") && next.token.startsKey then
    advance
    return { isGetter := true }
  if (← atWord "set") && next.token.startsKey then
    advance
    return { isSetter := true }
  return {}

/-- Whether any mark is set. -/
def MethodMarks.any (m : MethodMarks) : Bool :=
  m.isAsync || m.isGenerator || m.isGetter || m.isSetter

/-- The parameters and body of a method; a getter takes nothing, and a setter one value
and not the rest of some. -/
def methodRest (r : Rules) (m : MethodMarks) (constructor : Bool) : Rule Bool := do
  let (shape, hasBody) ←
    functionRest r { isAsync := m.isAsync, isGenerator := m.isGenerator, isMethod := true }
      constructor
  earlyErrorIf (m.isGetter && shape.count != 0)
  earlyErrorIf (m.isSetter && (shape.count != 1 || shape.rest))
  return hasBody

/-- The key of a member, which may be private. -/
def memberKey (r : Rules) : Rule Key := do
  match (← cursor).token with
  | .privateName name =>
    earlyErrorIf (name == "constructor")
    advance
    return .other
  | _ => propertyKey r

/-- One member. `hasConstructor` says whether a constructor with a body stands before, and the
result whether one does then. -/
def classMember (r : Rules) (isAbstract hasConstructor : Bool) : Rule Bool := do
  if ← eat ";" then return hasConstructor
  decorators r
  let m ← modifiers
  earlyErrorIf (m.isAbstract && !isAbstract)
  if m.isStatic && (← atPunct "\x7b") then
    advance
    within Context.enterField (statementsToBrace r)
    return hasConstructor
  if (← isTyped) && (← atIndexSignature) then
    indexSignature r
    memberEnd
    return hasConstructor
  let marks ← methodMarks
  let key ← memberKey r
  let isConstructor := !m.isStatic && key.isNamed "constructor"
  earlyErrorIf (m.isStatic && key.isNamed "prototype")
  if ← isTyped then
    if !(← eat "?") then
      if !(← cursor).lineBreak then
        let _ ← eat "!"
  if (← atPunct "(") || ((← isTyped) && (← atPunct "<")) then
    earlyErrorIf (isConstructor && marks.any)
    let hasBody ← methodRest r marks isConstructor
    earlyErrorIf (isConstructor && hasBody && hasConstructor)
    return hasConstructor || (isConstructor && hasBody)
  if marks.any then fail
  earlyErrorIf (key.isNamed "constructor")
  annotation r
  if ← eat "=" then
    let _ ← within Context.enterField r.value
  semicolon
  return hasConstructor

/-- The types that a class or interface builds on. -/
def heritageTypes (r : Rules) : Rule Unit :=
  iterate () fun _ => do
    freely r.typeOperand
    if ← eat "," then return .inl ()
    return .inr ()

/-- Everything behind the name of a class. -/
def classTail (r : Rules) (isAbstract : Bool) : Rule Unit := do
  optionalTypeParameters r
  let typed ← isTyped
  if ← eatWord "extends" then
    let n ← r.call
    let _ ← n.value
    if typed && (← atPunct "<") then typeArguments r
  if typed then
    if ← eatWord "implements" then heritageTypes r
  expect "\x7b"
  let _ ← iterate false fun hasConstructor => do
    if ← eat "\x7d" then return .inr ()
    return .inl (← classMember r isAbstract hasConstructor)

/-- A class expression behind its keyword, maybe with a name. -/
def classExpression (r : Rules) (isAbstract : Bool) : Rule Unit := do
  let token := (← cursor).token
  if token.isName && !token.isWord "extends" && !token.isWord "implements" then
    let _ ← bindingName
  classTail r isAbstract

end StyleExtract.Script
