import StyleExtract.Script.Grammar.Rules

/-!
# Patterns and parameters

## Main definitions

* `Script.pattern` — a name, or a pattern of an object or an array.
* `Script.decorators` — decorators of classes, members and parameters in typed files.
* `Script.parameters` — the parameters of a function.
* `Script.propertyKey` — the key of a property of an object, pattern or class.
-/

namespace StyleExtract.Script

/-- A type annotation behind a colon, where there is one. -/
def annotation (r : Rules) : Rule Unit := do
  if ← isTyped then
    if ← eat ":" then within (fun c => { c with plainTypes := false }) r.type

/-- A default value behind an equals sign, where there is one. -/
def defaultValue (r : Rules) : Rule Bool := do
  if ← eat "=" then
    let _ ← within (fun c => { c with allowIn := true }) r.value
    return true
  return false

/-- The key of a property: a word, a string, a number, or an expression in brackets. -/
def propertyKey (r : Rules) : Rule Key := do
  match (← cursor).token with
  | .word _ _ => return .name (← propertyName)
  | .text s =>
    advance
    return .text s
  | .number (.double x) =>
    advance
    return .number x
  | .number .big =>
    advance
    return .other
  | _ =>
    expect "["
    let _ ← within (fun c => { c with allowIn := true }) r.value
    expect "]"
    return .other

/-- A pattern of an array behind its bracket. What is spread comes last. -/
def arrayPattern (r : Rules) : Rule Unit :=
  iterate () fun _ => do
    if ← eat "]" then return .inr ()
    if ← eat "," then return .inl ()
    if ← eat "..." then
      let _ ← r.pattern
      expect "]"
      return .inr ()
    let _ ← r.pattern
    let _ ← defaultValue r
    if ← eat "]" then return .inr ()
    expect ","
    return .inl ()

/-- A pattern of an object behind its brace. What is spread comes last. -/
def objectPattern (r : Rules) : Rule Unit :=
  iterate () fun _ => do
    if ← eat "\x7d" then return .inr ()
    if ← eat "..." then
      let _ ← r.pattern
      expect "\x7d"
      return .inr ()
    let token := (← cursor).token
    if token.isName && !(← aheadPunct ":") then
      let _ ← bindingName
    else
      let _ ← propertyKey r
      expect ":"
      let _ ← r.pattern
    let _ ← defaultValue r
    if ← eat "\x7d" then return .inr ()
    expect ","
    return .inl ()

/-- A pattern: a name, or a pattern of an object or an array. -/
def pattern (r : Rules) : Rule (Option String) := do
  if ← eat "[" then
    arrayPattern r
    return none
  if ← eat "\x7b" then
    objectPattern r
    return none
  return some (← bindingName)

/-- Decorators in typed files: a name with members and arguments, or an expression in
parentheses. -/
def decorators (r : Rules) : Rule Unit := do
  if ← isTyped then
    iterate () fun _ => do
      if ← eat "@" then
        let _ ← within (fun c => { c with allowIn := true }) r.construct
        if ← eat "(" then
          commaList ")" do
            let _ ← eat "..."
            let _ ← r.value
        return .inl ()
      return .inr ()

/-- Words that make a field of a parameter. -/
def fieldModifiers : List String := ["public", "private", "protected", "readonly", "override"]

/-- What a list of parameters is like. -/
structure ParameterShape where
  /-- How many there are, the receiver not counted. -/
  count : Nat := 0
  /-- Whether all are plain names. -/
  plain : Bool := true
  /-- Whether one has a default. -/
  defaults : Bool := false
  /-- Whether the last one takes the rest. -/
  rest : Bool := false

/-- The modifiers of a parameter that is a field, too. -/
def parameterModifiers (constructor : Bool) : Rule Unit := do
  if ← isTyped then
    iterate () fun _ => do
      if ← atOneOf fieldModifiers then
        let next := (← ahead).token
        if next.isName || next.isPunct "\x7b" || next.isPunct "[" then
          earlyErrorIf !constructor
          advance
          return .inl ()
      return .inr ()

/-- The parameters of a function, from the opening to the closing parenthesis. -/
def parameters (r : Rules) (constructor : Bool) : Rule ParameterShape := do
  expect "("
  iterate ({} : ParameterShape) fun shape => do
    if ← eat ")" then return .inr shape
    decorators r
    parameterModifiers constructor
    if ← eat "..." then
      let _ ← r.pattern
      annotation r
      expect ")"
      return .inr { shape with count := shape.count + 1, plain := false, rest := true }
    let typed ← isTyped
    let receiver := typed && (← atWord "this")
    let name ← r.pattern
    if typed then
      let _ ← eat "?"
    annotation r
    let hasDefault ← defaultValue r
    let shape : ParameterShape :=
      { shape with
        count := if receiver then shape.count else shape.count + 1
        plain := shape.plain && name.isSome && !hasDefault
        defaults := shape.defaults || hasDefault }
    if ← eat ")" then return .inr shape
    expect ","
    return .inl shape

end StyleExtract.Script
