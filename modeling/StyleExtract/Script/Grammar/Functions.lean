import StyleExtract.Script.Grammar.Types

/-!
# Functions

## Main definitions

* `Script.FunctionKind` — asynchronous or not, generator or not.
* `Script.functionBody` — a body in braces.
* `Script.functionRest` — everything behind the name of a function.
-/

namespace StyleExtract.Script

/-- What a function is. -/
structure FunctionKind where
  isAsync : Bool := false
  isGenerator : Bool := false
  /-- An arrow function keeps the receiver of its surroundings. -/
  isArrow : Bool := false
  /-- A method can use the members of the parent. -/
  isMethod : Bool := false

/-- The context inside a function. -/
def FunctionKind.enter (k : FunctionKind) (c : Context) : Context :=
  { c with
    inFunction := true
    hasReceiver := c.hasReceiver || !k.isArrow
    inAsync := k.isAsync
    inGenerator := k.isGenerator
    inParameters := false
    hasParent := k.isMethod || (k.isArrow && c.hasParent)
    inField := false
    breakable := false
    continuable := false
    labels := []
    inConditional := false
    colonAhead := false }

/-- Whether an item is the directive for strict code, as written. -/
def Item.isStrictDirective : Item → Bool
  | .expression _ (.text s value) => value == "use strict" && s.stop == s.start + 12
  | _ => false

/-- The statements up to a closing brace, which is read, too. -/
def statementsToBrace (r : Rules) : Rule Unit :=
  iterate () fun _ => do
    if ← eat "\x7d" then return .inr ()
    let _ ← r.statement true
    return .inl ()

/-- A body in braces. The directive for strict code is only allowed behind plain parameters. -/
def functionBody (r : Rules) (kind : FunctionKind) (plain : Bool) : Rule Unit :=
  within (fun c => { kind.enter c with allowIn := true }) do
    expect "\x7b"
    iterate true fun prologue => do
      if ← eat "\x7d" then return .inr ()
      let item ← r.statement true
      earlyErrorIf (prologue && item.isStrictDirective && !plain)
      return .inl (prologue && item.isDirective)

/-- Everything behind the name of a function. Without a body it is only a signature, which typed
files allow, and what is only declared has none; no parameter of a signature has a default. The
results are the parameters and whether there is a body. -/
def functionRest (r : Rules) (kind : FunctionKind) (constructor : Bool) :
    Rule (ParameterShape × Bool) := do
  let shape ← within (fun c => { kind.enter c with allowIn := true, inParameters := true }) do
    optionalTypeParameters r
    let shape ← parameters r constructor
    returnType r
    return shape
  if ← atPunct "\x7b" then
    earlyErrorIf (← read).ambient
    functionBody r kind shape.plain
    return (shape, true)
  if !(← isTyped) then fail
  semicolon
  earlyErrorIf shape.defaults
  return (shape, false)

/-- A function expression behind its keyword: maybe a generator, maybe with a name, and with a
body. -/
def functionExpression (r : Rules) (isAsync : Bool) : Rule Unit := do
  let isGenerator ← eat "*"
  let kind : FunctionKind := { isAsync, isGenerator }
  if (← cursor).token.isName then
    let _ ← within (fun c => { c with inAsync := isAsync, inGenerator := isGenerator }) bindingName
  let (_, hasBody) ← functionRest r kind false
  if !hasBody then fail

/-- The body of an arrow function: a block or an expression. -/
def arrowBody (r : Rules) (isAsync plain : Bool) : Rule Unit := do
  let kind : FunctionKind := { isAsync, isArrow := true }
  if ← atPunct "\x7b" then functionBody r kind plain
  else
    let _ ← within (fun c => { kind.enter c with inConditional := c.inConditional,
                                                 colonAhead := c.colonAhead }) r.value

end StyleExtract.Script
