import StyleExtract.Script.Grammar.Literals

/-!
# Parentheses and arrow functions

Behind an opening parenthesis there may stand an expression or the parameters of an arrow
function. Both are read as expressions, with the annotations and defaults that only parameters
may have, and the token behind the closing parenthesis decides.

## Main definitions

* `Script.parenthesized` — an expression in parentheses or an arrow function.
* `Script.genericArrow` — an arrow function with type parameters.
-/

namespace StyleExtract.Script

/-- What stands between the parentheses. -/
structure ParenItem where
  /-- As an expression. -/
  node : Node
  /-- Whether it is spread. -/
  spread : Bool
  /-- Whether it has an annotation and so can only be a parameter. -/
  annotated : Bool
  /-- Whether it is a plain name. -/
  plain : Bool
  /-- Whether a comma follows it. -/
  followed : Bool := false

/-- Whether an item can be a parameter; nothing follows what is spread. -/
def ParenItem.isParam (i : ParenItem) : Bool :=
  !(i.spread && i.followed) &&
    (i.annotated || (if i.spread then i.node.param else i.node.paramElement))

/-- The two branches of a conditional expression behind its question mark. -/
def branches (r : Rules) : Rule Unit := do
  let _ ← within (fun c => { c with inConditional := true, colonAhead := true, allowIn := true })
    r.value
  expect ":"
  let _ ← within (fun c => { c with inConditional := true, colonAhead := false }) r.value

/-- An operand that may be assigned to, in a typed file, where a question mark behind a name need
not be that of a conditional expression. -/
def typedParenNode (r : Rules) (finish : Nat → Node → Rule Node) : Rule Node := do
  let start ← position
  if (← cursor).token.isBindable then
    let n ← within (fun c => { c with arrowStart := start }) (r.binary 0)
    if n.closed then return n
    finish start n
  else r.assign

/-- One item between parentheses. `finish` reads the assignment behind an operand. -/
def parenItem (r : Rules) (finish : Nat → Node → Rule Node) : Rule ParenItem := do
  let typed ← isTyped
  if typed then
    iterate () fun _ => do
      if (← atOneOf fieldModifiers) && (← ahead).token.isBindable then
        earlyError
        advance
        return .inl ()
      return .inr ()
  let start ← position
  let spread ← eat "..."
  if !typed then
    let node ← r.assign
    return { node, spread, annotated := false, plain := node.expr.isIdent && !spread }
  let node ← if spread then
      (if (← cursor).token.isBindable then r.binary 0 else r.assign)
    else typedParenNode r finish
  let plain := node.expr.isIdent && !spread
  let next ← ahead
  let optional := (← atPunct "?") && (next.token.isPunct "," || next.token.isPunct ":" ||
    next.token.isPunct ")" || next.token.isPunct "=")
  if optional then
    advance
    if !node.expr.isIdent then fail
  else if (← atPunct "?") && !spread && !node.closed then
    let _ ← node.value
    advance
    branches r
    let node : Node := { expr := .other (← spanFrom start) }
    return { node, spread, annotated := false, plain := false }
  if optional || (← atPunct ":") then
    if !(if spread then node.param else node.paramElement) then fail
    annotation r
    let hasDefault ← defaultValue r
    return { node, spread, annotated := true, plain := plain && !hasDefault }
  return { node, spread, annotated := false, plain }

/-- The items between parentheses, behind the opening one and up to the closing one. -/
def parenItems (r : Rules) (finish : Nat → Node → Rule Node) : Rule (List ParenItem) :=
  unrestricted <| iterate ([] : List ParenItem) fun items => do
    if ← eat ")" then return .inr items.reverse
    let item ← parenItem r finish
    if ← eat ")" then return .inr (item :: items).reverse
    expect ","
    return .inl ({ item with followed := true } :: items)

/-- The rest of an arrow function behind its parameters and their type. -/
def arrowRest (r : Rules) (isAsync : Bool) (items : List ParenItem) : Rule Unit := do
  if (← cursor).lineBreak then fail
  expect "=>"
  if !(items.all ParenItem.isParam) then fail
  arrowBody r isAsync (items.all (·.plain))

/-- The node of an arrow function. -/
def arrowNode (start : Nat) : Rule Node := do
  return { expr := .other (← spanFrom start), closed := true }

/-- The arguments that items turn out to be. -/
def itemArguments (items : List ParenItem) : Rule (List Argument) :=
  items.mapM fun i => do
    if i.annotated then fail
    return Argument.mk i.spread (← i.node.value)

/-- An expression in parentheses, of which the opening one is read, or an arrow function. With
`isAsync` the word `async` stands before, and without an arrow it is a call. -/
def parenthesized (r : Rules) (finish : Nat → Node → Rule Node) (start : Nat)
    (asyncName : Option Expr) : Rule Node := do
  let isAsync := asyncName.isSome
  let mayBeArrow := (← read).arrowStart == start
  let items ← parenItems r finish
  let ctx ← read
  if ctx.dialect.typed && ctx.inConditional && (← atPunct ":") then
    let arrow ← attempt do
      returnType r
      arrowRest r isAsync items
      if ctx.colonAhead && !(← atPunct ":") then fail
    if arrow.isSome then return ← arrowNode start
  let typedResult ← if ctx.dialect.typed && !ctx.colonAhead && (← atPunct ":") then
      attempt do
        returnType r
        if !(← atPunct "=>") then fail
    else pure none
  if items.any (·.annotated) || typedResult.isSome || (← atPunct "=>") then
    if !mayBeArrow then fail
    arrowRest r isAsync items
    return ← arrowNode start
  let args ← itemArguments items
  match asyncName with
  | some callee => return { expr := .call (← spanFrom start) callee args }
  | none =>
    if args.any Argument.isSpread then fail
    match args, items with
    | [], _ => fail
    | [arg], [item] =>
      let simple := item.node.simple
      return { expr := .paren (← spanFrom start) arg.value, simple, target := simple,
               element := simple }
    | arg :: _, _ =>
      let inner : Expr := .other ⟨arg.value.span.start, (← cursor).last⟩
      return { expr := .paren (← spanFrom start) inner }

/-- An arrow function with type parameters, of which the opening bracket is the current token. -/
def genericArrow (r : Rules) (isAsync : Bool) : Rule Unit := do
  typeParameters r
  let kind : FunctionKind := { isAsync, isArrow := true }
  let shape ← within kind.enter do
    let shape ← parameters r false
    returnType r
    return shape
  if (← cursor).lineBreak then fail
  expect "=>"
  arrowBody r isAsync shape.plain

end StyleExtract.Script
