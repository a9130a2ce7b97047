import StyleExtract.Script.Grammar.Arrows
import StyleExtract.Script.Grammar.Markup

/-!
# Expressions

## Main definitions

* `Script.primary` — expressions without operators.
* `Script.subscripts` — members, calls and templates behind an expression.
* `Script.unaryExpr`, `Script.binaryExpr` — operators.
* `Script.assignExpr` — assignments, arrow functions and conditional expressions.
-/

namespace StyleExtract.Script

/-! ## Operators -/

/-- The operators of assignments, angle brackets apart. -/
def assignMarks : List String :=
  ["=", "+=", "-=", "*=", "/=", "%=", "**=", "&=", "|=", "^=", "&&=", "||=", "??="]

/-- The operator that starts with an angle bracket: its text, and the number of characters behind
the bracket that belong to it. -/
def angleOperator (c : Cursor) : Option (String × Nat) :=
  match c.token with
  | .punct "<" =>
    match c.rest with
    | '<' :: '=' :: _ => some ("<<=", 2)
    | '<' :: _ => some ("<<", 1)
    | '=' :: _ => some ("<=", 1)
    | _ => some ("<", 0)
  | .punct ">" =>
    match c.rest with
    | '>' :: '>' :: '=' :: _ => some (">>>=", 3)
    | '>' :: '>' :: _ => some (">>>", 2)
    | '>' :: '=' :: _ => some (">>=", 2)
    | '>' :: _ => some (">>", 1)
    | '=' :: _ => some (">=", 1)
    | _ => some (">", 0)
  | _ => none

/-- The operator at the cursor: its text, and the number of characters behind the token that
belong to it. -/
def operatorAt (c : Cursor) : Option (String × Nat) :=
  match angleOperator c with
  | some o => some o
  | none =>
    match c.token with
    | .punct m => some (m, 0)
    | .word w false => some (w, 0)
    | _ => none

/-- How tightly a binary operator binds. -/
def precedence? (op : String) : Option Nat :=
  if op == "??" || op == "||" then some 1
  else if op == "&&" then some 2
  else if op == "|" then some 3
  else if op == "^" then some 4
  else if op == "&" then some 5
  else if ["==", "!=", "===", "!=="].contains op then some 6
  else if ["<", ">", "<=", ">=", "instanceof", "in"].contains op then some 7
  else if ["<<", ">>", ">>>"].contains op then some 8
  else if op == "+" || op == "-" then some 9
  else if ["*", "/", "%"].contains op then some 10
  else if op == "**" then some 11
  else none

/-- Reads an operator that has some characters behind the current token. -/
def readOperator (extra : Nat) : Rule Unit :=
  resume fun c => some ((), c.stop - c.start + extra,
    ⟨c.rest.drop extra, (List.drop_suffix extra c.rest).trans c.rest_suffix⟩)

/-! ## Assignments behind their target -/

/-- The operator of an assignment at the cursor. -/
def assignOperator? (c : Cursor) : Option (String × Nat) :=
  match operatorAt c with
  | some (op, extra) =>
    if assignMarks.contains op || ["<<=", ">>=", ">>>="].contains op then some (op, extra) else none
  | none => none

/-- The assignment behind a node, if there is one. Plain assignment takes patterns, too. -/
def finishAssign (r : Rules) (start : Nat) (n : Node) : Rule Node := do
  match assignOperator? (← cursor) with
  | none => return n
  | some (op, extra) =>
    let plain := op == "="
    if plain then
      if !n.target then earlyError
    else earlyErrorIf !n.simple
    readOperator extra
    let _ ← r.value
    return { expr := .other (← spanFrom start), closed := true,
             element := plain && n.target, paramElement := plain && n.param }

/-! ## Primary expressions -/

/-- The node of an expression that is nothing else. -/
def otherNode (start : Nat) : Rule Node := do
  return { expr := .other (← spanFrom start) }

/-- The node of a name. -/
def identNode (start : Nat) (name : String) : Rule Node := do
  let ok := isAssignableName name
  return { expr := .ident (← spanFrom start) name, target := ok, simple := ok, element := ok,
           param := ok, paramElement := ok }

/-- A literal that is one token. -/
def tokenNode : Rule Node := do
  let start ← position
  advance
  otherNode start

/-- A name, or an arrow function with one parameter without parentheses. -/
def nameOrArrow (r : Rules) (start : Nat) : Rule Node := do
  let name ← referenceName
  let mayBeArrow := (← read).arrowStart == start
  if mayBeArrow && (← atPunct "=>") && !(← cursor).lineBreak then
    earlyErrorIf !(isAssignableName name)
    advance
    arrowBody r false true
    return ← arrowNode start
  identNode start name

/-- An expression that starts with the word `async`. -/
def asyncExpression (r : Rules) (start : Nat) : Rule Node := do
  let next ← ahead
  let mayBeArrow := (← read).arrowStart == start
  if next.lineBreak then return ← nameOrArrow r start
  if next.token.isWord "function" then
    advance
    advance
    functionExpression r true
    return ← otherNode start
  if mayBeArrow && next.token.isBindable && (next.next (← read).size).token.isPunct "=>" then
    advance
    let _ ← within (fun c => { c with inAsync := true }) bindingName
    if (← cursor).lineBreak then fail
    advance
    arrowBody r true true
    return ← arrowNode start
  if mayBeArrow && next.token.isPunct "(" then
    advance
    let callee := Expr.ident (← spanFrom start) "async"
    advance
    return ← parenthesized r (finishAssign r) start (some callee)
  nameOrArrow r start

/-- An expression that starts with `import`: a dynamic import or the module's own data. -/
def importExpression (r : Rules) (start : Nat) : Rule Node := do
  advance
  if ← eat "." then
    expectWord "meta"
    return ← otherNode start
  expect "("
  let args ← callArguments r
  if args.isEmpty || args.length > 2 then fail
  otherNode start

/-- The parent's members and constructor. -/
def superExpression (start : Nat) : Rule Node := do
  let ctx ← read
  advance
  if !(← atPunct "(") then earlyErrorIf !(ctx.dialect.typed || ctx.hasParent)
  if !((← atPunct "(") || (← atPunct ".") || (← atPunct "[")) then fail
  otherNode start

/-- A template without a tag, whose escapes have to be right. -/
def plainTemplate (r : Rules) (start : Nat) : Rule Node := do
  let (texts, holes) ← templateParts r
  earlyErrorIf (texts.any Option.isNone)
  return { expr := .template (← spanFrom start) texts holes }

/-- Expressions without operators. -/
def primary (r : Rules) : Rule Node := do
  let c ← cursor
  let start := c.start
  match c.token with
  | .text s =>
    advance
    return { expr := .text (← spanFrom start) s }
  | .number _ => tokenNode
  | .privateName _ =>
    advance
    if !((← atWord "in") && (← read).allowIn) then fail
    otherNode start
  | .word "this" false => tokenNode
  | .word "null" false => tokenNode
  | .word "true" false => tokenNode
  | .word "false" false => tokenNode
  | .word "function" false =>
    advance
    functionExpression r false
    otherNode start
  | .word "class" false =>
    advance
    classExpression r false
    otherNode start
  | .word "async" false => asyncExpression r start
  | .word "import" false => importExpression r start
  | .word "super" false => superExpression start
  | .word _ _ => nameOrArrow r start
  | .punct "(" =>
    advance
    parenthesized r (finishAssign r) start none
  | .punct "[" =>
    advance
    arrayLiteral r start
  | .punct "\x7b" =>
    advance
    objectLiteral r start
  | .punct "\x60" => plainTemplate r start
  | .punct "/" | .punct "/=" =>
    regularExpression
    otherNode start
  | .punct "@" =>
    decorators r
    expectWord "class"
    classExpression r false
    otherNode start
  | .punct "<" =>
    if !(← hasMarkup) then fail
    r.element
    advance
    otherNode start
  | _ => fail

/-! ## Members, calls and templates -/

/-- The node of a member. -/
def memberNode (start : Nat) (object : Node) (key : MemberKey) : Rule Node := do
  let span ← spanFrom start
  let free := !object.chain
  return { expr := if object.chain then .other span else .member span object.expr key
           chain := object.chain, target := free, simple := free, element := free }

/-- The node of a call. -/
def callNode (start : Nat) (callee : Node) (args : List Argument) : Rule Node := do
  let span ← spanFrom start
  return { expr := if callee.chain then .other span else .call span callee.expr args
           chain := callee.chain }

/-- A template behind a tag; none stands behind an optional chain. -/
def taggedNode (r : Rules) (start : Nat) (tag : Node) : Rule Node := do
  earlyErrorIf tag.chain
  let from_ ← position
  let (_, holes) ← templateParts r
  return { expr := .tagged (← spanFrom start) tag.expr (← spanFrom from_) holes }

/-- Whether a token can start an expression. -/
def startsExpression (t : Token) : Bool :=
  match t with
  | .text _ | .number _ | .privateName _ => true
  | .word w false =>
    !(["in", "instanceof", "as", "satisfies", "of", "extends", "implements", "else", "case",
      "catch", "finally", "default", "from"].contains w)
  | .word _ true => true
  | .punct m => ["(", "[", "\x7b", "\x60", "/", "/=", "<", "+", "-", "!", "~", "++", "--",
      "@"].contains m
  | _ => false

/-- Whether type arguments can end before a token: not before what continues a comparison or
starts an operand. -/
def endsTypeArguments (c : Cursor) : Bool :=
  if ["<", ">", "+", "-"].any c.token.isPunct then false
  else
    c.lineBreak || ((operatorAt c).bind fun (op, _) => precedence? op).isSome ||
      !startsExpression c.token

/-- What stands behind an expression in angle brackets, if these are type arguments: a call, a
template, or nothing. -/
def typedSubscript (r : Rules) (calls : Bool) (start : Nat) (n : Node) : Rule Node := do
  let arrowStart := (← read).arrowStart
  let isAsync := match n.expr with
    | .ident s "async" => s.start == start && arrowStart == start
    | _ => false
  if calls && isAsync && !(← cursor).lineBreak then
    if (← attempt (genericArrow r true)).isSome then return ← arrowNode start
  typeArguments r
  if calls && (← atPunct "(") then
    advance
    let args ← callArguments r
    callNode start n args
  else if ← atPunct "\x60" then taggedNode r start n
  else if calls && endsTypeArguments (← cursor) then otherNode start
  else fail

/-- What stands behind an optional access. -/
def optionalSubscript (r : Rules) (start : Nat) : Rule Node := do
  if ← eat "(" then
    let _ ← callArguments r
  else if ← eat "[" then
    let _ ← unrestricted r.expression
    expect "]"
  else if (← isTyped) && (← atPunct "<") then
    typeArguments r
    expect "("
    let _ ← callArguments r
  else if (← cursor).token.isPrivate then advance
  else
    let _ ← propertyName
  return { expr := .other (← spanFrom start), chain := true }

/-- One step behind an expression, if there is one. -/
def subscript (r : Rules) (calls : Bool) (start : Nat) (n : Node) : Rule (Node ⊕ Node) := do
  if n.closed then return .inr n
  let c ← cursor
  let typed ← isTyped
  match c.token with
  | .punct "." =>
    advance
    match (← cursor).token with
    | .privateName _ =>
      advance
      return .inl (← memberNode start n .other)
    | _ =>
      let name ← propertyName
      return .inl (← memberNode start n (.name name))
  | .punct "[" =>
    advance
    let _ ← unrestricted r.expression
    expect "]"
    return .inl (← memberNode start n .other)
  | .punct "(" =>
    if !calls then return .inr n
    advance
    let args ← callArguments r
    return .inl (← callNode start n args)
  | .punct "\x60" => return .inl (← taggedNode r start n)
  | .punct "?." =>
    if !calls then fail
    advance
    return .inl (← optionalSubscript r start)
  | .punct "!" =>
    if typed && !c.lineBreak then
      advance
      return .inl { n with expr := .other (← spanFrom start), param := false,
                           paramElement := false }
    return .inr n
  | .punct "<" =>
    if typed then
      match ← attempt (typedSubscript r calls start n) with
      | some n => return .inl n
      | none => return .inr n
    return .inr n
  | _ => return .inr n

/-- The members, calls and templates behind an expression. -/
def subscripts (r : Rules) (calls : Bool) (start : Nat) (n : Node) : Rule Node :=
  iterate n fun n => do
    match ← subscript r calls start n with
    | .inl n =>
      earlyErrorIf n.pending
      return .inl n
    | .inr n => return .inr n

/-- An object made by `new`. -/
def newExpression (r : Rules) (start : Nat) : Rule Node := do
  advance
  if ← eat "." then
    expectWord "target"
    earlyErrorIf !(← read).hasReceiver
    return ← otherNode start
  if (← atWord "import") && !(← aheadPunct ".") then fail
  let callee ← r.construct
  let _ ← callee.value
  if (← isTyped) && (← atPunct "<") then
    let _ ← attempt do
      typeArguments r
      if !(← atPunct "(") then fail
  if ← atPunct "?." then fail
  if ← eat "(" then
    let _ ← callArguments r
  otherNode start

/-- A primary expression or one made by `new`. -/
def primaryOrNew (r : Rules) (start : Nat) : Rule Node := do
  if ← atWord "new" then newExpression r start else primary r

/-- The callee of `new`. -/
def constructExpr (r : Rules) : Rule Node := do
  let start ← position
  let n ← primaryOrNew r start
  subscripts r false start n

/-- Members and calls. -/
def callExpr (r : Rules) : Rule Node := do
  let start ← position
  let n ← primaryOrNew r start
  subscripts r true start n

/-! ## Operators and assignments -/

/-- The operators in front of an operand. -/
def prefixWords : List String := ["delete", "void", "typeof"]

/-- The marks in front of an operand. -/
def prefixMarks : List String := ["+", "-", "~", "!"]

/-- Whether an expression, parentheses apart, is a member. -/
def Expr.isMember : Expr → Bool
  | .member .. => true
  | .paren _ e => e.isMember
  | _ => false

/-- What may be deleted: no plain name, and in typed files nothing but members. -/
def checkDelete (n : Node) : Rule Unit := do
  earlyErrorIf n.expr.isIdent
  earlyErrorIf ((← isTyped) && !(n.chain || n.expr.isMember))

/-- Whether something can be awaited here: in asynchronous functions, and at the top of a
module. -/
def canAwait : Rule Bool := do
  let c ← read
  return c.inAsync || (!c.inFunction && !c.inField)

/-- An operand behind a type in angle brackets; the word `const` only fixes the type. -/
def typeAssertion (r : Rules) (start : Nat) : Rule Node := do
  expect "<"
  let isConst := (← atWord "const") && (← aheadPunct ">")
  if isConst then advance else freely r.type
  expect ">"
  let n ← r.unary
  let value ← n.value
  let span ← spanFrom start
  return { expr := if isConst then .ascribed span value else .other span, simple := n.simple,
           target := n.simple, element := n.simple, unary := true }

/-- An operand with the operators before and behind it. -/
def unaryExpr (r : Rules) : Rule Node := do
  let c ← cursor
  let start := c.start
  if c.token.isPunct "<" && (← isTyped) && !(← hasMarkup) then return ← typeAssertion r start
  if c.token.isPunct "++" || c.token.isPunct "--" then
    advance
    let n ← r.unary
    earlyErrorIf !n.simple
    return ← otherNode start
  if prefixWords.any c.token.isWord || prefixMarks.any c.token.isPunct then
    advance
    let n ← r.unary
    let _ ← n.value
    if c.token.isWord "delete" then checkDelete n
    return { ← otherNode start with unary := true }
  if c.token.isWord "await" then
    if !(← canAwait) then fail
    earlyErrorIf (← read).inParameters
    advance
    let n ← r.unary
    let _ ← n.value
    return { ← otherNode start with unary := true }
  let n ← callExpr r
  if n.closed then return n
  let after ← cursor
  if !after.lineBreak && (after.token.isPunct "++" || after.token.isPunct "--") then
    earlyErrorIf !n.simple
    advance
    return ← otherNode start
  return n

/-- Whether two operands of a logical operator mix the two kinds of them. -/
def mixesLogic (coalesces : Bool) (n : Node) : Bool :=
  match n.logic with
  | some kind => kind != coalesces
  | none => false

/-- One binary operator behind its left operand, if it binds more tightly than a level. -/
def binaryStep (r : Rules) (level start : Nat) (left : Node) : Rule (Node ⊕ Node) := do
  if left.closed then return .inr left
  let c ← cursor
  let ctx ← read
  if ctx.dialect.typed && level < 7 && !c.lineBreak &&
      (c.token.isWord "as" || c.token.isWord "satisfies") then
    let value ← left.value
    advance
    if c.token.isWord "as" && (← atWord "const") then advance else freely r.type
    return .inl { expr := .ascribed (← spanFrom start) value, simple := left.simple,
                  target := left.simple, element := left.simple }
  match operatorAt c with
  | none => return .inr left
  | some (op, extra) =>
    match precedence? op with
    | none => return .inr left
    | some p =>
      if p ≤ level || (op == "in" && !ctx.allowIn) then return .inr left
      let _ ← left.value
      earlyErrorIf (op == "**" && left.unary)
      readOperator extra
      let right ← r.binary (if op == "**" then p - 1 else p)
      let _ ← right.value
      let coalesces := op == "??"
      let logical := coalesces || op == "||" || op == "&&"
      earlyErrorIf (logical && (mixesLogic coalesces left || mixesLogic coalesces right))
      return .inl { ← otherNode start with logic := if logical then some coalesces else none }

/-- Operators that bind more tightly than a level, and their operands. -/
def binaryExpr (r : Rules) (level : Nat) : Rule Node := do
  let start ← position
  let left ← r.unary
  iterate left fun left => binaryStep r level start left

/-- A conditional expression, or less. -/
def conditionalExpr (r : Rules) : Rule Node := do
  let start ← position
  let test ← r.binary 0
  if test.closed || !(← atPunct "?") then return test
  let _ ← test.value
  advance
  branches r
  otherNode start

/-- What a generator hands out. -/
def yieldExpr (r : Rules) (start : Nat) : Rule Node := do
  advance
  earlyErrorIf (← read).inParameters
  let c ← cursor
  let ends := [")", "]", "\x7d", ",", ";", ":"].any c.token.isPunct || c.token.isFinish ||
    c.token.isWord "in" || c.token.isWord "of"
  if !c.lineBreak && !ends then
    let _ ← eat "*"
    let _ ← r.value
  return { ← otherNode start with closed := true }

/-- An expression without commas at its top, type parameters apart. -/
def plainAssign (r : Rules) : Rule Node := do
  let start ← position
  if (← read).inGenerator && (← atWord "yield") then return ← yieldExpr r start
  let n ← within (fun c => { c with arrowStart := start }) (conditionalExpr r)
  if n.closed then return n
  finishAssign r start n

/-- An expression without commas at its top. In typed files an opening angle bracket may start
markup, an arrow function with type parameters, or an assertion; they are tried in this order. -/
def assignExpr (r : Rules) : Rule Node := do
  if (← isTyped) && (← atPunct "<") then
    let start ← position
    if ← hasMarkup then
      match ← attempt (plainAssign r) with
      | some n => return n
      | none => pure ()
    if (← ahead).token.isName then
      let arrow ← attempt (within (fun c => { c with colonAhead := false }) (genericArrow r false))
      if arrow.isSome then return ← arrowNode start
  plainAssign r

end StyleExtract.Script
