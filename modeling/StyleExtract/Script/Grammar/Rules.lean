import StyleExtract.Script.Grammar.Reader

/-!
# The rules that call each other

The rules of the grammar are mutually recursive. Each is written as a function of a record of the
rules that it may call, and the record is tied to itself with fuel where the whole grammar is put
together.

## Main definitions

* `Script.Node` — an expression, with what else it could turn out to be.
* `Script.Rules` — the rules that others call.

## Design

A name, member, array or object can turn out to be the target of an assignment or the parameter of
an arrow function once the token behind it is seen. A node carries these possibilities beside the
expression, so that nothing has to be read twice.
-/

namespace StyleExtract.Script

/-- An expression, with what else it could turn out to be. -/
structure Node where
  /-- The expression. -/
  expr : Expr
  /-- It can be assigned to. -/
  target : Bool := false
  /-- It is a name or member and can be updated in place. -/
  simple : Bool := false
  /-- It can be assigned to inside a pattern, maybe with a default. -/
  element : Bool := false
  /-- It can be a parameter. -/
  param : Bool := false
  /-- It can be a parameter with a default, or stand inside one. -/
  paramElement : Bool := false
  /-- It holds a shorthand with a default, and so has to turn out to be a pattern. -/
  pending : Bool := false
  /-- It is an arrow function or the like, behind which no operator stands. -/
  closed : Bool := false
  /-- It is part of an optional chain. -/
  chain : Bool := false
  /-- It is an operator application that no power may follow. -/
  unary : Bool := false
  /-- It is an application of `??` (true) or of `||` or `&&` (false). -/
  logic : Option Bool := none

/-- The rules that others call. -/
structure Rules where
  /-- An expression without commas at its top. -/
  assign : Rule Node
  /-- An operand. -/
  unary : Rule Node
  /-- Operators that bind at least as tightly as a level, and their operands. -/
  binary : Nat → Rule Node
  /-- The callee of `new`: members, but no calls. -/
  construct : Rule Node
  /-- Members and calls. -/
  call : Rule Node
  /-- A type. -/
  type : Rule Unit
  /-- A type without unions, intersections, functions and conditions at its top. -/
  typeOperand : Rule Unit
  /-- A pattern; the result is its name if it is one. -/
  pattern : Rule (Option String)
  /-- A statement; a declaration only where asked for. -/
  statement : (declarations : Bool) → Rule Item
  /-- An item of a module or namespace. -/
  moduleItem : Rule Item
  /-- An element in markup, from its opening bracket to the byte behind its closing one. -/
  element : Rule Unit

namespace Rules

/-- Rules that read nothing. -/
def none : Rules where
  assign := fail
  unary := fail
  binary := fun _ => fail
  construct := fail
  call := fail
  type := fail
  typeOperand := fail
  pattern := fail
  statement := fun _ => fail
  moduleItem := fail
  element := fail

end Rules

/-- The expression of a node that is a value and no pattern. -/
def Node.value (n : Node) : Rule Expr := do
  earlyErrorIf n.pending
  return n.expr

/-- An expression without commas at its top, as a value. -/
def Rules.value (r : Rules) : Rule Expr := do
  (← r.assign).value

/-- An expression with commas, of which the last operand counts. -/
def Rules.expression (r : Rules) : Rule Expr := do
  let start ← position
  let first ← r.value
  if !(← atPunct ",") then return first
  iterate () fun _ => do
    if ← eat "," then
      let _ ← r.value
      return .inl ()
    return .inr ()
  return .other (← spanFrom start)

end StyleExtract.Script
