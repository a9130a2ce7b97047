import StyleExtract.Script.Grammar.Modules

/-!
# Reading a script

The rules of the grammar are tied together here, and a whole text is read with them.

## Main definitions

* `Script.rules` — the rules with a bound on their nesting.
* `Script.parseModule?` — the tree of a text, if it is well formed.

## Design

Every nested call of a rule goes through at most a fixed number of rules before a character is
read, so a bound that grows with the length of the text is never reached.
-/

namespace StyleExtract.Script

/-- The rules, nested up to a depth. -/
def rules : Nat → Rules
  | 0 => .none
  | depth + 1 =>
    { assign := fun ctx c => assignExpr (rules depth) ctx c
      unary := fun ctx c => unaryExpr (rules depth) ctx c
      binary := fun level ctx c => binaryExpr (rules depth) level ctx c
      construct := fun ctx c => constructExpr (rules depth) ctx c
      call := fun ctx c => callExpr (rules depth) ctx c
      type := fun ctx c => typeExpr (rules depth) ctx c
      typeOperand := fun ctx c => typeOperand (rules depth) ctx c
      pattern := fun ctx c => pattern (rules depth) ctx c
      statement := fun declarations ctx c => statement (rules depth) declarations ctx c
      moduleItem := fun ctx c => moduleItem (rules depth) ctx c
      element := fun ctx c => element (rules depth) ctx c }

/-- The items of a module up to the end of the text. -/
def moduleItems (r : Rules) : Rule (List Item) :=
  iterate ([] : List Item) fun items => do
    if (← cursor).token.isFinish then return .inr items.reverse
    return .inl ((← r.moduleItem) :: items)

/-- Whether a character ends a line. -/
def isLineEnd (c : Char) : Bool :=
  c == '\n' || c == '\r' || c == '\u2028' || c == '\u2029'

/-- The text without a leading byte order mark. -/
def withoutMark : List Char → List Char
  | '\uFEFF' :: cs => cs
  | cs => cs

/-- The tree of a text, if it is well formed. A byte order mark in front is not part of the text,
and places are counted from behind it. A first line that starts with `#!` is for the operating
system. -/
def parseModule? (dialect : Dialect) (text : String) : Option Module :=
  let cs := withoutMark text.toList
  let size := cs.length
  let hashbang := cs.take 2 == ['#', '!']
  let skipped := if hashbang then cs.takeWhile (fun c => !isLineEnd c) else []
  let body := cs.drop skipped.length
  let ctx : Context := { dialect, size }
  let start := Cursor.ofText size (Text.bytes skipped) body
  match moduleItems (rules (8 * size + 16)) ctx start with
  | some (items, _) => some { hashbang, items }
  | none => none

end StyleExtract.Script
