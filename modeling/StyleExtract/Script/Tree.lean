import StyleExtract.Text.Measure

/-!
# Syntax trees of scripts

A tree keeps what the compiler looks at: imports, top-level variables with their initializers, and
leading directives. Everything else is checked to be well formed and then recorded as `other` with
its place.

## Main definitions

* `Script.Key` — the key of a property.
* `Script.Expr`, `Script.Argument`, `Script.Property` — expressions.
* `Script.Import`, `Script.Declarator`, `Script.Item`, `Script.Module` — the top level.
* `Script.Expr.span` — the place of an expression.
* `Script.Expr.unwrap` — an expression without parentheses and type annotations.
-/

namespace StyleExtract.Script

open Text (Span)

/-- The key of a property. -/
inductive Key where
  /-- A plain name. -/
  | name (s : String)
  /-- A string. -/
  | text (s : String)
  /-- A number. -/
  | number (x : Float)
  /-- Anything else: computed, private or a big integer. -/
  | other

/-- The name behind the dot of a member access, or its absence. -/
inductive MemberKey where
  /-- A plain name. -/
  | name (s : String)
  /-- A private name or an expression in brackets. -/
  | other
  deriving DecidableEq, Repr

mutual

/-- An expression. -/
inductive Expr where
  /-- A name. -/
  | ident (span : Span) (name : String)
  /-- A string literal with its value. -/
  | text (span : Span) (value : String)
  /-- A template: the values of its literal parts, where they have one, and its holes. -/
  | template (span : Span) (cooked : List (Option String)) (holes : List Expr)
  /-- A template behind a tag. -/
  | tagged (span : Span) (tag : Expr) (template : Span) (holes : List Expr)
  /-- A member of an object. -/
  | member (span : Span) (object : Expr) (key : MemberKey)
  /-- A call. -/
  | call (span : Span) (callee : Expr) (args : List Argument)
  /-- An array; elided elements are missing. -/
  | array (span : Span) (items : List (Option Argument))
  /-- An object. -/
  | object (span : Span) (properties : List Property)
  /-- An expression in parentheses. -/
  | paren (span : Span) (inner : Expr)
  /-- An expression with a type that it is said to have (`as`, `satisfies`, `<const>`). -/
  | ascribed (span : Span) (inner : Expr)
  /-- Any other expression. -/
  | other (span : Span)

/-- An argument of a call or an element of an array. -/
inductive Argument where
  | mk (spread : Bool) (value : Expr)

/-- A property of an object. -/
inductive Property where
  /-- A key and a value. -/
  | keyValue (key : Key) (value : Expr)
  /-- A name that is key and value. -/
  | shorthand (name : String)
  /-- The properties of another object. -/
  | spread (value : Expr)
  /-- A method or accessor. -/
  | method

end

/-- Whether an argument is spread. -/
def Argument.isSpread : Argument → Bool
  | .mk spread _ => spread

/-- The expression of an argument. -/
def Argument.value : Argument → Expr
  | .mk _ value => value

instance : Inhabited Expr := ⟨.other ⟨0, 0⟩⟩

/-- The place of an expression. -/
def Expr.span : Expr → Span
  | .ident s _ | .text s _ | .template s _ _ | .tagged s _ _ _ | .member s _ _ | .call s _ _
  | .array s _ | .object s _ | .paren s _ | .ascribed s _ | .other s => s

/-- An expression without the parentheses and ascriptions around it. -/
def Expr.unwrap : Expr → Expr
  | .paren _ e => e.unwrap
  | .ascribed _ e => e.unwrap
  | e => e

/-- A named import. -/
structure ImportName where
  /-- The name in the imported module. -/
  exported : String
  /-- The name in this module. -/
  localName : String
  /-- Whether only a type is imported. -/
  typeOnly : Bool
  deriving DecidableEq, Repr

/-- An import declaration; default and whole-module imports are not kept. -/
structure Import where
  /-- The imported module. -/
  source : String
  /-- Whether only types are imported. -/
  typeOnly : Bool
  /-- The named imports. -/
  names : List ImportName
  deriving DecidableEq, Repr

/-- One variable of a declaration. -/
structure Declarator where
  /-- Its name, if it is not destructured. -/
  name : Option String
  /-- Its initializer. -/
  init : Option Expr

/-- An item of a module. -/
inductive Item where
  /-- An import. -/
  | import (span : Span) (decl : Import)
  /-- Variables, exported or not; `ambient` ones are only declared. -/
  | variables (span : Span) (ambient : Bool) (decls : List Declarator)
  /-- An expression as a statement. -/
  | expression (span : Span) (value : Expr)
  /-- Any other statement or declaration. -/
  | other (span : Span)

/-- The place of an item. -/
def Item.span : Item → Span
  | .import s _ | .variables s _ _ | .expression s _ | .other s => s

/-- Whether an item is a string as a statement, which is a directive where it stands first. -/
def Item.isDirective : Item → Bool
  | .expression _ (.text _ _) => true
  | _ => false

/-- A module. -/
structure Module where
  /-- Whether its first line is for the operating system. -/
  hashbang : Bool
  /-- Its items in order. -/
  items : List Item

end StyleExtract.Script
