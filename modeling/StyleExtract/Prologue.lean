import StyleExtract.Script.Tree

/-!
# Where inserted lines go

The first line of a module may be for the operating system, and the strings that stand first are
directives; both have to stay first. Lines are inserted behind the line on which the last
directive ends.

## Main definitions

* `lineSize` — the length of the first line of a text.
* `Script.Module.directives` — the directives of a module.
* `Script.Module.insertionPoint?` — the offset at which lines are inserted.
-/

namespace StyleExtract

open Script (Item Module)

/-- The number of bytes up to the first line feed, which counts, too; of the whole text if there
is none. -/
def lineSize : List Char → Nat
  | [] => 0
  | c :: cs => if c = '\n' then 1 else c.utf8Size + lineSize cs

/-- The directives of a module: the strings that stand first. -/
def Script.Module.directives (m : Module) : List Item := m.items.takeWhile Item.isDirective

/-- The offset at which lines are inserted: behind the line of the last directive, or behind a
line for the operating system, or at the start. There is none if a directive ends inside a
character of the text. -/
def Script.Module.insertionPoint? (text : List Char) (m : Module) : Option Nat :=
  match m.directives.getLast? with
  | some d => (Text.dropBytes? d.span.stop text).map fun rest => d.span.stop + lineSize rest
  | none => some (if m.hashbang then lineSize text else 0)

end StyleExtract
