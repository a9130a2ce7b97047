import StyleExtract.Text.Measure

/-!
# Lines and columns

Lines end at line feeds alone, and columns count UTF-16 units, both from zero.

## Main definitions

* `Position` — a line and a column.
* `Position.after` — the position behind some characters.
* `Position.ofOffset` — the position of a byte of a text.
* `Text.lines` — the lines of a text with their line feeds.

## Main results

* `Text.flatten_lines` — the lines of a text make up the text.
-/

namespace StyleExtract

/-- A line and a column. -/
structure Position where
  /-- The number of line feeds before. -/
  line : Nat
  /-- The number of UTF-16 units since the last of them. -/
  column : Nat
  deriving DecidableEq, Repr

namespace Position

/-- The start of a text. -/
def start : Position := ⟨0, 0⟩

/-- The position behind one character. -/
def next (p : Position) (c : Char) : Position :=
  if c = '\n' then ⟨p.line + 1, 0⟩ else ⟨p.line, p.column + Text.unitsOf c⟩

/-- The position behind some characters. -/
def after (p : Position) (cs : List Char) : Position := cs.foldl next p

/-- The position some bytes behind another one. -/
def skip (p : Position) : Nat → List Char → Position
  | 0, _ => p
  | _ + 1, [] => p
  | n + 1, c :: cs => (p.next c).skip (n + 1 - c.utf8Size) cs

/-- The position of a byte of a text. -/
def ofOffset (cs : List Char) (offset : Nat) : Position := start.skip offset cs

@[simp] theorem after_nil (p : Position) : p.after [] = p := rfl

@[simp] theorem after_cons (p : Position) (c : Char) (cs : List Char) :
    p.after (c :: cs) = (p.next c).after cs := rfl

/-- The position behind a concatenation. -/
theorem after_append (p : Position) (a b : List Char) :
    p.after (a ++ b) = (p.after a).after b := by
  simp [after, List.foldl_append]

end Position

/-- The lines of a text, each with the line feed that ends it. -/
def Text.lines : List Char → List (List Char)
  | [] => []
  | c :: cs =>
    if c = '\n' then [c] :: Text.lines cs
    else
      match Text.lines cs with
      | [] => [[c]]
      | l :: ls => (c :: l) :: ls

/-- The lines of a text make up the text. -/
@[simp] theorem Text.flatten_lines (cs : List Char) : (Text.lines cs).flatten = cs := by
  induction cs with
  | nil => rfl
  | cons c cs ih =>
    unfold Text.lines
    split
    · simp [ih]
    · split
      · next h => rw [h] at ih; simp_all
      · next h => rw [h] at ih; simp_all

end StyleExtract
