import StyleExtract.SourceMap.Basic

/-!
# Splicing

A compiled file is its source with some ranges replaced and some lines inserted at one place. The
result is a list of pieces, from which both the new text and its source map are read off.

## Main definitions

* `Edit` — a range and its replacement.
* `Piece` — a part of the result.
* `splice?` — the pieces of the result, if every range that is copied is one of the source.
* `Piece.text`, `Piece.segments` — the text of a piece and its part of the source map.

## Design

The lines go before the first edit that starts at or behind their place. If an earlier edit ends
behind the place, the range between them runs backwards and there is no result.
-/

namespace StyleExtract

open Text (Span)

/-- A range of the source and what stands in its place. -/
structure Edit where
  /-- The range. -/
  span : Span
  /-- The replacement. -/
  text : String
  deriving DecidableEq, Repr

/-- A part of the result. -/
inductive Piece where
  /-- A copy of the source from an offset on. -/
  | copied (start : Nat) (text : List Char)
  /-- Lines that stand nowhere in the source. -/
  | inserted (text : List Char)
  /-- What stands in the place of the source at an offset. -/
  | replaced (start : Nat) (text : List Char)
  deriving DecidableEq, Repr

/-- The text of a piece. -/
def Piece.text : Piece → List Char
  | .copied _ text | .inserted text | .replaced _ text => text

@[simp] theorem Piece.text_copied (start : Nat) (text : List Char) :
    (Piece.copied start text).text = text := rfl

@[simp] theorem Piece.text_inserted (text : List Char) : (Piece.inserted text).text = text := rfl

@[simp] theorem Piece.text_replaced (start : Nat) (text : List Char) :
    (Piece.replaced start text).text = text := rfl

/-- A copy of a range of the source. -/
def copy? (source : List Char) (start stop : Nat) : Option Piece :=
  (Text.slice? source start stop).map (.copied start)

/-- The replacement of an edit. -/
def Edit.piece (e : Edit) : Piece := .replaced e.span.start e.text.toList

/-- Lines, each with a line feed behind it. -/
def linesText (lines : List String) : List Char :=
  lines.flatMap fun l => l.toList ++ ['\n']

/-- The pieces from an offset on once the lines are placed. -/
def spliceRest? (source : List Char) : Nat → List Edit → Option (List Piece)
  | cursor, [] => do return [← copy? source cursor (Text.bytes source)]
  | cursor, e :: rest => do
    let before ← copy? source cursor e.span.start
    return before :: e.piece :: (← spliceRest? source e.span.stop rest)

/-- The pieces from an offset on while the lines are still to be placed. -/
def spliceFrom? (source : List Char) (lines : List String) (place : Nat) :
    Nat → List Edit → Option (List Piece)
  | cursor, [] => do
    let before ← copy? source cursor place
    return before :: .inserted (linesText lines) :: (← spliceRest? source place [])
  | cursor, e :: rest => do
    if place ≤ e.span.start then
      let before ← copy? source cursor place
      return before :: .inserted (linesText lines) :: (← spliceRest? source place (e :: rest))
    else
      let before ← copy? source cursor e.span.start
      return before :: e.piece :: (← spliceFrom? source lines place e.span.stop rest)

/-- The pieces of a source with lines inserted at a place and with edits in source order. -/
def splice? (source : List Char) (lines : List String) (place : Nat) (edits : List Edit) :
    Option (List Piece) :=
  spliceFrom? source lines place 0 edits

/-- The text that pieces make up. -/
def piecesText (pieces : List Piece) : List Char := pieces.flatMap Piece.text

@[simp] theorem piecesText_nil : piecesText [] = [] := rfl

@[simp] theorem piecesText_cons (p : Piece) (pieces : List Piece) :
    piecesText (p :: pieces) = p.text ++ piecesText pieces := rfl

/-- The text of pieces is that of their parts. -/
@[simp] theorem piecesText_append (a b : List Piece) :
    piecesText (a ++ b) = piecesText a ++ piecesText b :=
  List.flatMap_append

/-! ## The source map of a splice -/

/-- The segments of copied lines: one at the start of each. -/
def lineSegments (generated origin : Position) : List (List Char) → List Segment
  | [] => []
  | l :: ls => ⟨generated, origin⟩ :: lineSegments (generated.after l) (origin.after l) ls

/-- The segments of a piece at a position: those of its lines if it is copied, one at its start if
it is a replacement, and none if it is inserted. -/
def Piece.segments (source : List Char) (generated : Position) : Piece → List Segment
  | .copied start text => lineSegments generated (.ofOffset source start) (Text.lines text)
  | .inserted _ => []
  | .replaced start _ => [⟨generated, .ofOffset source start⟩]

/-- The segments of pieces from a position on. -/
def piecesSegments (source : List Char) : Position → List Piece → List Segment
  | _, [] => []
  | generated, p :: rest =>
    p.segments source generated ++ piecesSegments source (generated.after p.text) rest

end StyleExtract
