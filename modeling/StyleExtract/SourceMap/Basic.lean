import StyleExtract.SourceMap.Position
import StyleExtract.Text.Base64
import StyleExtract.Text.Cut
import StyleExtract.Text.Quoted

/-!
# Source maps

A source map says for places of a generated text where they come from. Its segments are written
one line after the other, each as the differences to the segment before it.

## Main definitions

* `Segment` — a place of the generated text and where it comes from.
* `SourceMap` — the segments of a text that comes from one source.
* `SourceMap.mappings` — the segments as text.
* `SourceMap.json` — the whole map as text.
* `SourceMap.inlineComment` — a comment that carries the whole map.
-/

namespace StyleExtract

/-- A place of the generated text and where it comes from. -/
structure Segment where
  /-- The place in the generated text. -/
  generated : Position
  /-- The place in the source. -/
  origin : Position
  deriving DecidableEq, Repr

/-- The segments of a text that comes from one source. -/
structure SourceMap where
  /-- The file, which is also the source. -/
  file : String
  /-- The text of the source. -/
  content : String
  /-- The segments in the order of the generated text. -/
  segments : List Segment
  deriving DecidableEq, Repr

namespace SourceMap

/-- Groups of five bits from the lowest on, as digits; all but the last have the bit 32. -/
def digitGroups (n : Nat) : List Char :=
  if n < 32 then [Text.base64Digit n]
  else Text.base64Digit (n % 32 + 32) :: digitGroups (n / 32)
  termination_by n
  decreasing_by omega

/-- A difference: its sign is the lowest bit. -/
def difference (new old : Nat) : List Char :=
  digitGroups (if old ≤ new then 2 * (new - old) else 2 * (old - new) + 1)

/-- One segment behind another one: the differences of its columns and lines, and the zero of the
only source. A segment on another line counts its column from zero. -/
def segmentText (last s : Segment) : List Char :=
  let column := if s.generated.line = last.generated.line then last.generated.column else 0
  difference s.generated.column column ++ ['A'] ++ difference s.origin.line last.origin.line ++
    difference s.origin.column last.origin.column

/-- The mark between two segments: a comma, or a semicolon for each new line. -/
def separator (last s : Segment) : List Char :=
  if s.generated.line = last.generated.line then [',']
  else List.replicate (s.generated.line - last.generated.line) ';'

/-- The segments behind another one. -/
def segmentsText : Segment → List Segment → List Char
  | _, [] => []
  | last, s :: rest => separator last s ++ segmentText last s ++ segmentsText s rest

/-- What the first segment is compared with. -/
def origin : Segment := ⟨.start, .start⟩

/-- The segments as text. The first has no comma before it. -/
def mappings (m : SourceMap) : String :=
  String.ofList <| match m.segments with
    | [] => []
    | s :: rest =>
      List.replicate s.generated.line ';' ++ segmentText origin s ++ segmentsText s rest

/-- The whole map as text. -/
def json (m : SourceMap) : String :=
  let file := Text.jsonQuote m.file
  "\x7b\"version\":3,\"file\":" ++ file ++ ",\"sources\":[" ++ file ++ "],\"sourcesContent\":[" ++
    Text.jsonQuote m.content ++ "],\"names\":[],\"mappings\":" ++ Text.jsonQuote m.mappings ++
    "\x7d"

/-- A comment that carries the whole map. -/
def inlineComment (m : SourceMap) : String :=
  "//# sourceMappingURL=data:application/json;charset=utf-8;base64," ++ Text.base64 m.json

end SourceMap

end StyleExtract
