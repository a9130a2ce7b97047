import StyleExtract.Registry.Id
import StyleExtract.Text.Blank

/-!
# Imports of virtual modules in bundled code

The code of a chunk may still import virtual modules. Such an import starts a line, up to spaces
and tabs, and takes the rest of its line with it if nothing else stands there.

## Main definitions

* `VirtualImport.match?` — the import at the start of a text.
* `VirtualImport.parts` — the characters and imports of a text.
* `VirtualImport.erase`, `VirtualImport.redirect` — a text without its imports, or with another
  line in the place of the first.
-/

namespace StyleExtract.VirtualImport

/-- Spaces and tabs. -/
def isGap (c : Char) : Bool := c == ' ' || c == '\t'

/-- Both kinds of quotes. -/
def isQuote (c : Char) : Bool := c == '\x22' || c == '\x27'

/-- The leading characters with a property, and the rest. -/
def run (p : Char → Bool) (cs : List Char) : List Char × List Char :=
  (cs.takeWhile p, cs.dropWhile p)

/-- A marker of resolved ids at the start of a text, raw or escaped, and the rest. -/
def marker : List Char → List Char × List Char
  | '\\' :: '0' :: cs => (['\\', '0'], cs)
  | c :: cs => if c = idMarker then ([c], cs) else ([], c :: cs)
  | [] => ([], [])

/-- A character at the start of a text, if it is there, and the rest. -/
def optionalChar (x : Char) : List Char → List Char × List Char
  | [] => ([], [])
  | c :: cs => if c = x then ([c], cs) else ([], c :: cs)

/-- A quote at the start of a text, and the rest. -/
def quote? : List Char → Option (Char × List Char)
  | [] => none
  | c :: cs => if isQuote c then some (c, cs) else none

/-- What may stand behind an import on its line: a semicolon, spaces and tabs, and the line
end. -/
def lineRest (cs : List Char) : List Char :=
  let (semicolon, cs) := optionalChar ';' cs
  let (gap, cs) := run isGap cs
  let (carriage, cs) := optionalChar '\r' cs
  let (feed, _) := optionalChar '\n' cs
  semicolon ++ gap ++ carriage ++ feed

/-- The import at the start of a text: the word `import`, white space, and between quotes an id of
a virtual module, which may be marked. -/
def match? (cs : List Char) : Option (List Char) := do
  let (gap, cs) := run isGap cs
  let word := "import".toList
  let cs ← Text.stripList? word cs
  let (blank, cs) := run Text.isBlank cs
  let (q, cs) ← quote? cs
  let (mark, cs) := marker cs
  let start := VirtualId.start.toList
  let cs ← Text.stripList? start cs
  let (path, cs) := run (fun c => !isQuote c && c != '\n') cs
  let (q', cs) ← quote? cs
  return gap ++ word ++ blank ++ [q] ++ mark ++ start ++ path ++ [q'] ++ lineRest cs

/-- A part of a text. -/
inductive Part where
  /-- A character of no import. -/
  | char (c : Char)
  /-- A whole import. -/
  | import (text : List Char)
  deriving DecidableEq, Repr

/-- The parts of a text of which some leading characters belong to an import before it; the flag
says whether the text starts a line. -/
def partsFrom : Nat → Bool → List Char → List Part
  | _, _, [] => []
  | skipped + 1, _, c :: cs => partsFrom skipped (c == '\n') cs
  | 0, lineStart, c :: cs =>
    match if lineStart then match? (c :: cs) else none with
    | some text => .import text :: partsFrom (text.length - 1) (c == '\n') cs
    | none => .char c :: partsFrom 0 (c == '\n') cs

/-- The parts of a text. -/
def parts (cs : List Char) : List Part := partsFrom 0 true cs

/-- The characters of parts, without their imports. -/
def eraseParts : List Part → List Char
  | [] => []
  | .char c :: rest => c :: eraseParts rest
  | .import _ :: rest => eraseParts rest

/-- The characters of parts with a text in the place of the first import, if there is one, and
without the others. -/
def redirectParts? (new : List Char) : List Part → Option (List Char)
  | [] => none
  | .char c :: rest => (redirectParts? new rest).map (c :: ·)
  | .import _ :: rest => some (new ++ eraseParts rest)

/-- A text without its imports of virtual modules. -/
def erase (code : String) : String := String.ofList (eraseParts (parts code.toList))

/-- A text with a line in the place of its first import of a virtual module, or at its start if
there is none, and without the other imports. -/
def redirect (line code : String) : String :=
  match redirectParts? line.toList (parts code.toList) with
  | some cs => String.ofList cs
  | none => line ++ code

end StyleExtract.VirtualImport
