import StyleExtract.Text.Measure

/-!
# Gaps between tokens

White space, line breaks and comments. A gap remembers whether it holds a line break, because
statements may end there.

## Main definitions

* `Script.isLineBreak`, `Script.isSpace` — the characters of gaps.
* `Script.skipGap` — the text after a gap.

## Main results

* `Script.skipGap_rest_suffix` — what follows a gap is the end of the text.
-/

namespace StyleExtract.Script

/-- The four line terminators. -/
def isLineBreak (c : Char) : Bool :=
  c == '\n' || c == '\r' || c == '\u2028' || c == '\u2029'

/-- White space other than line terminators. -/
def isSpace (c : Char) : Bool :=
  c == ' ' || c == '\t' || c == '\x0b' || c == '\x0c' || c == '\u00a0' || c == '\ufeff' ||
    c == '\u1680' || ('\u2000' ≤ c && c ≤ '\u200a') || c == '\u202f' || c == '\u205f' ||
    c == '\u3000'

/-- Where a gap is: between tokens, in a comment to the end of the line, or in one between
marks. -/
inductive GapPlace where
  | between
  | lineComment
  | blockComment

/-- What follows a gap. -/
structure GapEnd where
  /-- Whether the gap holds a line break. -/
  lineBreak : Bool
  /-- The number of bytes of the gap. -/
  size : Nat
  /-- The text after it. -/
  rest : List Char

/-- A gap that is longer at its beginning. -/
def GapEnd.longer (c : Char) (g : GapEnd) : GapEnd :=
  { g with lineBreak := g.lineBreak || isLineBreak c, size := g.size + c.utf8Size }

@[simp] theorem GapEnd.rest_longer (c : Char) (g : GapEnd) : (g.longer c).rest = g.rest := rfl

/-- Skips a gap. A comment between marks that does not end is no gap. -/
def skipGap : GapPlace → List Char → Option GapEnd
  | .between, [] | .lineComment, [] => some ⟨false, 0, []⟩
  | .blockComment, [] => none
  | .between, '/' :: '/' :: cs => (skipGap .lineComment cs).map (·.longer '/' |>.longer '/')
  | .between, '/' :: '*' :: cs => (skipGap .blockComment cs).map (·.longer '/' |>.longer '*')
  | .between, c :: cs =>
    if isLineBreak c || isSpace c then (skipGap .between cs).map (·.longer c)
    else some ⟨false, 0, c :: cs⟩
  | .lineComment, c :: cs =>
    (skipGap (if isLineBreak c then .between else .lineComment) cs).map (·.longer c)
  | .blockComment, '*' :: '/' :: cs => (skipGap .between cs).map (·.longer '*' |>.longer '/')
  | .blockComment, c :: cs => (skipGap .blockComment cs).map (·.longer c)

/-- What follows a gap is the end of the text. -/
theorem skipGap_rest_suffix {place : GapPlace} {cs : List Char} {g : GapEnd}
    (h : skipGap place cs = some g) : g.rest <:+ cs := by
  fun_induction skipGap place cs generalizing g <;>
    grind [Option.map_eq_some_iff, GapEnd.rest_longer, List.suffix_cons]

end StyleExtract.Script
