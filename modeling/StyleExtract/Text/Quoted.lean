/-!
# Quoted text

Texts are written between double quotes in two places: in source maps, by the rules of JSON,
and in generated scripts, where the two line separators U+2028 and U+2029 are escaped as well
so that the text is safe in every version of the script language.

## Main definitions

* `Text.hexValue?`, `Text.hexFour?` — hexadecimal digits, read.
* `Text.jsonEscape`, `Text.scriptEscape` — how one character is written.
* `Text.jsonQuote`, `Text.scriptQuote` — a whole text between its quotes.
-/

namespace StyleExtract.Text

/-- The lower-case digit of a number below 16. -/
def hexDigit (n : Nat) : Char :=
  if n < 10 then Char.ofNat (48 + n) else Char.ofNat (87 + n)

/-- The value of a hexadecimal digit. -/
def hexValue? (c : Char) : Option Nat :=
  if '0' ≤ c ∧ c ≤ '9' then some (c.toNat - 48)
  else if 'a' ≤ c ∧ c ≤ 'f' then some (c.toNat - 87)
  else if 'A' ≤ c ∧ c ≤ 'F' then some (c.toNat - 55)
  else none

/-- The value of four hexadecimal digits. -/
def hexFour? (a b c d : Char) : Option Nat := do
  let a ← hexValue? a
  let b ← hexValue? b
  let c ← hexValue? c
  let d ← hexValue? d
  return ((a * 16 + b) * 16 + c) * 16 + d

/-- The escape of a code point below `0x10000` by its four hexadecimal digits. -/
def hexEscape (n : Nat) : List Char :=
  ['\\', 'u', hexDigit (n / 4096 % 16), hexDigit (n / 256 % 16), hexDigit (n / 16 % 16),
    hexDigit (n % 16)]

/-- A character inside a JSON string: short escapes where there is one, four hexadecimal digits
for the other control characters, and everything else as it is. -/
def jsonEscape (c : Char) : List Char :=
  match c with
  | '\x22' => ['\\', '\x22']
  | '\\' => ['\\', '\\']
  | '\x08' => ['\\', 'b']
  | '\x0c' => ['\\', 'f']
  | '\n' => ['\\', 'n']
  | '\r' => ['\\', 'r']
  | '\t' => ['\\', 't']
  | c => if c.toNat < 0x20 then hexEscape c.toNat else [c]

/-- A character inside a string literal of a script: as in JSON, and the two line separators by
their digits. -/
def scriptEscape (c : Char) : List Char :=
  if c = '\u2028' ∨ c = '\u2029' then hexEscape c.toNat else jsonEscape c

/-- The characters of a text between quotes, each written by `escape`. -/
def quoteList (escape : Char → List Char) (cs : List Char) : List Char :=
  '\x22' :: (cs.flatMap escape ++ ['\x22'])

/-- A text as a JSON string. -/
def jsonQuote (s : String) : String :=
  String.ofList (quoteList jsonEscape s.toList)

/-- A text as a string literal of a script. -/
def scriptQuote (s : String) : String :=
  String.ofList (quoteList scriptEscape s.toList)

end StyleExtract.Text
