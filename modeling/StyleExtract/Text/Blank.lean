/-!
# White space

The characters with the Unicode property `White_Space`, and trimming by that property. The
zero-width characters U+200B and U+FEFF do not have it, and neither do the separators
U+001C to U+001F.

## Main definitions

* `Text.isBlank` — the property.
* `Text.trim` — a text without the white space at its two ends.
-/

namespace StyleExtract.Text

/-- The ranges of the property `White_Space`, in code point order. -/
def blankRanges : List (Nat × Nat) :=
  [(0x9, 0xD), (0x20, 0x20), (0x85, 0x85), (0xA0, 0xA0), (0x1680, 0x1680), (0x2000, 0x200A),
    (0x2028, 0x2029), (0x202F, 0x202F), (0x205F, 0x205F), (0x3000, 0x3000)]

/-- Whether a character has the property `White_Space`. -/
def isBlank (c : Char) : Bool :=
  blankRanges.any fun (lo, hi) => lo ≤ c.toNat && c.toNat ≤ hi

/-- A list of characters without the white space at its two ends. -/
def trimList (cs : List Char) : List Char :=
  (((cs.dropWhile isBlank).reverse).dropWhile isBlank).reverse

/-- A text without the white space at its two ends. -/
def trim (s : String) : String :=
  String.ofList (trimList s.toList)

end StyleExtract.Text
