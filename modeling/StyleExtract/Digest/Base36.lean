/-!
# Digits of a digest

A digest is shown as thirteen digits in base 36, most significant first: `36 ^ 13` exceeds
`2 ^ 64`, so thirteen digits always suffice.

## Main definitions

* `Digest.digits` — a given number of base-36 digits of a number.
* `Digest.render` — the thirteen digits of a 64-bit digest.
* `Digest.lastDigits` — the end of such a text.
-/

namespace StyleExtract.Digest

/-- The digit of a number below 36: `0` to `9`, then `a` to `z`. -/
def digitChar (n : Nat) : Char :=
  if n < 10 then Char.ofNat (48 + n) else Char.ofNat (87 + n)

/-- The last `width` base-36 digits of a number, most significant first. -/
def digits : Nat → Nat → List Char
  | 0, _ => []
  | width + 1, n => digits width (n / 36) ++ [digitChar (n % 36)]

/-- How many digits a digest has. -/
def width : Nat := 13

/-- A digest as its thirteen digits. -/
def render (h : UInt64) : String :=
  String.ofList (digits width h.toNat)

/-- The last `n` digits of a digest; all of them if `n` exceeds their number. -/
def lastDigits (n : Nat) (h : UInt64) : String :=
  String.ofList ((digits width h.toNat).drop (width - n))

@[simp] theorem length_digits (w n : Nat) : (digits w n).length = w := by
  induction w generalizing n with
  | zero => rfl
  | succ w ih => simp [digits, ih]

end StyleExtract.Digest
