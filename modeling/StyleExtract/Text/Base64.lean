/-!
# Base 64

## Main definitions

* `Text.base64Digit` — the digit of a number below 64.
* `Text.base64` — the bytes of a text in base 64, with padding.
-/

namespace StyleExtract.Text

/-- The digit of a number below 64: upper-case letters, lower-case letters, digits, `+` and
`/`. -/
def base64Digit (n : Nat) : Char :=
  if n < 26 then Char.ofNat (65 + n)
  else if n < 52 then Char.ofNat (71 + n)
  else if n < 62 then Char.ofNat (n - 4)
  else if n = 62 then '+'
  else '/'

/-- Three bytes as four digits; two or one as three or two digits and padding. -/
def base64Bytes : List UInt8 → List Char
  | a :: b :: c :: rest =>
    let n := (a.toNat * 256 + b.toNat) * 256 + c.toNat
    base64Digit (n / 262144) :: base64Digit (n / 4096 % 64) :: base64Digit (n / 64 % 64) ::
      base64Digit (n % 64) :: base64Bytes rest
  | [a, b] =>
    let n := (a.toNat * 256 + b.toNat) * 4
    [base64Digit (n / 4096), base64Digit (n / 64 % 64), base64Digit (n % 64), '=']
  | [a] =>
    let n := a.toNat * 16
    [base64Digit (n / 64), base64Digit (n % 64), '=', '=']
  | [] => []

/-- The bytes of a text in base 64, with padding. -/
def base64 (s : String) : String :=
  String.ofList (base64Bytes (s.toList.flatMap String.utf8EncodeChar))

end StyleExtract.Text
