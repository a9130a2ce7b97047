import StyleExtract.Decimal.Shortest

/-!
# Writing decimals

The digits of a number are one thing and the way they are laid out another: where positional
notation ends, and whether a whole number keeps a fraction `.0`. A `Decimal.Format` fixes the
layout; the modules that write numbers each name theirs.

## Main definitions

* `Decimal.Format` — a layout.
* `Decimal.Format.write` — a decimal in that layout.
* `Decimal.Format.writeDouble` — a double in that layout, with the words for what is not finite.
* `Decimal.toDouble` — the double nearest to a decimal.
-/

namespace StyleExtract.Decimal

/-- How a number is laid out. The *point* of a number is the place of its decimal point counted
from its first digit, so that `12.5` has point two and `0.05` has point minus one. -/
structure Format where
  /-- Whether a number with this point is written without an exponent. -/
  positional : Int → Bool
  /-- Whether a whole number in positional notation ends in `.0`. -/
  keepsFraction : Bool

/-- A number of zeros. -/
def zeros (n : Nat) : List Char := List.replicate n '0'

/-- The decimal digits of a natural number. -/
def digitList (n : Nat) : List Char := (Nat.repr n).toList

/-- The digits with the decimal point at its place. -/
def writePositional (keepsFraction : Bool) (ds : List Char) (point : Int) : List Char :=
  if point ≤ 0 then '0' :: '.' :: (zeros (-point).toNat ++ ds)
  else if (ds.length : Int) ≤ point then
    ds ++ zeros (point.toNat - ds.length) ++ (if keepsFraction then ['.', '0'] else [])
  else ds.take point.toNat ++ '.' :: ds.drop point.toNat

/-- The first digit, a point if more follow, and the exponent. -/
def writeExponent (ds : List Char) (point : Int) : List Char :=
  let mantissa := match ds with
    | [] => []
    | [d] => [d]
    | d :: rest => d :: '.' :: rest
  mantissa ++ 'e' :: (toString (point - 1)).toList

/-- A decimal in a layout. Zero has its point after its one digit. -/
def Format.write (format : Format) (d : Decimal) : String :=
  let ds := digitList d.digits
  let point : Int := if d.digits = 0 then 1 else ds.length + d.exponent
  String.ofList <|
    if format.positional point then writePositional format.keepsFraction ds point
    else writeExponent ds point

/-- A double in a layout: its shortest decimal behind its sign. -/
def Format.writeDouble (format : Format) (x : Float) : String :=
  let bits := x.toBits
  let sign := if bits >>> 63 = 1 then "-" else ""
  if x.isNaN then "NaN"
  else if x.isInf then sign ++ "inf"
  else sign ++ format.write (shortest (Binary.ofBits bits))

/-- The double nearest to a decimal. Exponents that no finite or positive double can have are
settled without computing the power. -/
def toDouble (d : Decimal) : Float :=
  let point : Int := (digitList d.digits).length + d.exponent
  if d.digits = 0 ∨ point < -330 then 0.0
  else if 310 < point then 1.0 / 0.0
  else if d.exponent < 0 then Float.ofScientific d.digits true (-d.exponent).toNat
  else Float.ofScientific d.digits false d.exponent.toNat

end StyleExtract.Decimal
