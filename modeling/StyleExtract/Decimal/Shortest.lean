/-!
# The shortest decimal of a binary number

A positive finite double is `m * 2 ^ q`. The reals that round to it form an interval, whose
ends belong to it exactly when `m` is even. The shortest decimal is the one with the fewest
digits in that interval, and of two with equally many digits the one nearer to the number.

## Main definitions

* `Decimal` — a decimal number `digits * 10 ^ exponent`.
* `Binary` — a number `mantissa * 2 ^ exponent`, with `Binary.ofBits` to decode a double.
* `Decimal.shortest` — the shortest decimal that reads back as a given binary number.

## Design

Everything is exact arithmetic on natural numbers: a comparison of `a * 10 ^ k` with
`b * 2 ^ e` multiplies both sides by the powers that clear negative exponents.
-/

namespace StyleExtract

/-- A decimal number `digits * 10 ^ exponent`. -/
structure Decimal where
  /-- The digits as a number. -/
  digits : Nat
  /-- The power of ten of the last digit. -/
  exponent : Int
  deriving DecidableEq, Repr

/-- A binary number `mantissa * 2 ^ exponent`. -/
structure Binary where
  /-- The mantissa. -/
  mantissa : Nat
  /-- The power of two of its last bit. -/
  exponent : Int
  deriving DecidableEq, Repr

namespace Binary

/-- The least exponent of a double. -/
def minExponent : Int := -1074

/-- The weight of the hidden bit of a mantissa: fifty-two bits follow it. -/
def hiddenBit : Nat := 0x10000000000000

/-- The value of a finite double without its sign, from its bits: eleven bits of exponent stand
before the fraction. -/
def ofBits (bits : UInt64) : Binary :=
  let fraction := bits.toNat % hiddenBit
  let field := bits.toNat / hiddenBit % 2048
  if field = 0 then ⟨fraction, minExponent⟩
  else ⟨fraction + hiddenBit, Int.ofNat field - 1075⟩

/-- The lower end of the rounding interval, in quarters of the last bit: half a unit below, or
a quarter where the number below has a smaller exponent. -/
def lowQuarters (b : Binary) : Nat :=
  if b.mantissa = hiddenBit ∧ minExponent < b.exponent then 4 * b.mantissa - 1 else 4 * b.mantissa - 2

/-- The upper end of the rounding interval, in quarters of the last bit. -/
def highQuarters (b : Binary) : Nat :=
  4 * b.mantissa + 2

end Binary

namespace Decimal

/-- Compares `d * 10 ^ k` with `x * 2 ^ e` for non-negative numbers. -/
def compareWith (d : Nat) (k : Int) (x : Nat) (e : Int) : Ordering :=
  compare (d * Nat.pow 10 k.toNat * Nat.pow 2 (-e).toNat)
    (x * Nat.pow 2 e.toNat * Nat.pow 10 (-k).toNat)

/-- Whether `d * 10 ^ k` rounds to `b`. -/
def roundsTo (d : Nat) (k : Int) (b : Binary) : Bool :=
  let e := b.exponent - 2
  let closed := b.mantissa % 2 = 0
  match compareWith d k b.lowQuarters e, compareWith d k b.highQuarters e with
  | .gt, .lt => true
  | .eq, _ => closed
  | _, .eq => closed
  | _, _ => false

/-- The exponent of the first decimal digit of a positive binary number. -/
def leadingExponent (b : Binary) : Int :=
  let candidates := (List.range 640).map fun i => 309 - Int.ofNat i
  (candidates.find? fun k => compareWith 1 k b.mantissa b.exponent != .gt).getD 0

/-- The neighbour below `b` on the grid of multiples of `10 ^ k`. -/
def gridFloor (b : Binary) (k : Int) : Nat :=
  b.mantissa * Nat.pow 2 b.exponent.toNat * Nat.pow 10 (-k).toNat /
    (Nat.pow 10 k.toNat * Nat.pow 2 (-b.exponent).toNat)

/-- Of the two neighbours `d` and `d + 1` on a grid, whether the lower one is nearer; from the
middle the even one is taken. -/
def lowerIsNearer (d : Nat) (k : Int) (b : Binary) : Bool :=
  match compareWith (2 * d + 1) k b.mantissa (b.exponent + 1) with
  | .gt => true
  | .eq => d % 2 = 0
  | .lt => false

/-- The neighbour of `b` on the grid of `10 ^ k` that rounds to `b`, the nearer one of two. -/
def onGrid (b : Binary) (k : Int) : Option Decimal :=
  let d := gridFloor b k
  match roundsTo d k b && d != 0, roundsTo (d + 1) k b with
  | true, true => some ⟨if lowerIsNearer d k b then d else d + 1, k⟩
  | true, false => some ⟨d, k⟩
  | false, true => some ⟨d + 1, k⟩
  | false, false => none

/-- Drops trailing zeros, at most `fuel` of them. -/
def dropZeros : Nat → Decimal → Decimal
  | 0, d => d
  | fuel + 1, d =>
    if d.digits % 10 = 0 ∧ d.digits ≠ 0 then dropZeros fuel ⟨d.digits / 10, d.exponent + 1⟩ else d

/-- The shortest decimal that rounds to `b`: the coarsest of the grids of one to seventeen
digits that has one. Zero has the digit `0`. -/
def shortest (b : Binary) : Decimal :=
  if b.mantissa = 0 then ⟨0, 0⟩
  else
    let lead := leadingExponent b
    let grids := (List.range 17).map fun n => lead - Int.ofNat n
    dropZeros 20 ((grids.findSome? (onGrid b)).getD ⟨gridFloor b (lead - 16), lead - 16⟩)

end Decimal

end StyleExtract
