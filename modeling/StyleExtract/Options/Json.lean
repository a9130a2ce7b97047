import StyleExtract.Text.Quoted

/-!
# JSON texts, read as far as they go

Options arrive as a JSON text, and the first problem in it decides the answer, be it a fault of
the text or a value of the wrong shape. A text is therefore read into a tree that also exists
for faulty texts: the place of the first fault is a `broken` node, and what stands before it is
read as usual.

## Main definitions

* `Json`, `Json.Items`, `Json.Fields` — the tree, with `broken` where the text is at fault.
* `Json.read` — the tree of a text, and whether anything but white space follows it.

## Design

Whole numbers that fit 64 bits stay whole. Every other number is a double, computed from at most
64 bits of its digits and one multiplication or division by a power of ten; a number beyond the
range of doubles is a fault.
-/

namespace StyleExtract

mutual

/-- A JSON value, or the place where a text stops being one. -/
inductive Json where
  | null
  | bool (b : Bool)
  | whole (n : Int)
  | double (x : Float)
  | text (s : String)
  | array (items : Json.Items)
  | object (fields : Json.Fields)
  | broken

/-- The items of an array, up to its end or the first fault. -/
inductive Json.Items where
  | done
  | broken
  | item (value : Json) (rest : Json.Items)

/-- The fields of an object, up to its end or the first fault. A key that is no string is a fault
of the text, but its value may matter to a diagnostic. -/
inductive Json.Fields where
  | done
  | broken
  | oddKey (key : Json)
  | field (key : String) (value : Json) (rest : Json.Fields)

end

namespace Json

/-- White space between the parts of a JSON text. -/
def isGap (c : Char) : Bool := c == ' ' || c == '\n' || c == '\t' || c == '\r'

/-- The text after leading white space. -/
def skipGap (cs : List Char) : List Char := cs.dropWhile isGap

/-! ## Strings -/

/-- The character of a one-letter escape. -/
def shortEscape? (c : Char) : Option Char :=
  match c with
  | '\x22' => some '\x22'
  | '\\' => some '\\'
  | '/' => some '/'
  | 'b' => some '\x08'
  | 'f' => some '\x0c'
  | 'n' => some '\n'
  | 'r' => some '\r'
  | 't' => some '\t'
  | _ => none

/-- The characters of a string after its opening quote, and what follows its closing quote.
Surrogates have to come in pairs, and control characters have to be escaped. -/
def readText : List Char → Option (List Char × List Char)
  | [] => none
  | '\x22' :: rest => some ([], rest)
  | '\\' :: 'u' :: a :: b :: c :: d :: rest =>
    match Text.hexFour? a b c d with
    | none => none
    | some n =>
      if n < 0xD800 ∨ 0xDFFF < n then
        (readText rest).map fun (cs, r) => (Char.ofNat n :: cs, r)
      else
        match rest with
        | '\\' :: 'u' :: e :: f :: g :: h :: rest' =>
          match Text.hexFour? e f g h with
          | none => none
          | some m =>
            if n < 0xDC00 ∧ 0xDC00 ≤ m ∧ m ≤ 0xDFFF then
              (readText rest').map fun (cs, r) =>
                (Char.ofNat (0x10000 + (n - 0xD800) * 0x400 + (m - 0xDC00)) :: cs, r)
            else none
        | _ => none
  | '\\' :: c :: rest =>
    match shortEscape? c with
    | none => none
    | some c => (readText rest).map fun (cs, r) => (c :: cs, r)
  | c :: rest =>
    if c.toNat < 0x20 ∨ c = '\\' then none else (readText rest).map fun (cs, r) => (c :: cs, r)

/-! ## Numbers -/

/-- The largest 64-bit number. -/
def maxWord : Nat := 0xFFFFFFFFFFFFFFFF

/-- Digits taken into a significand as long as it fits 64 bits: the significand, the number of
digits taken, and the digits left. -/
def takeDigits (significand taken : Nat) : List Char → Nat × Nat × List Char
  | [] => (significand, taken, [])
  | c :: cs =>
    let next := significand * 10 + (c.toNat - 48)
    if next ≤ maxWord then takeDigits next (taken + 1) cs else (significand, taken, c :: cs)

/-- Divides by `10 ^ 308` as long as the exponent is below the range of powers. -/
def scaleDown : Nat → Float → Int → Float × Int
  | 0, x, e => (x, e)
  | fuel + 1, x, e =>
    if e < -308 ∧ x != 0.0 then scaleDown fuel (x / Float.ofScientific 1 false 308) (e + 308)
    else (x, e)

/-- The double of a significand and a decimal exponent, if it is in range. -/
def scaled? (significand : Nat) (exponent : Int) : Option Float :=
  let x := significand.toUInt64.toFloat
  if x == 0.0 then some x
  else if 308 < exponent then none
  else if 0 ≤ exponent then
    let y := x * Float.ofScientific 1 false exponent.toNat
    if y.isInf then none else some y
  else
    let (y, e) := scaleDown 4 x exponent
    if y == 0.0 ∨ e < -308 then some 0.0 else some (y / Float.ofScientific 1 false (-e).toNat)

/-- The digits at the beginning of a list, and the rest. -/
def spanDigits (cs : List Char) : List Char × List Char :=
  cs.span fun c => '0' ≤ c && c ≤ '9'

/-- The number of a run of digits. -/
def digitsValue (ds : List Char) : Nat :=
  ds.foldl (fun n c => n * 10 + (c.toNat - 48)) 0

/-- The exponent part, if there is one: its value and the rest. A missing digit is a fault. -/
def readExponent (cs : List Char) : Option (Option Int × List Char) :=
  match cs with
  | e :: rest =>
    if e = 'e' ∨ e = 'E' then
      let (sign, rest) : Int × List Char := match rest with
        | '+' :: r => (1, r)
        | '-' :: r => (-1, r)
        | r => (1, r)
      match spanDigits rest with
      | ([], _) => none
      | (ds, r) => some (some (sign * min (digitsValue ds) 100000), r)
    else some (none, cs)
  | [] => some (none, [])

/-- A number without its sign: its whole digits (a zero only on its own), its fraction and its
exponent. -/
def readUnsigned (negative : Bool) (cs : List Char) : Option (Json × List Char) := do
  let (wholeDigits, rest) := spanDigits cs
  if wholeDigits.isEmpty ∨ (wholeDigits.length > 1 ∧ wholeDigits.head? = some '0') then none
  let (significand, _, dropped) := takeDigits 0 0 wholeDigits
  let (fraction, rest) ← match rest with
    | '.' :: r =>
      match spanDigits r with
      | ([], _) => none
      | (ds, r) => some (some ds, r)
    | r => some (none, r)
  let (exponent, rest) ← readExponent rest
  if fraction.isNone ∧ exponent.isNone ∧ dropped.isEmpty then
    if !negative then return (.whole significand, rest)
    if 0 < significand ∧ significand ≤ 0x8000000000000000 then return (.whole (-significand), rest)
  let (significand, taken, _) := takeDigits significand 0 (fraction.getD [])
  let x ← scaled? significand (exponent.getD 0 + dropped.length - taken)
  return (.double (if negative then -x else x), rest)

/-- A number with its sign. -/
def readNumber (cs : List Char) : Option (Json × List Char) :=
  match cs with
  | '-' :: rest => readUnsigned true rest
  | _ => readUnsigned false cs

/-! ## Values -/

/-- What follows a given word at the beginning of a list. -/
def afterWord? (word : List Char) (cs : List Char) : Option (List Char) :=
  if word.isPrefixOf cs then some (cs.drop word.length) else none

/-- A value without parts. -/
def readScalar (cs : List Char) : Json × List Char :=
  match cs with
  | '\x22' :: rest =>
    match readText rest with
    | some (s, r) => (.text (String.ofList s), r)
    | none => (.broken, [])
  | 'n' :: rest => ((afterWord? ['u', 'l', 'l'] rest).map (Json.null, ·)).getD (.broken, [])
  | 't' :: rest => ((afterWord? ['r', 'u', 'e'] rest).map (Json.bool true, ·)).getD (.broken, [])
  | 'f' :: rest =>
    ((afterWord? ['a', 'l', 's', 'e'] rest).map (Json.bool false, ·)).getD (.broken, [])
  | cs => (readNumber cs).getD (.broken, [])

/-- Whether a value is a fault. -/
def isBroken : Json → Bool
  | .broken => true
  | _ => false

mutual

/-- A value, with as many levels of nesting and items as the fuel allows. -/
def readValue : Nat → List Char → Json × List Char
  | 0, _ => (.broken, [])
  | fuel + 1, cs =>
    match skipGap cs with
    | '[' :: rest =>
      match skipGap rest with
      | ']' :: r => (.array .done, r)
      | r => let (items, r) := readItems fuel r; (.array items, r)
    | '\x7b' :: rest =>
      match skipGap rest with
      | '\x7d' :: r => (.object .done, r)
      | r => let (fields, r) := readFields fuel r; (.object fields, r)
    | cs => readScalar cs

/-- One or more items up to the closing bracket. -/
def readItems : Nat → List Char → Items × List Char
  | 0, _ => (.broken, [])
  | fuel + 1, cs =>
    let (value, rest) := readValue fuel cs
    if value.isBroken then (.item value .broken, [])
    else
      match skipGap rest with
      | ']' :: r => (.item value .done, r)
      | ',' :: r => let (items, r) := readItems fuel r; (.item value items, r)
      | _ => (.item value .broken, [])

/-- One or more fields up to the closing brace. -/
def readFields : Nat → List Char → Fields × List Char
  | 0, _ => (.broken, [])
  | fuel + 1, cs =>
    match skipGap cs with
    | '\x22' :: rest =>
      match readText rest with
      | none => (.broken, [])
      | some (key, rest) =>
        let key := String.ofList key
        match skipGap rest with
        | ':' :: rest =>
          let (value, rest) := readValue fuel rest
          if value.isBroken then (.field key value .broken, [])
          else
            match skipGap rest with
            | '\x7d' :: r => (.field key value .done, r)
            | ',' :: r => let (fields, r) := readFields fuel r; (.field key value fields, r)
            | _ => (.field key value .broken, [])
        | _ => (.field key .broken .broken, [])
    | cs => (.oddKey (readValue fuel cs).1, [])

end

/-- The tree of a text, and whether the text ends after it. -/
def read (cs : List Char) : Json × Bool :=
  let (value, rest) := readValue (2 * cs.length + 2) cs
  (value, (skipGap rest).isEmpty)

end Json

end StyleExtract
