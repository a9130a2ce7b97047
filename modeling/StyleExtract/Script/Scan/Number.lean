import StyleExtract.Decimal.Layout
import StyleExtract.Name
import StyleExtract.Text.Quoted

/-!
# Number literals

Decimal numbers with a fraction and an exponent, whole numbers in base two, eight and sixteen,
and big integers. Digits may be separated by single underscores. A whole part that starts with a
zero is that zero alone.

## Main definitions

* `Script.NumberToken` — a number literal: its value, or a big integer.
* `Script.scanNumber` — a number literal at the beginning of a text.

## Main results

* `Script.scanNumber_rest_suffix` — what follows a number is the end of the text.
-/

namespace StyleExtract.Script

/-- A number literal. -/
inductive NumberToken where
  | double (x : Float)
  | big

/-- A run of digits with single underscores between them: the digits, the number of characters and
the text after it. `seen` says whether a digit stands before. -/
def spanDigits (isDig : Char → Bool) (seen : Bool) : List Char → List Char × Nat × List Char
  | [] => ([], 0, [])
  | '_' :: d :: cs =>
    if seen && isDig d then
      let (ds, n, rest) := spanDigits isDig true cs
      (d :: ds, n + 2, rest)
    else ([], 0, '_' :: d :: cs)
  | c :: cs =>
    if isDig c then
      let (ds, n, rest) := spanDigits isDig true cs
      (c :: ds, n + 1, rest)
    else ([], 0, c :: cs)

theorem spanDigits_rest_suffix (isDig : Char → Bool) (seen : Bool) (cs : List Char) :
    (spanDigits isDig seen cs).2.2 <:+ cs := by
  fun_induction spanDigits isDig seen cs <;> grind [List.suffix_cons]

/-- The number of a run of decimal digits. -/
def decimalValue (ds : List Char) : Nat :=
  ds.foldl (fun n c => n * 10 + (c.toNat - 48)) 0

/-- The double of a run of digits in a base, rounded after each digit. -/
def radixValue (base : Nat) (ds : List Char) : Float :=
  ds.foldl (fun x c => x * base.toFloat + ((Text.hexValue? c).getD 0).toFloat) 0.0

/-- A whole number in a base other than ten, behind its two marking characters. -/
def scanRadix (base : Nat) (isDig : Char → Bool) (cs : List Char) :
    Option (NumberToken × Nat × List Char) :=
  match spanDigits isDig false cs with
  | ([], _, _) => none
  | (_, n, 'n' :: rest) => some (.big, n + 3, rest)
  | (ds, n, rest) => some (.double (radixValue base ds), n + 2, rest)

theorem scanRadix_rest_suffix {base : Nat} {isDig : Char → Bool} {cs rest : List Char}
    {t : NumberToken} {n : Nat} (h : scanRadix base isDig cs = some (t, n, rest)) :
    rest <:+ cs := by
  have hdigits := spanDigits_rest_suffix isDig false cs
  unfold scanRadix at h
  grind [List.suffix_cons]

/-- The exponent at the beginning of a text: its value, its size and the text after it. A mark
without digits is a fault. -/
def scanExponent (cs : List Char) : Option (Int × Nat × List Char) :=
  match cs with
  | e :: rest =>
    if e = 'e' ∨ e = 'E' then
      let (sign, k, rest) : Int × Nat × List Char := match rest with
        | '+' :: r => (1, 2, r)
        | '-' :: r => (-1, 2, r)
        | r => (1, 1, r)
      match spanDigits isDigit false rest with
      | ([], _, _) => none
      | (ds, n, rest) => some (sign * decimalValue ds, n + k, rest)
    else some (0, 0, cs)
  | [] => some (0, 0, [])

theorem scanExponent_rest_suffix {cs rest : List Char} {e : Int} {n : Nat}
    (h : scanExponent cs = some (e, n, rest)) : rest <:+ cs := by
  unfold scanExponent at h
  grind [List.suffix_cons, spanDigits_rest_suffix]

/-- The fraction at the beginning of a text: its digits, its size and the text after it. -/
def scanFraction (cs : List Char) : List Char × Nat × List Char :=
  match cs with
  | '.' :: r =>
    let (fs, k, r) := spanDigits isDigit false r
    (fs, k + 1, r)
  | r => ([], 0, r)

theorem scanFraction_rest_suffix (cs : List Char) : (scanFraction cs).2.2 <:+ cs := by
  unfold scanFraction
  split
  · next r => exact (spanDigits_rest_suffix isDigit false r).trans (List.suffix_cons _ _)
  · exact List.suffix_rfl

/-- A decimal number: whole part, fraction and exponent, or a big integer. -/
def scanDecimal (cs : List Char) : Option (NumberToken × Nat × List Char) :=
  let (ds, n, rest) := spanDigits isDigit false cs
  if ds.length > 1 ∧ ds.head? = some '0' then none
  else
    match rest with
    | 'n' :: rest => if ds.isEmpty then none else some (.big, n + 1, rest)
    | _ =>
      let (fs, k, rest) := scanFraction rest
      if ds.isEmpty ∧ fs.isEmpty then none
      else
        match scanExponent rest with
        | none => none
        | some (e, m, rest) =>
          let value : Decimal := ⟨decimalValue (ds ++ fs), e - fs.length⟩
          some (.double value.toDouble, n + k + m, rest)

theorem scanDecimal_rest_suffix {cs rest : List Char} {t : NumberToken} {n : Nat}
    (h : scanDecimal cs = some (t, n, rest)) : rest <:+ cs := by
  rcases hspan : spanDigits isDigit false cs with ⟨ds, k, behind⟩
  have hwhole := spanDigits_rest_suffix isDigit false cs
  rw [hspan] at hwhole
  rw [scanDecimal, hspan] at h
  dsimp only at h
  split at h
  · cases h
  · split at h
    · next after =>
      split at h
      · cases h
      · cases h
        exact (List.suffix_cons _ _).trans hwhole
    · split at h
      · cases h
      · split at h
        · cases h
        · next hexponent =>
          cases h
          exact (scanExponent_rest_suffix hexponent).trans
            ((scanFraction_rest_suffix behind).trans hwhole)

/-- A number literal at the beginning of a text: its value, its size and the text after it. -/
def scanNumber (cs : List Char) : Option (NumberToken × Nat × List Char) :=
  match cs with
  | '0' :: m :: rest =>
    if m = 'x' ∨ m = 'X' then scanRadix 16 (fun c => (Text.hexValue? c).isSome) rest
    else if m = 'o' ∨ m = 'O' then scanRadix 8 (fun c => '0' ≤ c && c ≤ '7') rest
    else if m = 'b' ∨ m = 'B' then scanRadix 2 (fun c => c == '0' || c == '1') rest
    else scanDecimal cs
  | _ => scanDecimal cs

/-- What follows a number is the end of the text. -/
theorem scanNumber_rest_suffix {cs rest : List Char} {t : NumberToken} {n : Nat}
    (h : scanNumber cs = some (t, n, rest)) : rest <:+ cs := by
  unfold scanNumber at h
  split at h
  · next m rest' =>
    have hradix : rest <:+ rest' → rest <:+ '0' :: m :: rest' := fun h =>
      h.trans ((List.suffix_cons _ _).trans (List.suffix_cons _ _))
    split at h
    · exact hradix (scanRadix_rest_suffix h)
    · split at h
      · exact hradix (scanRadix_rest_suffix h)
      · split at h
        · exact hradix (scanRadix_rest_suffix h)
        · exact scanDecimal_rest_suffix h
  · exact scanDecimal_rest_suffix h

end StyleExtract.Script
