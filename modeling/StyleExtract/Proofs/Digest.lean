import Mathlib
import StyleExtract.Digest.Base36

/-!
# Digits of digests

A digest is a number below `2 ^ 64` and is shown as thirteen digits in base 36, and short names are
made from the end of these digits. This file reads digits back: nothing of the digest is lost in all
thirteen digits, and its last digits are the digest modulo a power of 36.

## Main definitions

* `Digest.value` — the number that a text of digits stands for.
* `Digest.Writes` — a text of a given number of digits that stands for a number.

## Main results

* `Digest.digits_add` — more digits are those of a quotient in front of fewer digits.
* `Digest.value_digits` — digits stand for the number modulo a power of 36.
* `Digest.writes_render`, `Digest.writes_lastDigits` — what the digits of a digest and the last of
  them stand for.
* `Digest.digits_faithful` — the digits of the digests of all texts.

## Design

Digits are taken off the end of a number, and its last digits are again cut off the end of the text.
Both are the same recursion, so `digits_add` splits a text at any digit, and the number of digits
that are left out never matters for those that are kept.
-/

namespace StyleExtract.Digest

/-! ## Single digits -/

/-- The number that a digit stands for. -/
def digitValue (c : Char) : ℕ :=
  if c.isDigit then c.toNat - '0'.toNat else c.toNat - 'a'.toNat + 10

/-- The digit of a number stands for it. -/
lemma digitValue_digitChar {d : ℕ} (h : d < 36) : digitValue (digitChar d) = d := by
  revert d
  decide

/-- Digits are decimal digits and small letters. -/
lemma isDigit_or_isLower_digitChar {d : ℕ} (h : d < 36) :
    (digitChar d).isDigit = true ∨ (digitChar d).isLower = true := by
  revert d
  decide

/-! ## Texts of digits -/

/-- The number that digits stand for, most significant first. -/
def listValue (ds : List Char) : ℕ := ds.foldl (fun n c => 36 * n + digitValue c) 0

/-- The number that a text of digits stands for. -/
def value (s : String) : ℕ := listValue s.toList

/-- **A text writes a number** in base 36 with a given number of digits. -/
structure Writes (w n : ℕ) (s : String) : Prop where
  /-- There are as many digits. -/
  length : s.length = w
  /-- All characters are digits. -/
  chars : ∀ c ∈ s.toList, c.isDigit = true ∨ c.isLower = true
  /-- The digits stand for the number. -/
  reads : value s = n

/-- One more digit at the end. -/
lemma listValue_concat (ds : List Char) (c : Char) :
    listValue (ds ++ [c]) = 36 * listValue ds + digitValue c := by
  simp [listValue]

/-- Every character of the digits of a number is that of a number below 36. -/
lemma exists_of_mem_digits {w n : ℕ} {c : Char} (h : c ∈ digits w n) :
    ∃ d < 36, c = digitChar d := by
  induction w generalizing n with
  | zero => cases h
  | succ w ih =>
    rcases List.mem_append.mp h with h | h
    · exact ih h
    · exact ⟨n % 36, Nat.mod_lt n (by decide), List.mem_singleton.mp h⟩

/-- **More digits of a number** are the digits of its quotient by a power of 36, with fewer of its
own digits behind them. -/
theorem digits_add (w k n : ℕ) : digits (w + k) n = digits w (n / 36 ^ k) ++ digits k n := by
  induction k generalizing n with
  | zero => simp [digits]
  | succ k ih =>
    rw [← Nat.add_assoc, digits, ih, digits, List.append_assoc, Nat.div_div_eq_div_mul,
      ← Nat.pow_succ']

/-- The end of the digits of a number are fewer of its digits. -/
lemma drop_digits {k w : ℕ} (h : k ≤ w) (n : ℕ) : (digits w n).drop (w - k) = digits k n := by
  obtain ⟨j, rfl⟩ := Nat.exists_eq_add_of_le' h
  rw [digits_add, List.drop_left' (by simp)]

/-- **Digits stand for the number** modulo a power of 36. -/
theorem value_digits (w n : ℕ) : listValue (digits w n) = n % 36 ^ w := by
  induction w generalizing n with
  | zero => simp [digits, listValue, Nat.mod_one]
  | succ w ih =>
    rw [digits, listValue_concat, ih, digitValue_digitChar (Nat.mod_lt n (by decide)),
      Nat.pow_succ', Nat.mod_mul, Nat.add_comm]

/-- The digits of a number write it modulo a power of 36. -/
lemma writes_digits (w n : ℕ) : Writes w (n % 36 ^ w) (.ofList (digits w n)) where
  length := by simp
  chars := by
    intro c hc
    rw [String.toList_ofList] at hc
    obtain ⟨d, hd, rfl⟩ := exists_of_mem_digits hc
    exact isDigit_or_isLower_digitChar hd
  reads := by rw [value, String.toList_ofList, value_digits]

/-- What is left of a number after some digits are taken off its end. -/
lemma iterate_div (w n : ℕ) : (· / 36)^[w] n = n / 36 ^ w := by
  induction w generalizing n with
  | zero => simp
  | succ w ih => rw [Function.iterate_succ_apply, ih, Nat.div_div_eq_div_mul, ← Nat.pow_succ']

/-! ## Digests -/

/-- A digest has no more than thirteen digits. -/
lemma toNat_lt (h : UInt64) : h.toNat < 36 ^ width := by
  have hwidth : 2 ^ 64 ≤ 36 ^ width := by decide
  exact Nat.lt_of_lt_of_le h.toNat_lt hwidth

/-- **The digits of a digest** write it. -/
theorem writes_render (h : UInt64) : Writes width h.toNat (render h) := by
  have hdigits := writes_digits width h.toNat
  rwa [Nat.mod_eq_of_lt (toNat_lt h)] at hdigits

/-- The last digits of a digest, taken off its end. -/
lemma lastDigits_eq (n : ℕ) (h : UInt64) :
    lastDigits n h = .ofList (digits (min n width) h.toNat) := by
  have hcut : width - n = width - min n width := by omega
  rw [lastDigits, hcut, drop_digits (Nat.min_le_right n width)]

/-- **The last digits of a digest** write it modulo a power of 36. -/
theorem writes_lastDigits (n : ℕ) (h : UInt64) :
    Writes (min n width) (h.toNat % 36 ^ min n width) (lastDigits n h) := by
  rw [lastDigits_eq]
  exact writes_digits _ _

/-- Digests with the same digits are the same. -/
lemma render_injective : Function.Injective render := by
  intro a b hab
  rw [← UInt64.toNat_inj, ← (writes_render a).reads, hab, (writes_render b).reads]

/-- Digests with the same last digits have the same last digits if fewer are asked for. -/
lemma lastDigits_eq_of_le {k n : ℕ} (hkn : k ≤ n) {a b : UInt64}
    (h : lastDigits n a = lastDigits n b) : lastDigits k a = lastDigits k b := by
  have hmin : min k width ≤ min n width := by omega
  have hdigits : digits (min n width) a.toNat = digits (min n width) b.toNat := by
    simpa [lastDigits_eq] using congrArg String.toList h
  rw [lastDigits_eq, lastDigits_eq, ← drop_digits hmin, ← drop_digits hmin, hdigits]

/-- **The digits of digests**, whatever numbers the digests of texts are. All thirteen digits write
the digest and nothing is left over, so digests with the same digits are the same. The last digits
write the digest modulo a power of 36, and digests that agree in the last digits agree in fewer.

**Proof sketch.** A number is written by dividing it by 36 thirteen times, and what is left is
nothing, since a number of 64 bits is below the thirteenth power of 36. The last digits are those of
the remainder modulo a smaller power, and fewer digits are digits of that remainder again. -/
theorem digits_faithful (digest : ByteArray → UInt64) :
    (∀ s : String, Writes 13 (digest s.toUTF8).toNat (render (digest s.toUTF8)) ∧
      (· / 36)^[13] (digest s.toUTF8).toNat = 0) ∧
    (∀ s t : String, render (digest s.toUTF8) = render (digest t.toUTF8) ↔
      digest s.toUTF8 = digest t.toUTF8) ∧
    (∀ (n : ℕ) (s : String), Writes (min n 13) ((digest s.toUTF8).toNat % 36 ^ min n 13)
      (lastDigits n (digest s.toUTF8))) ∧
    ∀ (k n : ℕ) (s t : String), k ≤ n →
      lastDigits n (digest s.toUTF8) = lastDigits n (digest t.toUTF8) →
        lastDigits k (digest s.toUTF8) = lastDigits k (digest t.toUTF8) := by
  refine ⟨fun s => ⟨writes_render _, ?_⟩, fun s t => render_injective.eq_iff,
    fun n s => writes_lastDigits n _, fun k n s t hkn h => lastDigits_eq_of_le hkn h⟩
  rw [iterate_div]
  exact Nat.div_eq_of_lt (toNat_lt _)

/-- Numbers for texts that tell the empty text from all others. -/
def sampleDigest (bytes : ByteArray) : UInt64 := if bytes.size = 0 then 5 else 5 + 36 ^ 8

/-- Two texts whose digests agree in the last eight digits, and so in the last six, but not in
all. -/
theorem digits_faithful_sample :
    render (sampleDigest "".toUTF8) ≠ render (sampleDigest "a".toUTF8) ∧
    lastDigits 8 (sampleDigest "".toUTF8) = lastDigits 8 (sampleDigest "a".toUTF8) ∧
    lastDigits 6 (sampleDigest "".toUTF8) = lastDigits 6 (sampleDigest "a".toUTF8) := by
  obtain ⟨-, hrender, -, hfewer⟩ := digits_faithful sampleDigest
  have hdigest : sampleDigest "".toUTF8 ≠ sampleDigest "a".toUTF8 := by decide +kernel
  have height : lastDigits 8 (sampleDigest "".toUTF8) = lastDigits 8 (sampleDigest "a".toUTF8) := by
    decide +kernel
  exact ⟨mt (hrender "" "a").mp hdigest, height, hfewer 6 8 "" "a" (by decide) height⟩

end StyleExtract.Digest
