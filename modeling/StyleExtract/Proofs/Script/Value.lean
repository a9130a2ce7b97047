import Mathlib.Tactic.Common
import StyleExtract.Generated.Plan

/-!
# Values of the script language

Generated functions are called with arbitrary values, and what they return depends on how the
script language compares values, turns them into property keys and reads properties. This file
holds the values and those operations, as far as generated functions use them.

A text of the script language is a list of UTF-16 units, which need not be the units of any
sequence of characters. A number is not a number at all, infinite, the negative zero, or a rational
number; the finite doubles are among the rational numbers and nothing here depends on which of
them are doubles.

## Main definitions

* `Text.utf16` — the units of a text.
* `Script.Number`, `Script.Value` — numbers and values.
* `Script.Number.safeInteger?` — the integer that a number is, if it is in the exact range.
* `Script.Value.strictEq`, `Script.Value.typeOf`, `Script.Value.truthy` — the operators `===` and
  `typeof`, and which values count as true.
* `Script.Host` — what is left to the program around.
* `Script.Value.key`, `Script.Value.get` — property keys and property access.
* `Script.Value.selectionText?` — the text of a value that is a text, a truth value or an integer
  in the exact range.

## Main results

* `Text.utf16_injective` — a text is determined by its units.
* `Script.Number.sameNumber_ofInt` — a number equals an integer in the exact range exactly if it
  is that integer.
* `Script.Value.strictEq_text_or_key` — a value equals a text or the scalar that stands for the
  text exactly if the text is its own.

## Design

Object literals are values of their own, with their entries, the latest first. All other objects
are opaque, and what the language leaves to them (their identity, their conversion to a key, their
members) is a parameter, so that results hold for every behaviour of the program around.
-/

namespace StyleExtract

/-! ## Units of texts -/

namespace Text

/-- The units of a character: one in the basic plane, else a high and a low surrogate. -/
def utf16Char (c : Char) : List UInt16 :=
  if c.toNat < 0x10000 then [UInt16.ofNat c.toNat]
  else [UInt16.ofNat (0xD800 + (c.toNat - 0x10000) / 0x400),
    UInt16.ofNat (0xDC00 + (c.toNat - 0x10000) % 0x400)]

/-- The units of a text. -/
def utf16 (s : String) : List UInt16 := s.toList.flatMap utf16Char

/-- Units of numbers below `2 ^ 16` are equal only if the numbers are. -/
lemma eq_of_ofNat_eq {m n : ℕ} (hm : m < 0x10000) (hn : n < 0x10000)
    (h : UInt16.ofNat m = UInt16.ofNat n) : m = n := by
  have h' := congrArg UInt16.toNat h
  rw [UInt16.toNat_ofNat', UInt16.toNat_ofNat'] at h'
  omega

/-- The units of a character start no other character: where two texts have equal units, their
first characters are equal, and so are the units of what follows.

**Proof sketch.** The first unit tells the two kinds of characters apart, since no character of
the basic plane is a surrogate. Within a kind the units determine the code point. -/
lemma utf16Char_append_inj {c d : Char} {a b : List UInt16}
    (h : utf16Char c ++ a = utf16Char d ++ b) : c = d ∧ a = b := by
  have hc : c.toNat < 0xD800 ∨ 0xDFFF < c.toNat ∧ c.toNat < 0x110000 := c.valid
  have hd : d.toNat < 0xD800 ∨ 0xDFFF < d.toNat ∧ d.toNat < 0x110000 := d.valid
  rw [utf16Char, utf16Char] at h
  by_cases hc' : c.toNat < 0x10000 <;> by_cases hd' : d.toNat < 0x10000
  · rw [if_pos hc', if_pos hd', List.singleton_append, List.singleton_append] at h
    obtain ⟨h₁, h₂⟩ := List.cons_eq_cons.mp h
    exact ⟨Char.toNat_inj.mp (eq_of_ofNat_eq hc' hd' h₁), h₂⟩
  · rw [if_pos hc', if_neg hd', List.singleton_append, List.cons_append] at h
    have := eq_of_ofNat_eq (by omega) (by omega) (List.cons_eq_cons.mp h).1
    omega
  · rw [if_neg hc', if_pos hd', List.singleton_append, List.cons_append] at h
    have := eq_of_ofNat_eq (by omega) (by omega) (List.cons_eq_cons.mp h).1
    omega
  · rw [if_neg hc', if_neg hd'] at h
    obtain ⟨h₁, h'⟩ := List.cons_eq_cons.mp h
    obtain ⟨h₂, h₃⟩ := List.cons_eq_cons.mp h'
    have e₁ := eq_of_ofNat_eq (by omega) (by omega) h₁
    have e₂ := eq_of_ofNat_eq (by omega) (by omega) h₂
    exact ⟨Char.toNat_inj.mp (by omega), h₃⟩

/-- A character has at least one unit. -/
lemma utf16Char_ne_nil (c : Char) : utf16Char c ≠ [] := by
  unfold utf16Char
  split <;> simp

/-- **A text is determined by its units.**

**Proof sketch.** A character is one unit or two, and the first unit tells which, so units are taken
off character by character. -/
theorem utf16_injective : Function.Injective utf16 := by
  have key : ∀ cs ds : List Char, cs.flatMap utf16Char = ds.flatMap utf16Char → cs = ds := by
    intro cs
    induction cs with
    | nil =>
      intro ds h
      cases ds with
      | nil => rfl
      | cons d ds => simp [utf16Char_ne_nil] at h
    | cons c cs ih =>
      intro ds h
      cases ds with
      | nil => simp [utf16Char_ne_nil] at h
      | cons d ds =>
        rw [List.flatMap_cons, List.flatMap_cons] at h
        obtain ⟨rfl, h'⟩ := utf16Char_append_inj h
        rw [ih ds h']
  intro s t h
  exact String.toList_injective (key _ _ h)

@[simp] lemma utf16_append (s t : String) : utf16 (s ++ t) = utf16 s ++ utf16 t := by
  simp [utf16]

@[simp] lemma utf16_inj {s t : String} : utf16 s = utf16 t ↔ s = t := utf16_injective.eq_iff

@[simp] lemma utf16_empty : utf16 "" = [] := rfl

/-- Only the empty text has no units. -/
lemma utf16_eq_nil_iff {s : String} : utf16 s = [] ↔ s = "" := by
  rw [← utf16_empty, utf16_inj]

end Text

namespace Script

open Text (utf16)

/-! ## Numbers -/

/-- A number of the script language. -/
inductive Number where
  /-- Not a number. -/
  | nan
  /-- An infinite number. -/
  | infinite (negative : Bool)
  /-- The zero with a minus sign. -/
  | negativeZero
  /-- A rational number. -/
  | finite (q : Rat)
  deriving DecidableEq

namespace Number

/-- The rational number that a finite number stands for. -/
def value? : Number → Option Rat
  | .nan | .infinite _ => none
  | .negativeZero => some 0
  | .finite q => some q

/-- Equality of numbers: what is not a number differs from itself, and the zeros are equal. -/
def sameNumber : Number → Number → Bool
  | .infinite a, .infinite b => a == b
  | x, y => x.value?.isSome && x.value? == y.value?

/-- The number with the other sign. -/
def neg : Number → Number
  | .nan => .nan
  | .infinite b => .infinite !b
  | .negativeZero => .finite 0
  | .finite q => if q = 0 then .negativeZero else .finite (-q)

/-- The integer that a number is, if it is one in the exact range. -/
def safeInteger? (x : Number) : Option Int :=
  match x.value? with
  | some q => if q.den = 1 ∧ q.num.natAbs ≤ ScalarKey.maxSafeInteger then some q.num else none
  | none => none

/-- An integer as a number. -/
def ofInt (n : Int) : Number := .finite n

/-- A number is an integer in the exact range exactly if its value is.

**Proof sketch.** A fraction is an integer exactly if its denominator is one, and then it is its
numerator. -/
lemma safeInteger?_eq_some_iff {x : Number} {n : Int} :
    x.safeInteger? = some n ↔
      x.value? = some (n : Rat) ∧ n.natAbs ≤ ScalarKey.maxSafeInteger := by
  unfold safeInteger?
  cases hx : x.value? with
  | none => simp
  | some q =>
    constructor
    · intro h
      simp only at h
      split at h
      · next hq =>
        obtain rfl : q.num = n := by simpa using h
        have hint : q = (q.num : Rat) := Rat.ext (by simp) (by simp [hq.1])
        exact ⟨congrArg some hint, hq.2⟩
      · cases h
    · rintro ⟨h, hn⟩
      obtain rfl : q = n := by simpa using h
      simp [hn]

/-- **A number equals an integer in the exact range exactly if it is that integer**: then it is a
safe integer, and the zeros count as the integer zero. -/
theorem sameNumber_ofInt {x : Number} {n : Int} (hn : n.natAbs ≤ ScalarKey.maxSafeInteger) :
    x.sameNumber (ofInt n) = true ↔ x.safeInteger? = some n := by
  rw [safeInteger?_eq_some_iff]
  cases x <;> simp [sameNumber, ofInt, value?, hn]

end Number

/-! ## Values -/

/-- What generated code uses of the global objects. -/
inductive Builtin where
  /-- The global object `Number`. -/
  | number
  /-- Its member `isSafeInteger`. -/
  | isSafeInteger
  deriving DecidableEq

/-- A value of the script language. -/
inductive Value where
  /-- The value of what is missing. -/
  | undefined
  /-- The object that is none. -/
  | null
  /-- A truth value. -/
  | bool (b : Bool)
  /-- A number. -/
  | number (x : Number)
  /-- An integer of the type without bounds. -/
  | bigint (n : Int)
  /-- A text, by its units. -/
  | text (units : List UInt16)
  /-- A symbol. -/
  | symbol (id : ℕ)
  /-- An object of the program around, which may be a function. -/
  | object (callable : Bool) (id : ℕ)
  /-- The object of a literal: whether it inherits, and its entries, the latest first. -/
  | literal (inherits : Bool) (own : List (List UInt16 × Value))
  /-- A global object. -/
  | builtin (f : Builtin)

/-- The key of a property. -/
inductive PropertyKey where
  | text (units : List UInt16)
  | symbol (id : ℕ)
  deriving DecidableEq

/-- What the language leaves to the program around. Missing results are exceptions. -/
structure Host where
  /-- Whether two objects are the same. -/
  identical : Value → Value → Bool
  /-- The key that an object is turned into. -/
  objectKey : Value → Option PropertyKey
  /-- The text of a number that is no integer in the exact range. -/
  digits : Rat → List UInt16
  /-- What the objects of literals inherit. -/
  inherited : PropertyKey → Option Value
  /-- The members of values that are no object literals. -/
  member : Value → PropertyKey → Option Value
  /-- The sum of values of which one is no text. -/
  sum : Value → Value → Option Value
  /-- The result of a call. -/
  call : Value → Value → Option Value

namespace Value

/-- The text of the operator `typeof`. -/
def typeOf : Value → String
  | .undefined => "undefined"
  | .null | .literal .. => "object"
  | .bool _ => "boolean"
  | .number _ => "number"
  | .bigint _ => "bigint"
  | .text _ => "string"
  | .symbol _ => "symbol"
  | .object callable _ => if callable then "function" else "object"
  | .builtin _ => "function"

/-- Whether a value is an object. -/
def isObject : Value → Bool
  | .object .. | .literal .. | .builtin _ => true
  | _ => false

/-- The operator `===`: values of different types differ, and objects are the same or not. -/
def strictEq (host : Host) : Value → Value → Bool
  | .undefined, .undefined | .null, .null => true
  | .bool a, .bool b => a == b
  | .number x, .number y => x.sameNumber y
  | .bigint m, .bigint n => m == n
  | .text s, .text t => s == t
  | .symbol i, .symbol j => i == j
  | a, b => a.isObject && b.isObject && host.identical a b

/-- Whether a value counts as true. -/
def truthy : Value → Bool
  | .undefined | .null => false
  | .bool b => b
  | .number x => x.value? != some 0 && x != .nan
  | .bigint n => n != 0
  | .text s => s != []
  | .symbol _ | .object .. | .literal .. | .builtin _ => true

@[simp] lemma truthy_bool (b : Bool) : (bool b).truthy = b := rfl

@[simp] lemma truthy_text (s : List UInt16) : (text s).truthy = (s != []) := rfl

/-- Whether a value is an integer in the exact range, as `Number.isSafeInteger` says. -/
def isSafeInteger : Value → Bool
  | .number x => x.safeInteger?.isSome
  | _ => false

/-- The text of a number. -/
def numberText (host : Host) (x : Number) : List UInt16 :=
  match x.safeInteger?, x with
  | some n, _ => utf16 (toString n)
  | none, .nan => utf16 "NaN"
  | none, .infinite negative => utf16 (if negative then "-Infinity" else "Infinity")
  | none, .negativeZero => utf16 "0"
  | none, .finite q => host.digits q

/-- The property key that a value is turned into. -/
def key (host : Host) : Value → Option PropertyKey
  | .undefined => some (.text (utf16 "undefined"))
  | .null => some (.text (utf16 "null"))
  | .bool b => some (.text (utf16 (ScalarKey.bool b).text))
  | .number x => some (.text (numberText host x))
  | .bigint n => some (.text (utf16 (toString n)))
  | .text s => some (.text s)
  | .symbol i => some (.symbol i)
  | v => host.objectKey v

/-- The entry of an object literal with a key. -/
def ownEntry (own : List (List UInt16 × Value)) : PropertyKey → Option Value
  | .text units => own.lookup units
  | .symbol _ => none

/-- The property of a value. What is missing has none. The object of a literal has its own
entries, and beyond them what it inherits, if it inherits at all. -/
def get (host : Host) (v : Value) (k : PropertyKey) : Option Value :=
  match v with
  | .undefined | .null => none
  | .literal inherits own =>
    match ownEntry own k with
    | some entry => some entry
    | none => if inherits then host.inherited k else some .undefined
  | .builtin .number =>
    if k = .text (utf16 "isSafeInteger") then some (.builtin .isSafeInteger) else host.member v k
  | v => host.member v k

/-- The result of calling a value with one argument. -/
def call (host : Host) (f argument : Value) : Option Value :=
  match f with
  | .builtin .isSafeInteger => some (.bool argument.isSafeInteger)
  | f => host.call f argument

/-- The operator `+`, which joins texts. -/
def plus (host : Host) : Value → Value → Option Value
  | .text s, .text t => some (.text (s ++ t))
  | a, b => host.sum a b

/-- The text of a value that is a text, a truth value or an integer in the exact range. -/
def selectionText? : Value → Option (List UInt16)
  | .text s => some s
  | .bool b => some (utf16 (ScalarKey.bool b).text)
  | .number x => x.safeInteger?.map fun n => utf16 (toString n)
  | _ => none

end Value

end Script

/-! ## Scalars that stand for texts -/

/-- The decimal digits of a number are digits. -/
lemma isDigit_of_mem_toDigits {n : ℕ} {c : Char} (h : c ∈ Nat.toDigits 10 n) :
    isDigit c = true := by
  have hd : c.isDigit = true := Nat.isDigit_of_mem_toDigits (by omega) (by omega) h
  simpa [isDigit, Char.isDigit, Char.le_def] using hd

namespace ScalarKey

/-- The value of a scalar. -/
def value : ScalarKey → Script.Value
  | .bool b => .bool b
  | .integer n => .number (.ofInt n)

/-- Whether a scalar is exact: an integer has to be in the exact range. -/
def Exact : ScalarKey → Prop
  | .bool _ => True
  | .integer n => n.natAbs ≤ maxSafeInteger

/-- Reading the decimal digits of a number gives the number. -/
lemma natOfDigits?_toDigits (n : ℕ) : natOfDigits? (Nat.toDigits 10 n) = some n := by
  have hne : Nat.toDigits 10 n ≠ [] := Nat.toDigits_ne_nil
  have hall : (Nat.toDigits 10 n).all isDigit = true :=
    List.all_eq_true.mpr fun _ => isDigit_of_mem_toDigits
  have hfold : (Nat.toDigits 10 n).foldl (fun n c => n * 10 + (c.toNat - 48)) 0 = n := by
    have h := Nat.ofDigitChars_ten_toDigits (n := n)
    rw [Nat.ofDigitChars_eq_foldl] at h
    simpa [Nat.mul_comm] using h
  unfold natOfDigits?
  split
  · next h => exact absurd h hne
  · rw [if_pos hall, hfold]

/-- Reading the text of an integer gives the integer. -/
lemma intOfChars?_toString (n : Int) : intOfChars? (toString n).toList = some n := by
  rw [Int.toString_eq_repr, Int.repr_eq_if]
  split
  · next hn =>
    rw [Nat.toList_repr]
    have hread := natOfDigits?_toDigits n.toNat
    unfold intOfChars?
    split
    · next ds h =>
      -- a minus sign is no digit
      have hd : isDigit '-' = true := isDigit_of_mem_toDigits (n := n.toNat) (by rw [h]; simp)
      exact absurd hd (by decide)
    · simp [hread, Int.toNat_of_nonneg hn]
  · next hn =>
    have hchars : ("-" ++ (-n).toNat.repr).toList = '-' :: Nat.toDigits 10 (-n).toNat := by simp
    rw [hchars]
    simp only [intOfChars?, natOfDigits?_toDigits]
    have hneg : -((-n).toNat : Int) = n := by omega
    exact congrArg some hneg

/-- A scalar stands for a text exactly if the text is its own and it is exact.

**Proof sketch.** From left to right each branch checks what is claimed. From right to left, the
text of an integer is read as this integer, so it is none of the two words for truth values. -/
lemma ofText?_eq_some_iff {s : String} {k : ScalarKey} :
    ofText? s = some k ↔ k.text = s ∧ k.Exact := by
  constructor
  · intro h
    unfold ofText? at h
    split at h
    · next hs => cases h; exact ⟨hs.symm, trivial⟩
    · split at h
      · next hs => cases h; exact ⟨hs.symm, trivial⟩
      · split at h
        · split at h
          · next hn => cases h; exact hn
          · cases h
        · cases h
  · rintro ⟨rfl, hk⟩
    cases k with
    | bool b => cases b <;> rfl
    | integer n =>
      have hread := intOfChars?_toString n
      have hword : ∀ w : String, intOfChars? w.toList = none → toString n ≠ w := by
        intro w hw he
        rw [he, hw] at hread
        cases hread
      rw [show (ScalarKey.integer n).text = toString n from rfl, ofText?,
        if_neg (hword "true" (by decide)), if_neg (hword "false" (by decide)), hread]
      exact if_pos ⟨rfl, hk⟩

end ScalarKey

namespace Script

open Text (utf16)

namespace Value

/-- A value that has a text of its own is turned into the key with that text. -/
lemma key_of_selectionText? (host : Host) {v : Value} {s : List UInt16}
    (h : v.selectionText? = some s) : v.key host = some (.text s) := by
  cases v with
  | text t => simpa [selectionText?, key] using h
  | bool b => simpa [selectionText?, key] using h
  | number x =>
    simp only [selectionText?, Option.map_eq_some_iff] at h
    obtain ⟨n, hn, rfl⟩ := h
    simp [key, numberText, hn]
  | _ => cases h

/-- A value has a text of its own exactly if it is a text, a truth value or a safe integer, which
is what the guard of a look-up asks. -/
lemma selectionText?_isSome (v : Value) :
    v.selectionText?.isSome =
      (v.typeOf == "string" || v.typeOf == "boolean" || v.isSafeInteger) := by
  cases v with
  | object callable id => cases callable <;> rfl
  | number x => simp [selectionText?, typeOf, isSafeInteger]
  | _ => rfl

/-- **A value equals a text or the scalar that stands for it exactly if the text is its own.**

**Proof sketch.** A text equals only texts, a truth value only truth values and a number only
numbers. Of the scalars that stand for a text, the truth value is the one with that text
(`ScalarKey.ofText?_eq_some_iff`), and the integer is in the exact range, where equality of numbers
is equality of integers (`Number.sameNumber_ofInt`). -/
theorem strictEq_text_or_key (host : Host) (v : Value) (s : String) :
    (v.strictEq host (.text (utf16 s)) = true ∨
        ∃ k, ScalarKey.ofText? s = some k ∧ v.strictEq host k.value = true) ↔
      v.selectionText? = some (utf16 s) := by
  have hscalar : ∀ k : ScalarKey, (∀ b, v ≠ .bool b) → (∀ x, v ≠ .number x) →
      v.strictEq host k.value = false := by
    intro k hb hx
    cases k <;> cases v <;> simp_all [strictEq, ScalarKey.value, isObject]
  cases v with
  | bool b =>
    have htext : (Value.bool b).strictEq host (.text (utf16 s)) = false := rfl
    simp only [htext, Bool.false_eq_true, false_or, selectionText?, Option.some.injEq,
      Text.utf16_inj]
    constructor
    · rintro ⟨k, hk, he⟩
      obtain ⟨rfl, -⟩ := ScalarKey.ofText?_eq_some_iff.mp hk
      cases k with
      | bool b' =>
        obtain rfl : b = b' := by simpa [strictEq, ScalarKey.value] using he
        rfl
      | integer n => cases he
    · intro h
      exact ⟨.bool b, ScalarKey.ofText?_eq_some_iff.mpr ⟨h, trivial⟩, by
        simp [strictEq, ScalarKey.value]⟩
  | number x =>
    have htext : (Value.number x).strictEq host (.text (utf16 s)) = false := rfl
    simp only [htext, Bool.false_eq_true, false_or, selectionText?, Option.map_eq_some_iff,
      Text.utf16_inj]
    constructor
    · rintro ⟨k, hk, he⟩
      obtain ⟨rfl, hex⟩ := ScalarKey.ofText?_eq_some_iff.mp hk
      cases k with
      | bool b' => cases he
      | integer n => exact ⟨n, (Number.sameNumber_ofInt hex).mp he, rfl⟩
    · rintro ⟨n, hn, hs⟩
      have hex := (Number.safeInteger?_eq_some_iff.mp hn).2
      exact ⟨.integer n, ScalarKey.ofText?_eq_some_iff.mpr ⟨hs, hex⟩,
        (Number.sameNumber_ofInt hex).mpr hn⟩
  | text t =>
    simp only [hscalar _ (by simp) (by simp), Bool.false_eq_true, and_false, exists_false, or_false]
    simp [strictEq, selectionText?]
  | _ =>
    simp only [hscalar _ (by simp) (by simp), Bool.false_eq_true, and_false, exists_false, or_false]
    simp [strictEq, selectionText?, isObject]

end Value

end Script

end StyleExtract
