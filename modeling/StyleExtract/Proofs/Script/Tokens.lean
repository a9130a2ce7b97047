import Mathlib.Tactic.Common
import StyleExtract.Proofs.Name
import StyleExtract.Proofs.Script.Quoting
import StyleExtract.Proofs.Script.Value
import StyleExtract.Script.Scan.Token

/-!
# The next token of a text

Generated code is read token by token: a gap is left out, and the token behind it reaches up to the
first character that does not go on with it. Each kind of token that generated code is made of is
read back from the way in which it is written.

## Main definitions

* `Script.Atom` — a token as readers of generated code see it.
* `Script.next?` — the next token and the text behind it.
* `Script.IsWord` — the names and keywords of generated code.
* `Script.EndsWord` — what ends a word.
* `Script.Stops` — what ends a word or a numeral.

## Main results

* `Script.next?_word`, `Script.next?_numeral` — a word or numeral before what ends it.
* `Script.next?_dot_word` — the dot before the name of a property.
* `Script.next?_scriptQuote` — a text between its quotes, before anything.

## Design

Punctuation needs no lemmas: where the characters of a mark are known, and the one behind it where
the mark could be longer, `next?` computes.
-/

namespace StyleExtract.Script

/-- A token. Numbers are kept as they are written, so none is rounded. -/
inductive Atom where
  | word (name : String)
  | punct (mark : String)
  | text (value : String)
  | number (digits : List Char)
  deriving DecidableEq, Repr

/-- What a lexeme at the beginning of `here` is for a reader: a name with escapes, a private name
and what is no token are nothing. -/
def Lexeme.atom? (here : List Char) (l : Lexeme) : Option Atom :=
  match l.token with
  | .word name false => some (.word name)
  | .punct mark => some (.punct mark)
  | .text value => some (.text value)
  | .number _ => some (.number (here.take (here.length - l.rest.length)))
  | _ => none

/-- The next token, and the text after it. -/
def next? (cs : List Char) : Option (Atom × List Char) := do
  let gap ← skipGap .between cs
  let l := scanToken (gap.rest.length + 1) gap.rest
  let a ← l.atom? gap.rest
  return (a, l.rest)

/-- Whether no token follows. -/
def isFinished (cs : List Char) : Bool :=
  match skipGap .between cs with
  | some gap => gap.rest.isEmpty
  | none => false

/-! ## Gaps and marks -/

/-- A blank or a line feed makes a gap longer. -/
lemma skipGap_cons {c : Char} (hc : c = ' ' ∨ c = '\n') (cs : List Char) :
    skipGap .between (c :: cs) = (skipGap .between cs).map (·.longer c) := by
  rcases hc with rfl | rfl <;> rfl

/-- A blank or a line feed before a token is left out. -/
lemma next?_gap {c : Char} (hc : c = ' ' ∨ c = '\n') (cs : List Char) :
    next? (c :: cs) = next? cs := by
  unfold next?
  rw [skipGap_cons hc]
  cases skipGap .between cs <;> rfl

@[simp] lemma next?_space (cs : List Char) : next? (' ' :: cs) = next? cs := next?_gap (.inl rfl) cs

@[simp] lemma next?_feed (cs : List Char) : next? ('\n' :: cs) = next? cs := next?_gap (.inr rfl) cs

@[simp] lemma isFinished_feed (cs : List Char) : isFinished ('\n' :: cs) = isFinished cs := by
  unfold isFinished
  rw [skipGap_cons (.inr rfl)]
  cases skipGap .between cs <;> rfl

/-- A character that starts a token leaves no gap before it. -/
lemma skipGap_token {c : Char} (hgap : (isLineBreak c || isSpace c) = false) (hslash : c ≠ '/')
    (cs : List Char) : skipGap .between (c :: cs) = some ⟨false, 0, c :: cs⟩ := by
  simp [skipGap, hgap, hslash]

/-- A token that starts a text is the next one. -/
lemma next?_cons {c : Char} (hgap : (isLineBreak c || isSpace c) = false) (hslash : c ≠ '/')
    (cs : List Char) :
    next? (c :: cs) =
      ((scanToken (cs.length + 2) (c :: cs)).atom? (c :: cs)).map
        (·, (scanToken (cs.length + 2) (c :: cs)).rest) := by
  unfold next?
  rw [skipGap_token hgap hslash]
  cases h : (scanToken (cs.length + 2) (c :: cs)).atom? (c :: cs) <;> simp [h]

/-! ## Words -/

/-- A name of generated code, keyword or not. -/
def IsWord (s : String) : Prop :=
  headTail (fun c => isLetter c || c == '_' || c == '$') isNameChar s.toList = true

instance : DecidablePred IsWord := fun s =>
  inferInstanceAs (Decidable (headTail _ isNameChar s.toList = true))

/-- **What ends a word**: the end of the text, or a character that does not go on with it. -/
def EndsWord (cs : List Char) : Prop :=
  ∀ c ∈ cs.head?, Text.isIdentifierPart c = false ∧ c ≠ '\\'

/-- The characters that follow a word or a number. -/
def stopChars : List Char := [' ', ',', ':', ';', ')', ']']

/-- **What ends a word or a number**: the end of the text, or a character that follows them. -/
def Stops (cs : List Char) : Prop := ∀ c ∈ cs.head?, c ∈ stopChars

lemma mem_stopChars {c : Char} :
    c ∈ stopChars ↔ c = ' ' ∨ c = ',' ∨ c = ':' ∨ c = ';' ∨ c = ')' ∨ c = ']' := by
  simp [stopChars]

lemma stops_cons {c : Char} (hc : c ∈ stopChars) (cs : List Char) : Stops (c :: cs) := by
  rintro _ ⟨⟩
  exact hc

lemma stops_space (cs : List Char) : Stops (' ' :: cs) := stops_cons (by decide) cs

/-- What a look at each of the first 128 characters shows holds of the characters of names. -/
lemma forall_isNameChar {p : Char → Prop}
    (h : ∀ n < 128, isNameChar (Char.ofNat n) = true → p (Char.ofNat n)) {c : Char}
    (hc : isNameChar c = true) : p c := by
  have hsmall : c.toNat < 128 := by
    simp only [isNameChar, isLetter, isDigit, Bool.or_eq_true, Bool.and_eq_true, decide_eq_true_eq,
      beq_iff_eq] at hc
    rcases hc with ((((hc | hc) | hc) | rfl) | rfl)
    · exact Nat.lt_of_le_of_lt hc.2 (by decide)
    · exact Nat.lt_of_le_of_lt hc.2 (by decide)
    · exact Nat.lt_of_le_of_lt hc.2 (by decide)
    · decide
    · decide
  have hlook := h c.toNat hsmall
  rw [Char.ofNat_toNat] at hlook
  exact hlook hc

/-- The characters of names go on with a word, without escapes. -/
lemma isIdentifierPart_of_isNameChar {c : Char} (h : isNameChar c = true) :
    Text.isIdentifierPart c = true ∧ c ≠ '\\' :=
  forall_isNameChar (p := fun c => Text.isIdentifierPart c = true ∧ c ≠ '\\') (by decide) h

/-- What a look at each of the first 128 characters shows holds of the characters that start
names. -/
lemma forall_nameStart {p : Char → Prop}
    (h : ∀ n < 128, isNameChar (Char.ofNat n) = true →
      (isLetter (Char.ofNat n) || Char.ofNat n == '_' || Char.ofNat n == '$') = true →
        p (Char.ofNat n))
    {c : Char} (hc : (isLetter c || c == '_' || c == '$') = true) : p c := by
  have hname : isNameChar c = true := by
    unfold isNameChar
    grind
  exact forall_isNameChar (p := fun c => (isLetter c || c == '_' || c == '$') = true → p c) h hname
    hc

/-- The first character of a name starts a word, and nothing else. -/
lemma start_of_isNameChar {c : Char} (h : (isLetter c || c == '_' || c == '$') = true) :
    Text.isIdentifierStart c = true ∧ (isLineBreak c || isSpace c) = false ∧ c ≠ '/' :=
  forall_nameStart (p := fun c =>
    Text.isIdentifierStart c = true ∧ (isLineBreak c || isSpace c) = false ∧ c ≠ '/') (by decide) h

/-- A digit starts a number, and nothing else. -/
lemma start_of_isDigit {c : Char} (h : isDigit c = true) :
    (isLineBreak c || isSpace c) = false ∧ c ≠ '/' ∧
      (Text.isIdentifierStart c || c == '\\') = false :=
  forall_isNameChar (p := fun c => isDigit c = true → (isLineBreak c || isSpace c) = false ∧
    c ≠ '/' ∧ (Text.isIdentifierStart c || c == '\\') = false) (by decide)
    (show isNameChar c = true by simp [isNameChar, h]) h

/-- What ends a word or a number ends a word. -/
lemma Stops.endsWord {cs : List Char} (h : Stops cs) : EndsWord cs := by
  intro c hc
  rcases mem_stopChars.mp (h c hc) with rfl | rfl | rfl | rfl | rfl | rfl <;> decide

lemma endsWord_cons {c : Char} (hc : Text.isIdentifierPart c = false ∧ c ≠ '\\')
    (cs : List Char) : EndsWord (c :: cs) := by
  rintro _ ⟨⟩
  exact hc

/-- A character of a word, then more of it. -/
lemma scanWord_cons (first : Bool) {c : Char} (hescape : c ≠ '\\')
    (hallowed : (if first then Text.isIdentifierStart c else Text.isIdentifierPart c) = true)
    (fuel : ℕ) (cs : List Char) :
    scanWord first (fuel + 1) (c :: cs) = (scanWord false fuel cs).map fun w =>
      ⟨c :: w.chars, w.escaped, w.size + c.utf8Size, w.rest⟩ := by
  simp [scanWord, hescape, hallowed]

/-- The characters of a word behind its first one, then what ends it.

**Proof sketch.** Induction on the word. Each character is part of a name and no escape. What ends
the word is not part of a name, so the scan stops there. -/
lemma scanWord_append {w cs : List Char} (hw : ∀ c ∈ w, isNameChar c = true) (hcs : EndsWord cs)
    {fuel : ℕ} (hfuel : w.length < fuel) :
    ∃ size, scanWord false fuel (w ++ cs) = some ⟨w, false, size, cs⟩ := by
  obtain ⟨fuel, rfl⟩ := Nat.exists_eq_add_one_of_ne_zero (Nat.ne_zero_of_lt hfuel)
  induction w generalizing fuel with
  | nil =>
    refine ⟨0, ?_⟩
    cases cs with
    | nil => rfl
    | cons c cs =>
      obtain ⟨hpart, hescape⟩ := hcs c rfl
      simp [scanWord, hpart, hescape]
  | cons c w ih =>
    obtain ⟨hc, hw⟩ := List.forall_mem_cons.mp hw
    obtain ⟨hpart, hescape⟩ := isIdentifierPart_of_isNameChar hc
    have hfuel' : w.length < fuel := by simpa using hfuel
    obtain ⟨fuel, rfl⟩ := Nat.exists_eq_add_one_of_ne_zero (Nat.ne_zero_of_lt hfuel')
    obtain ⟨size, hrest⟩ := ih hw fuel hfuel'
    refine ⟨size + c.utf8Size, ?_⟩
    rw [List.cons_append, scanWord_cons false hescape hpart, hrest]
    rfl

/-- **A word is read up to what ends it.**

**Proof sketch.** The first character starts a name and is neither a gap nor a slash, so a word is
scanned. The scan goes on over the characters of the word and stops at what ends it. -/
lemma next?_word {w : String} (hw : IsWord w) {cs : List Char} (hcs : EndsWord cs) :
    next? (w.toList ++ cs) = some (.word w, cs) := by
  unfold IsWord at hw
  cases hchars : w.toList with
  | nil => simp [hchars, headTail] at hw
  | cons c rest =>
    rw [hchars, headTail, Bool.and_eq_true, List.all_eq_true] at hw
    obtain ⟨hstart, hgap, hslash⟩ := start_of_isNameChar hw.1
    have hfuel : rest.length < (rest ++ cs).length + 1 := by
      rw [List.length_append]
      omega
    obtain ⟨size, hrest⟩ := scanWord_append hw.2 hcs hfuel
    have hescape : c ≠ '\\' := by
      rintro rfl
      exact absurd hw.1 (by decide)
    have hscan : scanWord true ((rest ++ cs).length + 2) (c :: (rest ++ cs)) =
        some ⟨c :: rest, false, size + c.utf8Size, cs⟩ := by
      rw [scanWord_cons true hescape hstart, hrest]
      rfl
    rw [List.cons_append, next?_cons hgap hslash]
    simp only [scanToken, hstart, Bool.true_or, if_true, hscan, Lexeme.atom?]
    simp [← hchars]

/-- **The dot before the name of a property** is a mark of its own: no name starts with a digit or
another dot.

**Proof sketch.** Of the marks that start with a dot the longer ones go on with a dot, and a number
with a dot in front goes on with a digit. A name starts with neither. -/
lemma next?_dot_word {w : String} (hw : IsWord w) (cs : List Char) :
    next? ('.' :: (w.toList ++ cs)) = some (.punct ".", w.toList ++ cs) := by
  unfold IsWord at hw
  cases hchars : w.toList with
  | nil => simp [hchars, headTail] at hw
  | cons c rest =>
    rw [hchars, headTail, Bool.and_eq_true] at hw
    have hc : c ≠ '.' ∧ isDigit c = false :=
      forall_nameStart (p := fun c => c ≠ '.' ∧ isDigit c = false) (by decide) hw.1
    have hscan : scanPunctuator ('.' :: c :: (rest ++ cs)) =
        ⟨.punct ".", 1, c :: (rest ++ cs)⟩ := by
      simp [scanPunctuator, punctuators, hc.1.symm]
    have htoken : scanToken ((c :: (rest ++ cs)).length + 2) ('.' :: c :: (rest ++ cs)) =
        ⟨.punct ".", 1, c :: (rest ++ cs)⟩ := by
      have hdot : (Text.isIdentifierStart '.' || '.' == '\\') = false := by decide
      have hdigit : isDigit '.' = false := by decide
      simp only [scanToken, hdot, hdigit, hc.2, hscan, Bool.false_eq_true, if_false, if_true]
    rw [List.cons_append, next?_cons (by decide) (by decide), htoken]
    rfl

/-! ## Texts -/

/-- **A text is read back from its literal**, whatever follows. -/
lemma next?_scriptQuote (s : String) (cs : List Char) :
    next? ((Text.scriptQuote s).toList ++ cs) = some (.text s, cs) := by
  obtain ⟨body, hbody⟩ : ∃ body, (Text.scriptQuote s).toList ++ cs = '\x22' :: body :=
    ⟨_, by rw [toList_scriptQuote, List.cons_append]⟩
  have hfuel : s.toList.length < body.length + 2 := by
    have hlong := length_lt_length_scriptQuote s
    have hlength := congrArg List.length hbody
    rw [List.length_append, List.length_cons] at hlength
    omega
  obtain ⟨size, htoken⟩ := scanToken_scriptQuote s cs hfuel
  rw [hbody] at htoken ⊢
  rw [next?_cons (by decide) (by decide), htoken]
  rfl

/-! ## Numerals -/

/-- A number other than zero starts with another digit. -/
lemma head?_toDigits_ne_zero {n : ℕ} (hn : 0 < n) : (Nat.toDigits 10 n).head? ≠ some '0' := by
  induction n using Nat.strongRecOn with
  | _ n ih =>
    by_cases hsmall : n < 10
    · rw [Nat.toDigits_of_lt_base hsmall]
      have hdigits : ∀ k < 10, 0 < k → [Nat.digitChar k].head? ≠ some '0' := by decide
      exact hdigits n hsmall hn
    · have hlead := ih (n / 10) (by omega) (by omega)
      have hne : Nat.toDigits 10 (n / 10) ≠ [] := Nat.toDigits_ne_nil
      rw [Nat.toDigits_of_base_le (by decide) (by omega)]
      cases hdigits : Nat.toDigits 10 (n / 10) with
      | nil => exact absurd hdigits hne
      | cons d ds => simpa [hdigits] using hlead

/-- What ends a number does not go on with it. -/
lemma notNumeral_of_stop {c : Char} (h : c ∈ stopChars) :
    isDigit c = false ∧ c ≠ '_' ∧ c ≠ 'n' ∧ c ≠ '.' ∧ c ≠ 'e' ∧ c ≠ 'E' := by
  rcases mem_stopChars.mp h with rfl | rfl | rfl | rfl | rfl | rfl <;> decide

/-- What ends a number gives it no other base. -/
lemma notRadix_of_stop {c : Char} (h : c ∈ stopChars) :
    ¬(c = 'x' ∨ c = 'X') ∧ ¬(c = 'o' ∨ c = 'O') ∧ ¬(c = 'b' ∨ c = 'B') := by
  rcases mem_stopChars.mp h with rfl | rfl | rfl | rfl | rfl | rfl <;> decide

/-- Digits, then what ends a number. -/
lemma spanDigits_append {ds cs : List Char} (hds : ∀ d ∈ ds, isDigit d = true) (hcs : Stops cs)
    (seen : Bool) : spanDigits isDigit seen (ds ++ cs) = (ds, ds.length, cs) := by
  induction ds generalizing seen with
  | nil =>
    cases cs with
    | nil => rfl
    | cons c cs =>
      obtain ⟨hdigit, hunder, -⟩ := notNumeral_of_stop (hcs c rfl)
      simp [spanDigits, hdigit, hunder]
  | cons d ds ih =>
    obtain ⟨hd, hds⟩ := List.forall_mem_cons.mp hds
    have hunder : d ≠ '_' := by
      rintro rfl
      exact absurd hd (by decide)
    simp [spanDigits, hd, hunder, ih hds]

/-- What ends a number is no fraction and no exponent. -/
lemma scanFraction_scanExponent_of_stops {cs : List Char} (hcs : Stops cs) :
    scanFraction cs = ([], 0, cs) ∧ scanExponent cs = some (0, 0, cs) ∧ ∀ r, cs ≠ 'n' :: r := by
  cases cs with
  | nil => exact ⟨rfl, rfl, by simp⟩
  | cons c cs =>
    obtain ⟨-, -, hbig, hpoint, he, hE⟩ := notNumeral_of_stop (hcs c rfl)
    simp [scanFraction, scanExponent, hbig, hpoint, he, hE]

/-- A decimal number, then what ends it. -/
lemma scanDecimal_toDigits (n : ℕ) {cs : List Char} (hcs : Stops cs) :
    ∃ t size, scanDecimal (Nat.toDigits 10 n ++ cs) = some (t, size, cs) := by
  have hspan := spanDigits_append (fun _ => isDigit_of_mem_toDigits (n := n)) hcs false
  obtain ⟨hfraction, hexponent, hbig⟩ := scanFraction_scanExponent_of_stops hcs
  have hlead : ¬((Nat.toDigits 10 n).length > 1 ∧ (Nat.toDigits 10 n).head? = some '0') := by
    rintro ⟨hlong, hzero⟩
    rcases Nat.eq_zero_or_pos n with rfl | hn
    · simp at hlong
    · exact head?_toDigits_ne_zero hn hzero
  have hne : (Nat.toDigits 10 n).isEmpty = false := by simp [Nat.toDigits_ne_nil]
  unfold scanDecimal
  simp only [hspan, if_neg hlead, hfraction, hexponent, hne]
  exact ⟨_, _, rfl⟩

/-- A number literal, then what ends it.

**Proof sketch.** A leading zero could start a number in another base. Only zero has one, and then
what ends the number follows, which is no letter for a base. -/
lemma scanNumber_toDigits (n : ℕ) {cs : List Char} (hcs : Stops cs) :
    ∃ t size, scanNumber (Nat.toDigits 10 n ++ cs) = some (t, size, cs) := by
  obtain ⟨t, size, hdecimal⟩ := scanDecimal_toDigits n hcs
  refine ⟨t, size, ?_⟩
  unfold scanNumber
  split
  · next m rest hsplit =>
    -- Only zero starts with a zero, so what ends the number comes directly behind.
    have hzero : n = 0 := by
      by_contra hn
      refine head?_toDigits_ne_zero (Nat.pos_of_ne_zero hn) ?_
      cases hdigits : Nat.toDigits 10 n with
      | nil => exact absurd hdigits Nat.toDigits_ne_nil
      | cons d ds => simp_all
    subst hzero
    obtain rfl : cs = m :: rest := (List.cons_eq_cons.mp hsplit).2
    obtain ⟨hx, ho, hb⟩ := notRadix_of_stop (hcs m rfl)
    rw [if_neg hx, if_neg ho, if_neg hb, hdecimal]
  · exact hdecimal

/-- What ends a number is no name. -/
lemma scanNumberToken_toDigits (n : ℕ) {cs : List Char} (hcs : Stops cs) :
    ∃ t size, scanNumberToken (Nat.toDigits 10 n ++ cs) = ⟨.number t, size, cs⟩ := by
  obtain ⟨t, size, hnumber⟩ := scanNumber_toDigits n hcs
  refine ⟨t, size, ?_⟩
  unfold scanNumberToken
  rw [hnumber]
  cases cs with
  | nil => rfl
  | cons c cs =>
    have hname : (Text.isIdentifierStart c || isDigit c || c == '\\') = false := by
      rcases mem_stopChars.mp (hcs c rfl) with rfl | rfl | rfl | rfl | rfl | rfl <;> decide
    simp [hname]

/-- **A numeral is read up to what ends it.**

**Proof sketch.** The first character is a digit, so a number is scanned up to what ends it, and the
characters up to there are the digits. -/
lemma next?_numeral (n : ℕ) {cs : List Char} (hcs : Stops cs) :
    next? ((toString n).toList ++ cs) = some (.number (toString n).toList, cs) := by
  obtain ⟨t, size, htoken⟩ := scanNumberToken_toDigits n hcs
  have hchars : (toString n).toList = Nat.toDigits 10 n := Nat.toList_repr
  rw [hchars]
  cases hdigits : Nat.toDigits 10 n with
  | nil => exact absurd hdigits Nat.toDigits_ne_nil
  | cons d ds =>
    have hd : isDigit d = true := isDigit_of_mem_toDigits (n := n) (by simp [hdigits])
    obtain ⟨hgap, hslash, hstart⟩ := start_of_isDigit hd
    rw [hdigits, List.cons_append] at htoken
    have hscan : scanToken ((ds ++ cs).length + 2) (d :: (ds ++ cs)) = ⟨.number t, size, cs⟩ := by
      simp [scanToken, hstart, hd, htoken]
    have htake : (d :: (ds ++ cs)).take ((d :: (ds ++ cs)).length - cs.length) = d :: ds := by
      rw [← List.cons_append, List.length_append, Nat.add_sub_cancel, List.take_left]
    rw [List.cons_append, next?_cons hgap hslash, hscan]
    simp only [Lexeme.atom?, htake]
    rfl

/-- A minus sign before a numeral is a mark of its own. -/
lemma next?_minus_numeral (n : ℕ) (cs : List Char) :
    next? ('-' :: ((toString n).toList ++ cs)) = some (.punct "-", (toString n).toList ++ cs) := by
  rw [show (toString n).toList = Nat.toDigits 10 n from Nat.toList_repr]
  cases hdigits : Nat.toDigits 10 n with
  | nil => exact absurd hdigits Nat.toDigits_ne_nil
  | cons d ds =>
    have hd : isDigit d = true := isDigit_of_mem_toDigits (n := n) (by simp [hdigits])
    have hminus : d ≠ '-' ∧ d ≠ '=' := by
      constructor <;> rintro rfl <;> exact absurd hd (by decide)
    have hscan : scanPunctuator ('-' :: d :: (ds ++ cs)) = ⟨.punct "-", 1, d :: (ds ++ cs)⟩ := by
      simp [scanPunctuator, punctuators, hminus.1.symm, hminus.2.symm]
    have htoken : scanToken ((d :: (ds ++ cs)).length + 2) ('-' :: d :: (ds ++ cs)) =
        ⟨.punct "-", 1, d :: (ds ++ cs)⟩ := hscan
    rw [List.cons_append, next?_cons (by decide) (by decide), htoken]
    rfl

end StyleExtract.Script
