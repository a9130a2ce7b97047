import Mathlib.Tactic.Common
import StyleExtract.Script.Scan.Token

/-!
# String literals read back

A text of generated code stands between quotes, with escapes for the characters that would end the
literal or the line. The reader of literals undoes the escapes one by one, whatever follows.

## Main definitions

* `Script.ReadsAs` — some characters of a literal are read as one character.
* `Script.escapeEach` — the second of two passes in which a literal can be written.

## Main results

* `Script.readsAs_scriptEscape` — a character is read back from the way in which it is written.
* `Script.scanText_flatMap_scriptEscape` — so is a text, up to its closing quote.
* `Script.scriptQuote_readsBack` — a quoted text is one token that stands on one line, and the same
  in one pass as in two.

## Design

The reader of literals also counts bytes. What it counts plays no role here, so the sizes are left
open.
-/

namespace StyleExtract.Script

open Text (hexDigit hexEscape hexFour? hexValue? jsonEscape jsonQuote scriptEscape scriptQuote)

/-! ## Escapes by hexadecimal digits -/

/-- A hexadecimal digit has its value. -/
lemma hexValue?_hexDigit (n : ℕ) : hexValue? (hexDigit (n % 16)) = some (n % 16) := by
  have hdigits : ∀ k < 16, hexValue? (hexDigit k) = some k := by decide
  exact hdigits _ (Nat.mod_lt _ (by decide))

/-- The four digits of a number have its value. -/
lemma hexFour?_hexDigit {n : ℕ} (h : n < 0x10000) :
    hexFour? (hexDigit (n / 4096 % 16)) (hexDigit (n / 256 % 16)) (hexDigit (n / 16 % 16))
      (hexDigit (n % 16)) = some n := by
  have hvalue : ((n / 4096 % 16 * 16 + n / 256 % 16) * 16 + n / 16 % 16) * 16 + n % 16 = n := by
    omega
  simp [hexFour?, hexValue?_hexDigit, hvalue]

/-- A hexadecimal digit opens no braces. -/
lemma hexDigit_ne_brace (n : ℕ) : hexDigit (n % 16) ≠ '\x7b' := by
  have hdigits : ∀ k < 16, hexDigit k ≠ '\x7b' := by decide
  exact hdigits _ (Nat.mod_lt _ (by decide))

/-- Every character is the one of its code point. -/
lemma isScalar_toNat (c : Char) : isScalar c.toNat = true := by
  have hvalid : c.toNat.isValidChar := c.valid
  simp only [isScalar, Bool.or_eq_true, Bool.and_eq_true, decide_eq_true_eq]
  unfold Nat.isValidChar at hvalid
  omega

/-- Four digits are read as the character that they stand for. -/
lemma readUnicodeEscape_hexDigit {c : Char} (h : c.toNat < 0x10000) (rest : List Char) :
    readUnicodeEscape (hexDigit (c.toNat / 4096 % 16) :: hexDigit (c.toNat / 256 % 16) ::
      hexDigit (c.toNat / 16 % 16) :: hexDigit (c.toNat % 16) :: rest) = ⟨some [c], 4, rest⟩ := by
  unfold readUnicodeEscape
  split
  · next hbrace => exact absurd (List.cons_eq_cons.mp hbrace).1 (hexDigit_ne_brace _)
  · next hdigits =>
    simp only [List.cons.injEq] at hdigits
    obtain ⟨rfl, rfl, rfl, rfl, rfl⟩ := hdigits
    simp [hexFour?_hexDigit h, isScalar_toNat, Char.ofNat_toNat]
  · next hshort => exact absurd rfl (hshort _ _ _ _ _)

/-! ## Literals -/

/-- **Some characters of a literal are read as one character**, whatever follows. -/
def ReadsAs (raw : List Char) (c : Char) : Prop :=
  ∃ size, ∀ fuel rest, scanText '\x22' (fuel + 1) (raw ++ rest) =
    (scanText '\x22' fuel rest).map (·.behind [c] size)

/-- A character is read as it is, unless it ends the literal or the line or begins an escape. -/
lemma ReadsAs.plain {c : Char} (hquote : c ≠ '\x22') (hescape : c ≠ '\\') (hfeed : c ≠ '\n')
    (hreturn : c ≠ '\r') : ReadsAs [c] c := by
  refine ⟨c.utf8Size, fun fuel rest => ?_⟩
  simp [scanText, hquote, hescape, hfeed, hreturn]

/-- An escape by digits is read as the character. -/
lemma ReadsAs.hexEscape {c : Char} (h : c.toNat < 0x10000) : ReadsAs (hexEscape c.toNat) c := by
  refine ⟨6, fun fuel rest => ?_⟩
  simp [Text.hexEscape, scanText, readEscape, readUnicodeEscape_hexDigit h]

/-- **A character is read back** from the way in which it is written.

**Proof sketch.** One case for each line of the rule by which characters are written. -/
theorem readsAs_scriptEscape (c : Char) : ReadsAs (scriptEscape c) c := by
  unfold scriptEscape
  split
  · next hseparator =>
    refine .hexEscape ?_
    rcases hseparator with rfl | rfl <;> decide
  · unfold jsonEscape
    split
    case _ | _ | _ | _ | _ | _ | _ => exact ⟨2, fun fuel rest => rfl⟩
    split
    · next hcontrol => exact .hexEscape (by omega)
    · next hquote hescape _ _ hfeed hreturn _ _ => exact .plain hquote hescape hfeed hreturn

/-- **A text is read back** from what is written between its quotes, and what follows the closing
quote is left.

**Proof sketch.** Induction on the characters of the text, each of which takes one unit of fuel. -/
theorem scanText_flatMap_scriptEscape (cs rest : List Char) {fuel : ℕ} (hfuel : cs.length < fuel) :
    ∃ size, scanText '\x22' fuel (cs.flatMap scriptEscape ++ '\x22' :: rest) =
      some ⟨cs, size, rest⟩ := by
  obtain ⟨fuel, rfl⟩ := Nat.exists_eq_add_one_of_ne_zero (Nat.ne_zero_of_lt hfuel)
  induction cs generalizing fuel with
  | nil => exact ⟨1, rfl⟩
  | cons c cs ih =>
    have hfuel' : cs.length < fuel := by simpa using hfuel
    obtain ⟨fuel, rfl⟩ := Nat.exists_eq_add_one_of_ne_zero (Nat.ne_zero_of_lt hfuel')
    obtain ⟨size, hrest⟩ := ih fuel hfuel'
    obtain ⟨more, hc⟩ := readsAs_scriptEscape c
    refine ⟨size + more, ?_⟩
    rw [List.flatMap_cons, List.append_assoc, hc, hrest]
    rfl

/-- A text is written with at least as many characters as it has. -/
lemma length_le_length_flatMap_scriptEscape (cs : List Char) :
    cs.length ≤ (cs.flatMap scriptEscape).length := by
  have hone : ∀ c, 0 < (scriptEscape c).length := by
    intro c
    unfold scriptEscape jsonEscape
    grind [Text.hexEscape]
  induction cs with
  | nil => simp
  | cons c cs ih =>
    have := hone c
    simp only [List.flatMap_cons, List.length_cons, List.length_append]
    omega

/-! ## Quoted texts -/

/-- The characters of a quoted text. -/
lemma toList_scriptQuote (s : String) :
    (scriptQuote s).toList = '\x22' :: (s.toList.flatMap scriptEscape ++ ['\x22']) := by
  rw [scriptQuote, String.toList_ofList, Text.quoteList]

/-- **A quoted text is one token**, and what follows it is left. -/
theorem scanToken_scriptQuote (s : String) (rest : List Char) {fuel : ℕ}
    (hfuel : s.toList.length < fuel) :
    ∃ size, scanToken fuel ((scriptQuote s).toList ++ rest) = ⟨.text s, size, rest⟩ := by
  obtain ⟨size, hscan⟩ := scanText_flatMap_scriptEscape s.toList rest hfuel
  have hchars : (scriptQuote s).toList ++ rest =
      '\x22' :: (s.toList.flatMap scriptEscape ++ '\x22' :: rest) := by
    simp [toList_scriptQuote]
  have hstart : Text.isIdentifierStart '\x22' = false := by decide
  have hdigit : isDigit '\x22' = false := by decide
  refine ⟨size + 1, ?_⟩
  rw [hchars]
  simp only [scanToken, hstart, hdigit, hscan]
  simp

/-- A quoted text has more characters than the text. -/
lemma length_lt_length_scriptQuote (s : String) :
    s.toList.length < (scriptQuote s).toList.length := by
  have hlong := length_le_length_flatMap_scriptEscape s.toList
  rw [toList_scriptQuote, List.length_cons, List.length_append]
  omega

/-- An escape by digits has no control characters and no line breaks. -/
lemma visible_of_mem_hexEscape {n : ℕ} {d : Char} (h : d ∈ hexEscape n) :
    0x20 ≤ d.toNat ∧ isLineBreak d = false := by
  have hdigits : ∀ k < 16, 0x20 ≤ (hexDigit k).toNat ∧ isLineBreak (hexDigit k) = false := by decide
  have hdigit : ∀ k, 0x20 ≤ (hexDigit (k % 16)).toNat ∧ isLineBreak (hexDigit (k % 16)) = false :=
    fun k => hdigits _ (Nat.mod_lt k (by decide))
  simp only [hexEscape, List.mem_cons, List.not_mem_nil, or_false] at h
  rcases h with rfl | rfl | rfl | rfl | rfl | rfl
  · decide
  · decide
  all_goals exact hdigit _

/-- What is written for a character has no control characters and no line breaks. -/
lemma visible_of_mem_scriptEscape {c d : Char} (h : d ∈ scriptEscape c) :
    0x20 ≤ d.toNat ∧ isLineBreak d = false := by
  unfold scriptEscape at h
  split at h
  · exact visible_of_mem_hexEscape h
  · next hseparator =>
    unfold jsonEscape at h
    split at h
    case h_8 hfeed hreturn _ _ =>
      split at h
      · exact visible_of_mem_hexEscape h
      · next hcontrol =>
        obtain rfl := List.mem_singleton.mp h
        refine ⟨by omega, ?_⟩
        simp_all [isLineBreak]
    all_goals
      simp only [List.mem_cons, List.not_mem_nil, or_false] at h
      rcases h with rfl | rfl <;> decide

/-- **A quoted text stands on one line** and has no control characters. -/
lemma visible_of_mem_scriptQuote {s : String} {d : Char} (h : d ∈ (scriptQuote s).toList) :
    0x20 ≤ d.toNat ∧ isLineBreak d = false := by
  rw [toList_scriptQuote, List.mem_cons, List.mem_append, List.mem_singleton] at h
  rcases h with rfl | h | rfl
  · decide
  · obtain ⟨c, -, hc⟩ := List.mem_flatMap.mp h
    exact visible_of_mem_scriptEscape hc
  · decide

/-- Some characters, with one of them by its digits wherever it occurs. -/
def escapeEach (c : Char) (cs : List Char) : List Char :=
  cs.flatMap fun d => if d = c then hexEscape c.toNat else [d]

/-- Nothing is escaped where the character does not occur. -/
lemma escapeEach_of_notMem {c : Char} {cs : List Char} (h : c ∉ cs) : escapeEach c cs = cs := by
  induction cs with
  | nil => rfl
  | cons d cs ih =>
    rw [List.mem_cons, not_or] at h
    rw [escapeEach, List.flatMap_cons, if_neg (Ne.symm h.1)]
    exact congrArg (d :: ·) (ih h.2)

/-- A character of a script is that of JSON, with the line separators escaped afterwards. -/
lemma escapeEach_jsonEscape (c : Char) :
    escapeEach '\u2029' (escapeEach '\u2028' (jsonEscape c)) = scriptEscape c := by
  by_cases hseparator : c = '\u2028' ∨ c = '\u2029'
  · rcases hseparator with rfl | rfl <;> decide
  · have hjson : scriptEscape c = jsonEscape c := if_neg hseparator
    have hnot : ∀ d, isLineBreak d = true → d ∉ jsonEscape c := by
      intro d hbreak hd
      rw [← hjson] at hd
      rw [(visible_of_mem_scriptEscape hd).2] at hbreak
      cases hbreak
    rw [escapeEach_of_notMem (hnot '\u2028' (by decide)),
      escapeEach_of_notMem (hnot '\u2029' (by decide)), hjson]

/-- **A literal of a script is a JSON string** in which the two line separators are escaped
afterwards.

**Proof sketch.** Both passes work character by character, so they can be put together for each
character, and the quotes at both ends are not touched. -/
lemma toList_scriptQuote_eq_escapeEach (s : String) :
    (scriptQuote s).toList = escapeEach '\u2029' (escapeEach '\u2028' (jsonQuote s).toList) := by
  have hflat : ∀ c (f : Char → List Char) (cs : List Char),
      escapeEach c (cs.flatMap f) = cs.flatMap fun d => escapeEach c (f d) :=
    fun _ _ _ => List.flatMap_assoc
  have hbody : escapeEach '\u2029' (escapeEach '\u2028' (s.toList.flatMap jsonEscape)) =
      s.toList.flatMap scriptEscape := by
    rw [hflat, hflat]
    exact congrArg s.toList.flatMap (funext escapeEach_jsonEscape)
  have happend : ∀ c a b, escapeEach c (a ++ b) = escapeEach c a ++ escapeEach c b :=
    fun _ _ _ => List.flatMap_append
  have hquote : escapeEach '\u2029' (escapeEach '\u2028' ['\x22']) = ['\x22'] := by decide
  have hchars : (jsonQuote s).toList = ['\x22'] ++ (s.toList.flatMap jsonEscape ++ ['\x22']) := by
    rw [jsonQuote, String.toList_ofList, Text.quoteList, List.singleton_append]
  rw [toList_scriptQuote, hchars, happend, happend, happend, happend, hbody, hquote]
  rfl

/-- **Quoted texts are read back.** Whatever the text is and whatever follows its literal, the
reader of tokens takes exactly the literal and gives the text. The literal has no control characters
and none of the four line terminators. It is the literal that two passes give: a JSON string, in
which the two line separators are escaped afterwards.

**Proof sketch.** Each character is written as itself or as an escape, and the scanner of string
literals takes the one or the other for this character (`scanToken_scriptQuote`). What is written is
never a control character or a line terminator, so the two passes and the one agree character by
character. -/
theorem scriptQuote_readsBack (s : String) (rest : List Char) (more : ℕ) :
    (∃ size, scanToken (((scriptQuote s).toList ++ rest).length + more)
      ((scriptQuote s).toList ++ rest) = ⟨.text s, size, rest⟩) ∧
    (∀ c ∈ (scriptQuote s).toList, 0x20 ≤ c.toNat ∧ isLineBreak c = false) ∧
    (scriptQuote s).toList = escapeEach '\u2029' (escapeEach '\u2028' (jsonQuote s).toList) := by
  refine ⟨scanToken_scriptQuote s rest ?_, fun c => visible_of_mem_scriptQuote,
    toList_scriptQuote_eq_escapeEach s⟩
  have hlong := length_lt_length_scriptQuote s
  rw [List.length_append]
  omega

end StyleExtract.Script
