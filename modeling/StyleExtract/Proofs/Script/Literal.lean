import Mathlib.Data.List.Infix
import Mathlib.Tactic.Common
import StyleExtract.Script.Scan.Token

/-!
# String literals in a text

A string literal stands between two quotes, and its value is what the characters between them spell.
Without escapes they spell themselves, so the value of such a literal stands in the text as it is.

## Main definitions

* `Script.LiteralIn` — some characters stand in a text as a string literal with a value.

## Main results

* `Script.scanText_spec` — what a string literal is made of.
* `Script.LiteralIn.infix_of_notMem` — the value of a literal without escapes stands in the text.
* `Script.exists_literalIn` — a string token is a literal that stands in the text.
-/

namespace StyleExtract.Script

/-- **Some characters stand in a text as a string literal** with a value: between two quotes of one
kind, where the reader of literals gives the value for them. -/
def LiteralIn (text raw : List Char) (value : String) : Prop :=
  ∃ front quote behind, text = front ++ quote :: (raw ++ quote :: behind) ∧
    (quote = '\x22' ∨ quote = '\x27') ∧
    ∃ fuel size, scanText quote fuel (raw ++ quote :: behind) = some ⟨value.toList, size, behind⟩

/-- **What a string literal is made of**: characters and a closing quote. Without escapes the
characters are its value.

**Proof sketch.** Induction along the reader. An escape gives a backslash among the characters, and
any other character is one of the value. -/
lemma scanText_spec {quote : Char} {fuel : ℕ} {cs : List Char} {s : Scanned}
    (h : scanText quote fuel cs = some s) :
    ∃ raw, cs = raw ++ quote :: s.rest ∧ ('\\' ∉ raw → raw = s.cooked) := by
  fun_induction scanText quote fuel cs generalizing s with
  | case1 | case2 => cases h
  | case3 fuel cs =>
    cases h
    exact ⟨[], rfl, fun _ => rfl⟩
  | case4 fuel cs =>
    rename_i ih
    obtain ⟨t, ht, rfl⟩ := Option.map_eq_some_iff.mp h
    obtain ⟨raw, hraw, -⟩ := ih ht
    obtain ⟨escape, hescape⟩ := readEscape_rest_suffix cs
    refine ⟨'\\' :: (escape ++ raw), ?_, fun hnot => absurd List.mem_cons_self hnot⟩
    rw [Scanned.rest_behind, List.cons_append, List.append_assoc, ← hraw, hescape]
  | case5 => cases h
  | case6 => cases h
  | case7 fuel c cs hquote hescape hline ih =>
    obtain ⟨t, ht, rfl⟩ := Option.map_eq_some_iff.mp h
    obtain ⟨raw, hraw, hplain⟩ := ih ht
    refine ⟨c :: raw, by rw [hraw]; rfl, fun hnot => ?_⟩
    rw [hplain fun hmem => hnot (List.mem_cons_of_mem c hmem)]
    rfl

namespace LiteralIn

variable {text raw : List Char} {value : String}

/-- A literal at the end of a text stands in the text. -/
lemma of_suffix {tail : List Char} (h : LiteralIn tail raw value) (htail : tail <:+ text) :
    LiteralIn text raw value := by
  obtain ⟨front, quote, behind, rfl, hquote, hscan⟩ := h
  obtain ⟨before, rfl⟩ := htail
  exact ⟨before ++ front, quote, behind, by simp, hquote, hscan⟩

/-- **The value of a literal without escapes stands in the text.** -/
theorem infix_of_notMem (h : LiteralIn text raw value) (hraw : '\\' ∉ raw) :
    value.toList <:+: text := by
  obtain ⟨front, quote, behind, rfl, hquote, fuel, size, hscan⟩ := h
  obtain ⟨raw', hsplit, hplain⟩ := scanText_spec hscan
  obtain rfl : raw = raw' := List.append_cancel_right hsplit
  rw [← show raw = value.toList from hplain hraw]
  exact ⟨front ++ [quote], quote :: behind, by simp⟩

end LiteralIn

/-- Punctuators are no strings. -/
lemma scanPunctuator_ne_text (cs : List Char) (value : String) :
    (scanPunctuator cs).token ≠ .text value := by
  unfold scanPunctuator
  grind

/-- Numbers are no strings. -/
lemma scanNumberToken_ne_text (cs : List Char) (value : String) :
    (scanNumberToken cs).token ≠ .text value := by
  unfold scanNumberToken
  grind

/-- **A string token is a literal that stands in the text.**

**Proof sketch.** The first character decides which kind of token is read. Only a quote starts a
string token, and all other kinds of tokens are no strings. -/
theorem exists_literalIn {fuel : ℕ} {cs : List Char} {value : String}
    (h : (scanToken fuel cs).token = .text value) : ∃ raw, LiteralIn cs raw value := by
  unfold scanToken at h
  split at h
  · cases h
  · next c rest =>
    split at h
    · split at h <;> cases h
    · split at h
      · exact absurd h (scanNumberToken_ne_text _ _)
      · split at h
        · grind [scanNumberToken_ne_text, scanPunctuator_ne_text]
        · split at h
          · next hquote =>
            split at h
            · next s hscan =>
              obtain ⟨raw, rfl, -⟩ := scanText_spec hscan
              cases h
              exact ⟨raw, [], c, s.rest, rfl, hquote, fuel, s.size, by simp [hscan]⟩
            · cases h
          · split at h
            · grind
            · exact absurd h (scanPunctuator_ne_text _ _)

end StyleExtract.Script
