import Mathlib.Tactic.Common
import StyleExtract.Name

/-!
# Names of generated code

The names that generated code declares or imports have a common start, which no reserved word has.

## Main definitions

* `isNameChar` — a character that can stand inside a name of generated code.

## Main results

* `accepts_generatedStart_iff` — which names with the common start are accepted.
-/

namespace StyleExtract

/-- A character that can stand inside a name of generated code. -/
def isNameChar (c : Char) : Bool := isLetter c || isDigit c || c == '_' || c == '$'

/-- No reserved word starts as the names of generated code do. -/
lemma generatedStart_append_notMem_reservedWords (s : String) :
    generatedStart ++ s ∉ reservedWords := by
  have hhead : ∀ w ∈ reservedWords, w.toList.head? ≠ some '_' := by decide
  intro h
  exact hhead _ h (by simp [generatedStart])

/-- **Names of generated code**: what follows their common start has only characters of names. -/
lemma accepts_generatedStart_iff (s : String) :
    NameKind.binding.accepts (generatedStart ++ s) = true ↔ s.toList.all isNameChar = true := by
  have hproto : generatedStart ++ s ≠ "__proto__" := by
    intro h
    have hchars := congrArg String.toList h
    simp [generatedStart] at hchars
  have hword := generatedStart_append_notMem_reservedWords s
  have hchars : (generatedStart ++ s).toList = '_' :: (['_', 's', 's', '_'] ++ s.toList) := by
    simp [generatedStart]
  have hnext : (fun c => isLetter c || isDigit c || c == '_' || c == '$') = isNameChar := rfl
  have hrest : (['_', 's', 's', '_'] ++ s.toList).all isNameChar = s.toList.all isNameChar := by
    rw [List.all_append]
    rfl
  simp only [NameKind.accepts, isIdentifier, hchars, headTail, hnext, hrest]
  simp [hproto, hword]

end StyleExtract
