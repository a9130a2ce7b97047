import Mathlib.Data.List.TakeWhile
import Mathlib.Tactic.Common
import StyleExtract.Proofs.Text.Cut
import StyleExtract.StyleRule

/-!
# Rules read back from their text

The styles of a construct are registered as one text, its rules one a line. This file reads the
selectors out of such a text, and the classes out of a selector, so that statements about rules can
be made about the text itself.

## Main definitions

* `readSelectors?` — the selectors of the rules of a text whose styles are known.
* `selectorClasses` — the classes that a selector names, each behind a dot.
* `classesUnder?` — the same for classes that all start with a base.
* `readSheet?` — the classes of each rule of a text.

## Main results

* `readSelectors?_text` — the selectors of rules are read back from the text of the rules.
* `selectorClasses_classSelector`, `classesUnder?_classSelector` — so are the classes of selectors.

## Design

Styles are written as the author has them, with all braces and line feeds, so where a rule ends
cannot be seen from the text alone. The readers are told the styles that they have to find, in their
order, and find the selectors by themselves: what stands before the first blank.

A base is any text without a blank. With a dot in it the dots in front of classes cannot be told
from those inside, which is why `classesUnder?` is told the base. Where no class has a dot, both
readers find the classes that are joined. -/

namespace StyleExtract

/-! ## Readers -/

/-- The selector of a rule with known styles, and the text behind the rule. -/
def readRule? (body : String) (cs : List Char) : Option (String × List Char) :=
  (Text.stripList? (" \x7b " ++ body ++ " \x7d").toList (cs.dropWhile (· != ' '))).map
    (String.ofList (cs.takeWhile (· != ' ')), ·)

/-- The selectors of rules with known styles, one rule a line. -/
def readRules? : List String → List Char → Option (List String)
  | [], cs => if cs.isEmpty then some [] else none
  | [body], cs => do
    let (selector, rest) ← readRule? body cs
    if rest.isEmpty then some [selector] else none
  | body :: bodies, cs => do
    let (selector, rest) ← readRule? body cs
    let rest ← Text.stripList? ['\n'] rest
    (readRules? bodies rest).map (selector :: ·)

/-- **The selectors of the rules of a text**, with the styles that it has to have in it. -/
def readSelectors? (bodies : List String) (s : String) : Option (List String) :=
  readRules? bodies s.toList

/-- The classes that a selector names, each behind a dot. -/
def selectorClasses (selector : String) : List String :=
  (Text.piecesList '.' selector.toList).tail.map String.ofList

/-- Classes that start with a base, each behind a dot and up to the next one behind the base. -/
def readClasses? (base : List Char) : ℕ → List Char → Option (List String)
  | _, [] => some []
  | 0, _ :: _ => none
  | n + 1, c :: cs => do
    let rest ← Text.stripList? ('.' :: base) (c :: cs)
    (readClasses? base n (rest.dropWhile (· != '.'))).map
      (String.ofList (base ++ rest.takeWhile (· != '.')) :: ·)

/-- **The classes that a selector names**, where they all start with a base. -/
def classesUnder? (base selector : String) : Option (List String) :=
  readClasses? base.toList selector.toList.length selector.toList

/-- **The classes of each rule of a text**, where they all start with a base and the styles are
known. -/
def readSheet? (base : String) (bodies : List String) (s : String) :
    Option (List (List String)) := do
  let selectors ← readSelectors? bodies s
  selectors.mapM (classesUnder? base)

/-! ## Reading back selectors -/

/-- What stands before the first character of a kind, and what it starts.

**Proof sketch.** None of the characters in front is of the kind, so they are all taken; the next
one is, so it is not. -/
lemma takeWhile_dropWhile_append {c : Char} {a rest : List Char} (ha : c ∉ a)
    (hrest : ∀ x ∈ rest.head?, x = c) :
    (a ++ rest).takeWhile (· != c) = a ∧ (a ++ rest).dropWhile (· != c) = rest := by
  have hall : ∀ x ∈ a, (x != c) = true := fun x hx => by
    rw [bne_iff_ne]
    rintro rfl
    exact ha hx
  have hstop : rest.takeWhile (· != c) = [] ∧ rest.dropWhile (· != c) = rest := by
    cases rest with
    | nil => exact ⟨rfl, rfl⟩
    | cons x rest =>
      obtain rfl := hrest x rfl
      simp
  rw [List.takeWhile_append_of_pos hall, List.dropWhile_append_of_pos hall, hstop.1, hstop.2,
    List.append_nil]
  exact ⟨rfl, rfl⟩

/-- The selector of a rule is read back. -/
lemma readRule?_text {r : StyleRule} (h : ' ' ∉ r.selector.toList) (cs : List Char) :
    readRule? r.body (r.text.toList ++ cs) = some (r.selector, cs) := by
  have hchars : r.text.toList ++ cs =
      r.selector.toList ++ ((" \x7b " ++ r.body ++ " \x7d").toList ++ cs) := by
    simp [StyleRule.text]
  have hblank : ∀ x ∈ ((" \x7b " ++ r.body ++ " \x7d").toList ++ cs).head?, x = ' ' := by
    simp
  obtain ⟨htake, hdrop⟩ := takeWhile_dropWhile_append h hblank
  rw [readRule?, hchars, htake, hdrop, Text.stripList?_eq_some_iff.mpr rfl, Option.map_some,
    String.ofList_toList]

/-- **The selectors of rules are read back from the text of the rules.**

**Proof sketch.** Induction on the rules. No selector has a blank, so it ends at the first one;
behind it stand the styles that are known, and then the line feed before the other rules. -/
theorem readSelectors?_text {rules : List StyleRule} (h : ∀ r ∈ rules, ' ' ∉ r.selector.toList) :
    readSelectors? (rules.map StyleRule.body) (Text.join "\n" (rules.map StyleRule.text)) =
      some (rules.map StyleRule.selector) := by
  unfold readSelectors?
  induction rules with
  | nil => rfl
  | cons r rules ih =>
    obtain ⟨hr, hrules⟩ := List.forall_mem_cons.mp h
    have hmore := ih hrules
    cases rules with
    | nil =>
      have hread := readRule?_text hr []
      rw [List.append_nil] at hread
      simp [Text.join, readRules?, hread]
    | cons r' rules =>
      have hchars : (Text.join "\n" ((r :: r' :: rules).map StyleRule.text)).toList =
          r.text.toList ++
            '\n' :: (Text.join "\n" ((r' :: rules).map StyleRule.text)).toList := by
        simp [Text.join]
      have hfeed : ∀ cs, Text.stripList? ['\n'] ('\n' :: cs) = some cs := fun _ => rfl
      rw [hchars]
      simp only [List.map_cons] at hmore ⊢
      simp only [readRules?, readRule?_text hr, hfeed, hmore, Option.bind_eq_bind, Option.bind_some,
        Option.map_some]

/-! ## Reading back classes -/

/-- The classes that a selector joins are those that it names. -/
lemma selectorClasses_classSelector {cs : List String} (h : ∀ c ∈ cs, '.' ∉ c.toList) :
    selectorClasses (classSelector cs) = cs := by
  have hlist : (classSelector cs).toList = ['.'].intercalate ([] :: cs.map String.toList) := by
    rw [classSelector, Text.toList_concat, Text.intercalate_cons, List.flatMap_map,
      List.flatMap_map]
    simp
  have hparts : ∀ a ∈ [] :: cs.map String.toList, '.' ∉ a := by
    simpa using h
  rw [selectorClasses, hlist, Text.piecesList_intercalate (by simp) hparts]
  simp [Function.comp_def]

/-- The characters of a selector. -/
lemma toList_classSelector_cons (c : String) (cs : List String) :
    (classSelector (c :: cs)).toList = '.' :: (c.toList ++ (classSelector cs).toList) := by
  simp [classSelector, Text.concat]

/-- A selector starts with a dot, if with anything. -/
lemma head?_classSelector (cs : List String) : ∀ x ∈ (classSelector cs).toList.head?, x = '.' := by
  cases cs with
  | nil => simp [classSelector, Text.concat]
  | cons c cs => simp [toList_classSelector_cons]

/-- **The classes of a selector are read back**, where behind the base they have no dots.

**Proof sketch.** Induction on the classes: behind the dot and the base, a class reaches up to the
dot of the next one. -/
theorem classesUnder?_classSelector (base : String) {ws : List String}
    (h : ∀ w ∈ ws, '.' ∉ w.toList) :
    classesUnder? base (classSelector (ws.map (base ++ ·))) = some (ws.map (base ++ ·)) := by
  suffices hread : ∀ n, (classSelector (ws.map (base ++ ·))).toList.length ≤ n →
      readClasses? base.toList n (classSelector (ws.map (base ++ ·))).toList =
        some (ws.map (base ++ ·)) from hread _ (Nat.le_refl _)
  induction ws with
  | nil =>
    intro n _
    cases n <;> rfl
  | cons w ws ih =>
    intro n hn
    obtain ⟨hw, hws⟩ := List.forall_mem_cons.mp h
    rw [List.map_cons, toList_classSelector_cons, String.toList_append, List.append_assoc] at hn ⊢
    simp only [List.length_cons, List.length_append] at hn
    obtain ⟨n, rfl⟩ := Nat.exists_eq_add_one_of_ne_zero (show n ≠ 0 by omega)
    obtain ⟨htake, hdrop⟩ :=
      takeWhile_dropWhile_append hw (head?_classSelector (ws.map (base ++ ·)))
    have hstrip : Text.stripList? ('.' :: base.toList) ('.' :: (base.toList ++ (w.toList ++
        (classSelector (ws.map (base ++ ·))).toList))) =
          some (w.toList ++ (classSelector (ws.map (base ++ ·))).toList) :=
      Text.stripList?_eq_some_iff.mpr rfl
    have hclass : String.ofList (base.toList ++ w.toList) = base ++ w := by
      apply String.toList_injective
      simp
    simp only [readClasses?, hstrip, htake, hdrop, ih hws n (by omega), hclass, Option.bind_eq_bind,
      Option.bind_some, Option.map_some]

/-- A selector has no blank if its classes have none. -/
lemma blank_notMem_classSelector {cs : List String} (h : ∀ c ∈ cs, ' ' ∉ c.toList) :
    ' ' ∉ (classSelector cs).toList := by
  induction cs with
  | nil => simp [classSelector, Text.concat]
  | cons c cs ih =>
    obtain ⟨hc, hcs⟩ := List.forall_mem_cons.mp h
    rw [toList_classSelector_cons]
    simp [hc, ih hcs]

/-- **The classes of the rules of a text are read back**, where the selectors join classes that
start with a base without a blank, and behind the base have neither dots nor blanks.

**Proof sketch.** A selector has no blank, so it is what stands before the first blank of its rule,
and the known styles tell where the rule ends. Behind the base no class has a dot, so the dots with
the base behind them part the selector into its classes. -/
theorem readSheet?_text {base : String} (hb : ' ' ∉ base.toList) {rules : List StyleRule}
    {suffixes : List (List String)}
    (hselectors : rules.map StyleRule.selector =
      suffixes.map fun ws => classSelector (ws.map (base ++ ·)))
    (h : ∀ ws ∈ suffixes, ∀ w ∈ ws, '.' ∉ w.toList ∧ ' ' ∉ w.toList) :
    readSheet? base (rules.map StyleRule.body) (Text.join "\n" (rules.map StyleRule.text)) =
      some (suffixes.map fun ws => ws.map (base ++ ·)) := by
  have hblank : ∀ r ∈ rules, ' ' ∉ r.selector.toList := by
    rw [← List.forall_mem_map (P := fun s : String => ' ' ∉ s.toList), hselectors,
      List.forall_mem_map]
    intro ws hws
    refine blank_notMem_classSelector (List.forall_mem_map.mpr fun w hw => ?_)
    simp [hb, (h ws hws w hw).2]
  have hclasses : (suffixes.map fun ws => classSelector (ws.map (base ++ ·))).mapM
      (classesUnder? base) = some (suffixes.map fun ws => ws.map (base ++ ·)) := by
    clear hselectors
    induction suffixes with
    | nil => rfl
    | cons ws suffixes ih =>
      obtain ⟨hws, hsuffixes⟩ := List.forall_mem_cons.mp h
      have hread := classesUnder?_classSelector base fun w hw => (hws w hw).1
      simp [List.mapM_cons, hread, ih hsuffixes]
  simp only [readSheet?, readSelectors?_text hblank, hselectors, hclasses, Option.bind_eq_bind,
    Option.bind_some]

end StyleExtract
