import Mathlib.Data.List.Nodup
import Mathlib.Tactic.Common
import StyleExtract.Proofs.Extraction
import StyleExtract.Proofs.Resolver.Agreement
import StyleExtract.Proofs.StyleSheet

/-!
# Classes and rules of variant definitions

The class text of a selection and the rules of a definition are made apart from each other, and
meet only in the browser. This file shows that they fit: the classes of a class text are the base
and the classes of the selected pairs, a combination applies exactly where all its conditions are
selected, and no class but the base is without its rule.

## Main definitions

* `Text.tokens` — the words of a class text.
* `Variants.selectedPairs` — the pairs that a selection selects.
* `Variants.styles` — the styles of a definition, as they stand in its rules.
* `Variants.baseClasses`, `Variants.pairClasses`, `Variants.compoundClasses` — the classes of rules,
  by the origin of the rules.

## Main results

* `Variants.pairClass_injective` — the class of a pair tells dimension and value.
* `Variants.tokens_classText` — the words of a class text are the base and the classes of the
  selected pairs.
* `Variants.readSheet?_css` — the classes of the rules are read back from the text of a definition.
* `Generator.classes_match_rules` — what generated code computes fits the rules in this text.

## Design

A value may contain hyphens, but a dimension is an identifier and has none. So the first hyphen
behind the base and its two hyphens ends the dimension, whatever the value is.

Rules are read from the text that is registered, and code from the text that is handed out, so what
is compared are the two texts. Where strict code may not bind a dimension there is no class text to
compare, and the statement says so.
-/

namespace StyleExtract

open Script (Host Scope)

/-! ## Words -/

namespace Text

/-- The words of a text, between single spaces. -/
def tokens (s : String) : List String := (piecesList ' ' s.toList).map String.ofList

/-- A word, and more words behind a space each. -/
lemma tokens_concat : ∀ (ws : List String) (w : String), ' ' ∉ w.toList →
    (∀ x ∈ ws, ' ' ∉ x.toList) → tokens (w ++ concat (ws.map (" " ++ ·))) = w :: ws := by
  intro ws
  induction ws with
  | nil =>
    intro w hw _
    simp [tokens, concat, piecesList_of_notMem _ hw]
  | cons x ws ih =>
    intro w hw h
    have hrest := ih x (h x (by simp)) fun y hy => h y (by simp [hy])
    have hlist : (w ++ concat ((x :: ws).map (" " ++ ·))).toList =
        w.toList ++ ' ' :: (x ++ concat (ws.map (" " ++ ·))).toList := by
      simp [concat]
    rw [tokens, hlist, piecesList_append _ _ hw, List.map_cons, ← hrest]
    simp [tokens]

end Text

/-! ## Characters of names -/

/-- All characters pass the second of two rules that the first one follows from. -/
lemma all_of_headTail {first next : Char → Bool} (h : ∀ c, first c = true → next c = true)
    {cs : List Char} (hcs : headTail first next cs = true) : ∀ c ∈ cs, next c = true := by
  cases cs with
  | nil => simp
  | cons x xs =>
    rw [headTail, Bool.and_eq_true, List.all_eq_true] at hcs
    intro c hc
    rcases List.mem_cons.mp hc with rfl | hc
    · exact h c hcs.1
    · exact hcs.2 c hc

/-- A character that breaks a rule is not among characters that follow it. -/
lemma notMem_of_forall {rule : Char → Bool} {cs : List Char} (h : ∀ c ∈ cs, rule c = true)
    {c : Char} (hc : rule c = false) : c ∉ cs := by
  intro hmem
  rw [h c hmem] at hc
  cases hc

/-- The characters of a dimension. -/
lemma Name.dimension_chars (d : Dimension) :
    ∀ c ∈ d.text.toList, (isLetter c || isDigit c || c == '_' || c == '$') = true := by
  have hd := d.valid
  simp only [NameKind.accepts, isIdentifier, Bool.and_eq_true] at hd
  refine all_of_headTail (fun c hc => ?_) hd.1.1.1.1
  rw [Bool.or_eq_true, Bool.or_eq_true] at hc
  rcases hc with (hc | hc) | hc <;> simp [hc]

/-- The characters of a value. -/
lemma Name.value_chars (x : Value) :
    ∀ c ∈ x.text.toList, (isLetter c || isDigit c || c == '_' || c == '-') = true := by
  have hx := x.valid
  simp only [NameKind.accepts, isKey, Bool.and_eq_true, List.all_eq_true] at hx
  exact hx.1.2

/-- A dimension has no hyphen. -/
lemma Name.hyphen_notMem_dimension (d : Dimension) : '-' ∉ d.text.toList :=
  notMem_of_forall d.dimension_chars (by decide)

/-! ## Classes of pairs -/

namespace Variants

variable {base : String}

/-- The characters of the class of a pair. -/
lemma toList_pairClass (base : String) (p : Dimension × Value) :
    (pairClass base p).toList =
      base.toList ++ '-' :: '-' :: (p.1.text.toList ++ '-' :: p.2.text.toList) := by
  simp [pairClass, variantClass]

/-- **The class of a pair tells dimension and value.**

**Proof sketch.** Behind the base and two hyphens, the dimension is the first piece between
hyphens, since it has none itself. -/
theorem pairClass_injective (base : String) : Function.Injective (pairClass base) := by
  intro p q h
  have hlist := congrArg String.toList h
  simp only [toList_pairClass, List.append_cancel_left_eq, List.cons.injEq, true_and] at hlist
  have hpieces := congrArg (Text.piecesList '-') hlist
  rw [Text.piecesList_append _ _ p.1.hyphen_notMem_dimension,
    Text.piecesList_append _ _ q.1.hyphen_notMem_dimension] at hpieces
  have hd := (List.cons_eq_cons.mp hpieces).1
  rw [hd] at hlist
  have hx := (List.cons_eq_cons.mp (List.append_cancel_left hlist)).2
  exact Prod.ext (Name.text_injective (String.toList_injective hd))
    (Name.text_injective (String.toList_injective hx))

/-- The class of a pair is longer than the base. -/
lemma pairClass_ne_base (p : Dimension × Value) : pairClass base p ≠ base := by
  intro h
  have hlen := congrArg (fun s : String => s.toList.length) h
  simp only [toList_pairClass, List.length_append, List.length_cons] at hlen
  omega

/-- The class of a pair has the characters of the base and of names only. -/
lemma notMem_pairClass {c : Char} (hb : c ∉ base.toList)
    (hc : (isLetter c || isDigit c || c == '_' || c == '$' || c == '-') = false)
    (p : Dimension × Value) : c ∉ (pairClass base p).toList := by
  simp only [Bool.or_eq_false_iff, beq_eq_false_iff_ne] at hc
  obtain ⟨⟨⟨⟨hletter, hdigit⟩, hscore⟩, hdollar⟩, hhyphen⟩ := hc
  have hd : c ∉ p.1.text.toList :=
    notMem_of_forall p.1.dimension_chars (by simp [hletter, hdigit, hscore, hdollar])
  have hx : c ∉ p.2.text.toList :=
    notMem_of_forall p.2.value_chars (by simp [hletter, hdigit, hscore, hhyphen])
  simp [toList_pairClass, hb, hd, hx, hhyphen]

/-! ## Words of class texts -/

/-- The pairs that a selection selects. -/
def selectedPairs (v : Variants) (selection : String → Script.Value) : List (Dimension × Value) :=
  v.pairs.filter fun p => v.Selects selection p.1 p.2

/-- The class text of a selection lists the classes of the selected pairs.

**Proof sketch.** Walking through all values and taking those that are selected is the same as
filtering the pairs first. Induction on the values of one dimension, then on the dimensions. -/
lemma classText_eq (v : Variants) (selection : String → Script.Value) (base : String) :
    v.classText selection base =
      base ++ Text.concat (((v.selectedPairs selection).map (pairClass base)).map (" " ++ ·)) := by
  have hvalues : ∀ (d : Dimension) (xs : List Value),
      Text.concat (xs.map fun x =>
        if v.Selects selection d x then " " ++ variantClass base d.text x.text else "") =
      Text.concat (((((xs.map fun x => (d, x)).filter fun p => v.Selects selection p.1 p.2)).map
        (pairClass base)).map (" " ++ ·)) := by
    intro d xs
    induction xs with
    | nil => rfl
    | cons x xs ih => by_cases h : v.Selects selection d x <;> simp [Text.concat, ih, h, pairClass]
  rw [classText, selectedPairs, pairs]
  congr 1
  induction v.values.entries with
  | nil => rfl
  | cons e es ih =>
    obtain ⟨d, vs⟩ := e
    rw [List.map_cons, Text.concat, ih, List.flatMap_cons, List.filter_append, List.map_append,
      List.map_append, Text.concat_append]
    dsimp only
    rw [hvalues d vs.keys]

/-- **The words of a class text are the base and the classes of the selected pairs.** -/
theorem tokens_classText (v : Variants) (selection : String → Script.Value)
    (hb : ' ' ∉ base.toList) :
    Text.tokens (v.classText selection base) =
      base :: (v.selectedPairs selection).map (pairClass base) := by
  rw [classText_eq]
  refine Text.tokens_concat _ base hb fun w hw => ?_
  obtain ⟨p, -, rfl⟩ := List.mem_map.mp hw
  exact notMem_pairClass hb (by decide) p

/-- The class of a declared pair is among the words exactly if the pair is selected. -/
lemma pairClass_mem_tokens {v : Variants} {selection : String → Script.Value}
    (hb : ' ' ∉ base.toList) {p : Dimension × Value} (hp : p ∈ v.pairs) :
    pairClass base p ∈ Text.tokens (v.classText selection base) ↔
      v.Selects selection p.1 p.2 := by
  rw [tokens_classText v selection hb, List.mem_cons,
    List.mem_map_of_injective (pairClass_injective base), selectedPairs, List.mem_filter]
  simp [pairClass_ne_base, hp]

/-! ## Rules by their origin -/

/-- The classes of the rule for every selection, if there is one. -/
def baseClasses (base : String) (v : Variants) : List (List String) :=
  v.baseCss.toList.map fun _ => [base]

/-- The classes of the rules of the pairs: one rule for each, with the class of the pair. -/
def pairClasses (base : String) (v : Variants) : List (List String) :=
  v.pairs.map fun p => [pairClass base p]

/-- The classes that the selector of a combination joins. -/
def compoundClasses (base : String) (c : Compound) : List String :=
  c.conditions.entries.map (pairClass base)

/-- The classes that the selectors of a definition join, rule by rule. -/
def ruleClasses (base : String) (v : Variants) : List (List String) :=
  v.baseClasses base ++ v.pairClasses base ++ v.compounds.map (compoundClasses base)

/-- **The styles of a definition**, as they stand in its rules. -/
def styles (v : Variants) : List String :=
  (v.baseCss.toList ++ v.values.entries.flatMap (fun e => e.2.entries.map Prod.snd) ++
    v.compounds.map Compound.css).map Text.trim

/-- The rules of a definition have its styles between their braces. -/
lemma map_body_rules (base : String) (v : Variants) :
    (v.rules base).map StyleRule.body = v.styles := by
  simp [rules, styles, classRule, List.map_flatMap, Function.comp_def]

/-- The selectors of a definition join the classes of its rules. -/
lemma map_selector_rules (base : String) (v : Variants) :
    (v.rules base).map StyleRule.selector = (v.ruleClasses base).map classSelector := by
  simp [rules, ruleClasses, baseClasses, pairClasses, pairs, classRule, OrderedMap.keys,
    compoundClasses, List.map_flatMap, Function.comp_def]

/-- What the class of a pair has behind the base. -/
def pairSuffix (p : Dimension × Value) : String := "--" ++ p.1.text ++ "-" ++ p.2.text

/-- The class of a pair is the base with something behind it. -/
lemma pairClass_eq (base : String) (p : Dimension × Value) :
    pairClass base p = base ++ pairSuffix p := by
  simp [pairClass, variantClass, pairSuffix, String.append_assoc]

/-- What the class of a pair has behind the base, rule by rule. -/
def ruleSuffixes (v : Variants) : List (List String) :=
  (v.baseCss.toList.map fun _ => [""]) ++ (v.pairs.map fun p => [pairSuffix p]) ++
    v.compounds.map fun c => c.conditions.entries.map pairSuffix

/-- The classes of the rules all start with the base. -/
lemma ruleClasses_eq (base : String) (v : Variants) :
    v.ruleClasses base = v.ruleSuffixes.map (List.map (base ++ ·)) := by
  simp [ruleClasses, ruleSuffixes, baseClasses, pairClasses, compoundClasses, pairClass_eq,
    Function.comp_def]

/-- Behind the base there is neither a dot nor a blank.

**Proof sketch.** What stands behind the base is nothing, or made of a dimension and a value, whose
characters are letters, digits and three signs. -/
lemma notMem_ruleSuffixes {v : Variants} :
    ∀ ws ∈ v.ruleSuffixes, ∀ w ∈ ws, '.' ∉ w.toList ∧ ' ' ∉ w.toList := by
  have hsuffix : ∀ p : Dimension × Value,
      '.' ∉ (pairSuffix p).toList ∧ ' ' ∉ (pairSuffix p).toList := by
    intro p
    have hclass : pairClass "" p = pairSuffix p := by simp [pairClass_eq]
    rw [← hclass]
    exact ⟨notMem_pairClass (by simp) (by decide) p, notMem_pairClass (by simp) (by decide) p⟩
  intro ws hws w hw
  rcases List.mem_append.mp hws with hws | hws
  · rcases List.mem_append.mp hws with hws | hws
    · obtain ⟨css, -, rfl⟩ := List.mem_map.mp hws
      obtain rfl := List.mem_singleton.mp hw
      exact ⟨by simp, by simp⟩
    · obtain ⟨p, -, rfl⟩ := List.mem_map.mp hws
      obtain rfl := List.mem_singleton.mp hw
      exact hsuffix p
  · obtain ⟨c, -, rfl⟩ := List.mem_map.mp hws
    obtain ⟨p, -, rfl⟩ := List.mem_map.mp hw
    exact hsuffix p

/-- **The classes of the rules are read back from the text of a definition**: one rule for the base
if it has styles, one for each pair, one for each combination. -/
theorem readSheet?_css (hb : ' ' ∉ base.toList) (v : Variants) :
    readSheet? base v.styles (v.css base) = some (v.ruleClasses base) := by
  have hselectors : (v.rules base).map StyleRule.selector =
      v.ruleSuffixes.map fun ws => classSelector (ws.map (base ++ ·)) := by
    rw [map_selector_rules, ruleClasses_eq, List.map_map]
    rfl
  rw [← v.map_body_rules base, ruleClasses_eq]
  exact readSheet?_text hb hselectors notMem_ruleSuffixes

/-- No pair stands twice. -/
lemma nodup_pairs (v : Variants) : v.pairs.Nodup := by
  rw [pairs, List.nodup_flatMap]
  constructor
  · intro e _
    exact e.2.nodup.map fun _ _ h => (Prod.mk.inj h).2
  · have hkeys := List.pairwise_map.mp v.values.nodup
    refine hkeys.imp fun {a b} hab p ha hb => hab ?_
    obtain ⟨x, -, rfl⟩ := List.mem_map.mp ha
    obtain ⟨y, -, hy⟩ := List.mem_map.mp hb
    exact (congrArg Prod.fst hy).symm

/-- The class of a declared pair is that of exactly one rule of a pair. -/
lemma count_pairClasses {v : Variants} {p : Dimension × Value} (hp : p ∈ v.pairs) :
    (v.pairClasses base).count [pairClass base p] = 1 := by
  have hinj : Function.Injective fun q => [pairClass base q] := fun q q' h =>
    pairClass_injective base (List.singleton_inj.mp h)
  exact List.count_eq_one_of_mem (v.nodup_pairs.map hinj)
    (List.mem_map_of_mem (f := fun q => [pairClass base q]) hp)

end Variants

/-! ## Generated code and rules -/

/-- **What generated code computes fits the rules**, for a definition that was read from an object
and a base without blanks. The text of the definition reads as rules: at most one for the base, one
with a single class for each declared pair, and one for each combination. The code computes a text
exactly if strict code may bind the dimensions. Let the words be those of a text that it computes.

* The class of a declared pair is among the words exactly if the pair is selected.
* The classes of the rule of a combination are all among the words exactly if all conditions of the
  combination are selected.
* Every word but the base is the class of exactly one rule of a pair.

**Proof sketch.** The words are the base and the classes of the selected pairs
(`Variants.tokens_classText`), and the class of a pair tells the pair. The conditions of a
combination are declared pairs, since the definition was read from an object, so its classes are
among the words if these pairs are selected. -/
theorem Generator.classes_match_rules {f : SourceFile} {kind : VariantKind}
    {properties : List Script.Property} {log log' : List LogEntry} {v : VariantUse}
    (hread : (f.variantDefinition kind properties).run.run log = (.ok v.variants, log'))
    {base : String} (hb : ' ' ∉ base.toList) {g g' : Generator} {r : Replacement}
    (hr : g.variants v base = .ok (r, g')) (host : Host) {outer : Scope}
    (hn : Strategy.choose v.variants g.threshold = .lookupTable → v.variants.SeesNumber outer)
    (selection : String → Script.Value) :
    ∃ onBase onPairs onCompounds,
      readSheet? base v.variants.styles (v.variants.css base) =
        some (onBase ++ onPairs ++ onCompounds) ∧
      (onBase = v.variants.baseCss.toList.map fun _ => [base]) ∧
      (onPairs = v.variants.pairs.map fun p => [variantClass base p.1.text p.2.text]) ∧
      ((∃ s, r.Computes host outer selection s) ↔ v.variants.IsBindable) ∧
      ∀ s, r.Computes host outer selection s →
        (∀ p ∈ v.variants.pairs, variantClass base p.1.text p.2.text ∈ Text.tokens s ↔
          v.variants.Selects selection p.1 p.2) ∧
        List.Forall₂ (fun (c : Compound) (classes : List String) =>
          (∀ k ∈ classes, k ∈ Text.tokens s) ↔
            ∀ p ∈ c.conditions.entries, v.variants.Selects selection p.1 p.2)
          v.variants.compounds onCompounds ∧
        ∀ t ∈ Text.tokens s, t ≠ base → onPairs.count [t] = 1 := by
  have hsound := f.ensures_variantDefinition kind properties log _ log' hread
  have hcomputes := computes_iff hr host hn selection
  refine ⟨v.variants.baseClasses base, v.variants.pairClasses base,
    v.variants.compounds.map (Variants.compoundClasses base), v.variants.readSheet?_css hb, rfl,
    rfl, ?_, ?_⟩
  · exact ⟨fun ⟨s, hs⟩ => ((hcomputes s).mp hs).1, fun h => ⟨_, (hcomputes _).mpr ⟨h, rfl⟩⟩⟩
  · intro s hs
    obtain rfl := ((hcomputes s).mp hs).2
    refine ⟨fun p hp => Variants.pairClass_mem_tokens hb hp, ?_, fun t ht hne => ?_⟩
    · rw [List.forall₂_map_right_iff, List.forall₂_same]
      intro c hc
      rw [Variants.compoundClasses, List.forall_mem_map]
      exact forall₂_congr fun p hp =>
        Variants.pairClass_mem_tokens hb (Variants.mem_pairs.mpr (hsound.conditions c hc p hp))
    · rw [Variants.tokens_classText _ _ hb] at ht
      rcases List.mem_cons.mp ht with rfl | ht
      · exact absurd rfl hne
      · obtain ⟨p, hp, rfl⟩ := List.mem_map.mp ht
        exact Variants.count_pairClasses (List.mem_of_mem_filter hp)

namespace Generator

/-- A file that holds the properties below. -/
def sampleFile : SourceFile where
  id := "a.ts"
  chars := ("\x7bvariants:\x7bsize:\x7b\"2\":'a',\"-1\":'b'\x7d,tone:\x7b\x7d," ++
    "on:\x7btrue:'c'\x7d,align:\x7bleft:'d'\x7d\x7d,defaultVariants:\x7balign:\"left\"\x7d," ++
    "compoundVariants:[\x7bon:\"true\",size:\"-1\",css:'e'\x7d]\x7d").toList
  imports := .empty
  skipLevel := .debug

/-- The properties of `sampleUse`. -/
def sampleProperties : List Script.Property :=
  [.keyValue (.name "variants") (.object ⟨10, 74⟩
      [.keyValue (.name "size") (.object ⟨16, 34⟩
          [.keyValue (.text "2") (.text ⟨21, 24⟩ "a"),
            .keyValue (.text "-1") (.text ⟨30, 33⟩ "b")]),
        .keyValue (.name "tone") (.object ⟨40, 42⟩ []),
        .keyValue (.name "on") (.object ⟨46, 56⟩
          [.keyValue (.name "true") (.text ⟨52, 55⟩ "c")]),
        .keyValue (.name "align") (.object ⟨63, 73⟩
          [.keyValue (.name "left") (.text ⟨69, 72⟩ "d")])]),
    .keyValue (.name "defaultVariants") (.object ⟨91, 105⟩
      [.keyValue (.name "align") (.text ⟨98, 104⟩ "left")]),
    .keyValue (.name "compoundVariants") (.array ⟨123, 154⟩
      [some (.mk false (.object ⟨124, 153⟩
        [.keyValue (.name "on") (.text ⟨128, 134⟩ "true"),
          .keyValue (.name "size") (.text ⟨140, 144⟩ "-1"),
          .keyValue (.name "css") (.text ⟨149, 152⟩ "e")]))])]

/-- A definition with a combination that applies: its table is used, and the words of the class text
are those that the rules speak of. -/
theorem classes_match_rules_sample :
    (sampleFile.variantDefinition .className sampleProperties).run.run [] =
      (.ok sampleUse.variants, []) ∧
    Strategy.choose sampleUse.variants 0 = .lookupTable ∧
    sampleUse.variants.SeesNumber bareScope ∧
    ∃ r g', (Generator.mk "a.ts" 0 0 {}).variants sampleUse "x" = .ok (r, g') ∧
      ∃ s, r.Computes bareHost bareScope sampleSelection s ∧
        "x--size--1" ∈ Text.tokens s ∧ "x--size-2" ∉ Text.tokens s ∧
        readSheet? "x" sampleUse.variants.styles (sampleUse.variants.css "x") =
          some [["x--size-2"], ["x--size--1"], ["x--on-true"], ["x--align-left"],
            ["x--on-true", "x--size--1"]] ∧
        ∀ k ∈ ["x--on-true", "x--size--1"], k ∈ Text.tokens s := by
  have hread : (sampleFile.variantDefinition .className sampleProperties).run.run [] =
      (.ok sampleUse.variants, []) := by
    change (_ : Except Failure Variants × List LogEntry) = _
    decide +kernel
  have hnumber : sampleUse.variants.SeesNumber bareScope := ⟨rfl, by decide⟩
  obtain ⟨⟨r, g'⟩, hr⟩ : ∃ out, (Generator.mk "a.ts" 0 0 {}).variants sampleUse "x" = .ok out :=
    ⟨_, rfl⟩
  have hbase : ' ' ∉ "x".toList := by decide
  obtain ⟨onBase, onPairs, onCompounds, hsheet, honBase, honPairs, hbindable, hfits⟩ :=
    classes_match_rules hread hbase hr bareHost (fun _ => hnumber) sampleSelection
  obtain ⟨s, hs⟩ := hbindable.mpr (by decide)
  obtain ⟨hpairs, hcompounds, -⟩ := hfits s hs
  have hsheet' : readSheet? "x" sampleUse.variants.styles (sampleUse.variants.css "x") =
      some [["x--size-2"], ["x--size--1"], ["x--on-true"], ["x--align-left"],
        ["x--on-true", "x--size--1"]] := by decide +kernel
  -- what is left of the rules when those of the pairs are taken off is the rule of the combination
  have honCompounds : onCompounds = [["x--on-true", "x--size--1"]] := by
    rw [hsheet', honBase, honPairs] at hsheet
    have happend : [["x--size-2"], ["x--size--1"], ["x--on-true"], ["x--align-left"]] ++
        [["x--on-true", "x--size--1"]] = _ := Option.some.inj hsheet
    exact (List.append_cancel_left happend).symm
  have hone : "x--size--1" ∈ Text.tokens s :=
    (hpairs (⟨"size", by decide⟩, ⟨"-1", by decide⟩) (by decide)).mpr (by decide)
  refine ⟨hread, by decide, hnumber, r, g', hr, s, hs, hone, ?_, hsheet', ?_⟩
  · exact fun h => absurd ((hpairs (⟨"size", by decide⟩, ⟨"2", by decide⟩) (by decide)).mp h)
      (by decide)
  · rw [honCompounds] at hcompounds
    obtain ⟨hcompound, -⟩ := List.forall₂_cons.mp hcompounds
    exact hcompound.mpr (by decide)

/-- A file with an object that has the dimension `eval`. -/
def evalFile : SourceFile where
  id := "f.js"
  chars := "\x7bvariants:\x7beval:\x7bw:'q'\x7d\x7d\x7d".toList
  imports := .empty
  skipLevel := .debug

/-- The properties of this object. -/
def evalProperties : List Script.Property :=
  [.keyValue (.name "variants") (.object ⟨10, 24⟩
    [.keyValue (.name "eval") (.object ⟨16, 23⟩ [.keyValue (.name "w") (.text ⟨19, 22⟩ "q")])])]

/-- **A dimension called `eval` has a rule and no code**: its definition is read from an object, its
text has the rule of a pair that is selected, and the code that is handed out computes no class text
in which its class could stand. -/
theorem eval_rule_without_class :
    (evalFile.variantDefinition .className evalProperties).run.run [] =
      (.ok evalUse.variants, []) ∧
    readSheet? "x" evalUse.variants.styles (evalUse.variants.css "x") = some [["x--eval-w"]] ∧
    (∀ p ∈ evalUse.variants.pairs, evalUse.variants.Selects evalSelection p.1 p.2) ∧
    ∃ r g', (Generator.mk "f.js" 4 0 {}).variants evalUse "x" = .ok (r, g') ∧
      ¬ ∃ s, r.Computes bareHost bareScope evalSelection s := by
  obtain ⟨⟨r, g'⟩, hr⟩ : ∃ out, (Generator.mk "f.js" 4 0 {}).variants evalUse "x" = .ok out :=
    ⟨_, rfl⟩
  have hnumber : evalUse.variants.SeesNumber bareScope := ⟨rfl, by decide⟩
  have hillegal : ¬ evalUse.variants.IsBindable := by decide
  refine ⟨?_, by decide +kernel, by decide, r, g', hr, fun ⟨s, hs⟩ => ?_⟩
  · change (_ : Except Failure Variants × List LogEntry) = _
    decide +kernel
  · exact hillegal ((computes_iff hr bareHost (fun _ => hnumber) evalSelection s).mp hs).1

end Generator

end StyleExtract
