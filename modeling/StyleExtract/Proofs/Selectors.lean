import Mathlib.Tactic.Common
import StyleExtract.Proofs.ClassName
import StyleExtract.Proofs.Generated.Cascade

/-!
# Selectors and the classes behind them

A class is written twice: behind a dot in a style sheet, and between quotes in generated code. Style
sheets take letters, digits, underscores and hyphens without an escape. The prefix, the words of a
class and the values of dimensions have no other characters, but dimensions are identifiers of the
script and may have dollar signs, which end up in the selectors of their values.

## Main definitions

* `isStyleChar` — a character that style sheets take in a name without an escape.
* `Variants.ruledPairs` — the pairs that the rules of a definition speak of.
* `Component.Program.Puts` — a term puts a class on what it creates.

## Main results

* `ClassOwner.isStyleName_name` — the class of a template or a definition is a name of style sheets.
* `Variants.isStyleName_pairClass` — the class of a pair is one exactly if its dimension has no
  dollar sign.
* `Variants.readSelectors?_css` — the selectors of a definition are read back from its text.
* `selectors_are_names_iff` — when all selectors are made of such names, and that the classes are
  those of generated code.

## Design

What is a selector is read off the text that is registered (`readSelectors?`), and what is a class
off a selector (`selectorClasses`), by the dots alone. The classes of a definition have no dots in
them, so these are the classes that were joined.
-/

namespace StyleExtract

open Script (Host Scope)

/-! ## Names of style sheets -/

/-- A character that a name of style sheets has without an escape. -/
def isStyleChar (c : Char) : Bool := isLetter c || isDigit c || c == '_' || c == '-'

/-- A name of style sheets is continued by characters of such names. -/
lemma isStyleName_append {s t : String} (hs : isStyleName s = true) :
    isStyleName (s ++ t) = true ↔ ∀ c ∈ t.toList, isStyleChar c = true := by
  unfold isStyleName at *
  cases hcs : s.toList with
  | nil => simp [hcs, headTail] at hs
  | cons c cs =>
    rw [hcs, headTail, Bool.and_eq_true] at hs
    rw [String.toList_append, hcs, List.cons_append, headTail, List.all_append, hs.1, hs.2,
      Bool.true_and, Bool.true_and, List.all_eq_true]
    rfl

/-- A letter or digit is such a character. -/
lemma isStyleChar_of_isAlphanumeric {c : Char} (h : (isLetter c || isDigit c) = true) :
    isStyleChar c = true := by
  simp [isStyleChar, h]

/-- The characters of a name of style sheets. -/
lemma isStyleChar_of_mem {s : String} (h : isStyleName s = true) :
    ∀ c ∈ s.toList, isStyleChar c = true :=
  all_of_headTail (fun _ hc => isStyleChar_of_isAlphanumeric (by simp [hc])) h

/-- **The class of a template or a definition is a name of style sheets.**

**Proof sketch.** A class is the prefix, a hyphen and a label. The prefix is a name of style sheets
by itself, so what follows it needs to have only the characters of such names. The label is made of
letters and digits, with a hyphen between its two words in development. -/
theorem ClassOwner.isStyleName_name {options : Options} {id : String} {o : ClassOwner} {s : String}
    (h : o.name? (Naming.ofFile options id) = some s) : isStyleName s = true := by
  have hlist := toList_name h
  have hs : s = options.classPrefix.text ++
      String.ofList ('-' :: o.label (Naming.ofFile options id)) := by
    apply String.toList_injective
    rw [hlist, String.toList_append, String.toList_ofList]
    rfl
  have hlabel : ∀ c ∈ o.label (Naming.ofFile options id), isStyleChar c = true := by
    intro c hc
    unfold label at hc
    split at hc
    · rcases List.mem_append.mp hc with hc | hc
      · exact isStyleChar_of_isAlphanumeric (Text.isAlphanumeric_of_mem hc)
      · rcases List.mem_cons.mp hc with rfl | hc
        · rfl
        · exact isStyleChar_of_isAlphanumeric (Text.isAlphanumeric_of_mem hc)
    · exact isStyleChar_of_isAlphanumeric (o.isAlphanumeric_of_mem_digest hc)
  rw [hs, isStyleName_append options.classPrefix.valid, String.toList_ofList]
  intro c hc
  rcases List.mem_cons.mp hc with rfl | hc
  · rfl
  · exact hlabel c hc

/-- A character of a dimension is one of style sheets unless it is a dollar sign. -/
lemma Name.isStyleChar_dimension (d : Dimension) {c : Char} (hc : c ∈ d.text.toList) :
    isStyleChar c = true ↔ c ≠ '$' := by
  constructor
  · rintro h rfl
    exact absurd h (by decide)
  · intro hne
    have h := d.dimension_chars c hc
    simp only [Bool.or_eq_true, beq_iff_eq, hne, or_false] at h
    rcases h with (h | h) | h <;> simp [isStyleChar, h]

/-- **The class of a pair is a name of style sheets** exactly if its dimension has no dollar
sign.

**Proof sketch.** The base is a name of style sheets, so only the characters behind it count. Values
and hyphens have the right ones, and of the characters of a dimension the dollar sign is the only
other one. -/
theorem Variants.isStyleName_pairClass {base : String} (hb : isStyleName base = true)
    (p : Dimension × Value) : isStyleName (pairClass base p) = true ↔ '$' ∉ p.1.text.toList := by
  have hclass : pairClass base p =
      base ++ String.ofList ('-' :: '-' :: (p.1.text.toList ++ '-' :: p.2.text.toList)) := by
    apply String.toList_injective
    rw [toList_pairClass, String.toList_append, String.toList_ofList]
  rw [hclass, isStyleName_append hb, String.toList_ofList]
  constructor
  · intro h hdollar
    exact absurd (h '$' (by simp [hdollar])) (by decide)
  · intro hdollar c hc
    simp only [List.mem_cons, List.mem_append] at hc
    rcases hc with rfl | rfl | hc | rfl | hc
    · rfl
    · rfl
    · exact (p.1.isStyleChar_dimension hc).mpr fun h => hdollar (h ▸ hc)
    · rfl
    · exact p.2.value_chars c hc

/-! ## Classes of selectors -/

namespace Variants

variable {base : String}

/-- The pairs that the rules of a definition speak of: those that it declares, and the conditions of
its combinations. -/
def ruledPairs (v : Variants) : List (Dimension × Value) :=
  v.pairs ++ v.compounds.flatMap fun c => c.conditions.entries

/-- What holds of all classes that selectors join: the base if it has styles, and the classes of the
pairs that the rules speak of. -/
lemma forall_ruleClasses_iff {v : Variants} {P : String → Prop} :
    (∀ cs ∈ v.ruleClasses base, ∀ n ∈ cs, P n) ↔
      (v.baseCss.isSome = true → P base) ∧ ∀ p ∈ v.ruledPairs, P (pairClass base p) := by
  rw [ruleClasses, ruledPairs, List.forall_mem_append, List.forall_mem_append,
    List.forall_mem_append, and_assoc]
  refine and_congr ?_ (and_congr ?_ ?_)
  · cases hcss : v.baseCss <;> simp [baseClasses, hcss]
  · simp only [pairClasses, List.forall_mem_map, List.forall_mem_singleton]
  · simp only [compoundClasses, List.forall_mem_map, List.forall_mem_flatMap]

/-- The selectors of a definition name the classes that they join. -/
lemma selectorClasses_of_mem (hb : '.' ∉ base.toList) {v : Variants} {cs : List String}
    (hcs : cs ∈ v.ruleClasses base) : selectorClasses (classSelector cs) = cs := by
  have hdots : ∀ cs ∈ v.ruleClasses base, ∀ n ∈ cs, '.' ∉ n.toList :=
    forall_ruleClasses_iff.mpr ⟨fun _ => hb, fun p _ => notMem_pairClass hb (by decide) p⟩
  exact selectorClasses_classSelector (hdots cs hcs)

/-- **The selectors of a definition are read back from its text**: they join the classes of its
rules. -/
theorem readSelectors?_css (hb : ' ' ∉ base.toList) (v : Variants) :
    readSelectors? v.styles (v.css base) = some ((v.ruleClasses base).map classSelector) := by
  have hblank : ∀ cs ∈ v.ruleClasses base, ∀ n ∈ cs, ' ' ∉ n.toList :=
    forall_ruleClasses_iff.mpr ⟨fun _ => hb, fun p _ => notMem_pairClass hb (by decide) p⟩
  rw [← v.map_body_rules base, ← v.map_selector_rules base]
  refine readSelectors?_text ?_
  rw [← List.forall_mem_map (P := fun s : String => ' ' ∉ s.toList), map_selector_rules,
    List.forall_mem_map]
  exact fun cs hcs => blank_notMem_classSelector (hblank cs hcs)

/-- What holds of all classes that the selectors of a definition name. -/
lemma forall_selectorClasses_iff (hb : '.' ∉ base.toList) {v : Variants} {P : String → Prop} :
    (∀ s ∈ (v.ruleClasses base).map classSelector, ∀ n ∈ selectorClasses s, P n) ↔
      (v.baseCss.isSome = true → P base) ∧ ∀ p ∈ v.ruledPairs, P (pairClass base p) := by
  rw [List.forall_mem_map, ← forall_ruleClasses_iff]
  exact forall₂_congr fun cs hcs => by rw [selectorClasses_of_mem hb hcs]

end Variants

/-! ## Classes of generated code -/

namespace Component.Program

/-- **A term puts a class on elements**: it is the class itself, or a component that creates its
target, where that and the properties of the author have values, with the class in front of the
caller's. -/
def Puts (p : Program) (file : String) (t : Term) (n : String) : Prop :=
  p.value file t = some (.text n) ∨
  ∃ r exposed display, t = componentTerm r exposed display ∧
    ∀ create props k target attrs, callerClass? props = some k →
      r.target.term.eval p create file (p.inner file props) = some target →
      p.attrsOf r (p.inner file props) = some attrs →
      r.term.eval p create file (p.inner file props) = create target
        (.object (("className", .text (joinClasses [n, k])) :: (p.kept r props ++ attrs)))

/-- A component with a literal class puts it. -/
lemma puts_componentTerm (p : Program) (file n : String) (target : Target) (attrs : Option String)
    (exposed : ClassExpr) (display : String) :
    p.Puts file (componentTerm ⟨target, .whole, attrs, .literal n⟩ exposed display) n :=
  .inr ⟨_, _, _, rfl, fun _ _ _ _ _ hk ht ha => p.eval_render file rfl ht rfl rfl hk ha⟩

end Component.Program

/-- **The code of a template puts its class on elements.** -/
lemma Generator.puts_constructCode {c : Construct} (hc : c.kind ≠ .globalStyle) (n : String)
    (p : Component.Program) (file : String) :
    ∃ t : Component.Term, (constructCode c (some n)).text = t.text ∧ p.Puts file t n := by
  unfold constructCode
  cases hk : c.kind with
  | globalStyle => exact absurd hk hc
  | scopedClass => exact ⟨.quoted n, rfl, .inl rfl⟩
  | keyframes => exact ⟨.quoted n, rfl, .inl rfl⟩
  | element tag => exact ⟨_, (text_componentTerm _ _ _).symm, p.puts_componentTerm _ _ _ _ _ _⟩
  | extension base => exact ⟨_, (text_componentTerm _ _ _).symm, p.puts_componentTerm _ _ _ _ _ _⟩
  | attrs tag source =>
    exact ⟨_, (text_componentTerm _ _ _).symm, p.puts_componentTerm _ _ _ _ _ _⟩

/-! ## Selectors and generated code -/

/-- The rule of a template has its class as its selector. -/
lemma Construct.cssText_eq {c : Construct} (hk : c.kind ≠ .keyframes) (hg : c.kind ≠ .globalStyle)
    (n : String) : c.kind.cssText (some n) c.css = (classRule n c.css).text := by
  unfold ConstructKind.cssText
  cases h : c.kind with
  | keyframes => exact absurd h hk
  | globalStyle => exact absurd h hg
  | element | extension | attrs | scopedClass => rfl

/-- The words that the code of a definition computes are the base and the classes of the selected
pairs. -/
lemma Variants.mem_tokens_classText {v : Variants} {base : String} (hb : ' ' ∉ base.toList)
    (selection : String → Script.Value) (n : String) :
    n ∈ Text.tokens (v.classText selection base) ↔
      n = base ∨ ∃ p ∈ v.pairs, v.Selects selection p.1 p.2 ∧ pairClass base p = n := by
  rw [tokens_classText v selection hb, List.mem_cons, List.mem_map]
  simp only [selectedPairs, List.mem_filter, decide_eq_true_eq, and_assoc]

/-- **When selectors are made of names of style sheets, and where their classes come from.** Let a
file be compiled under some options.

* The rule of a template has the class of the template as its selector. This class is a name of
  style sheets, and the code of the template puts it on elements.
* The selectors that are read from the text of a definition consist of dots and classes. All these
  classes are names of style sheets exactly if no dimension that the rules speak of has a dollar
  sign. The code of the definition computes a class text if strict code may bind the dimensions, and
  such a class stands in it exactly if it is the base or the class of a declared pair that is
  selected.

**Proof sketch.** A class is the prefix and words that are made of letters, digits and hyphens, then
for a pair two names; of the characters of these only the dollar sign of a dimension is none of
style sheets. There is no dot or blank among them, so the selectors are what is read before the
blanks of the text, and the classes are what stands between their dots. -/
theorem selectors_are_names_iff (options : Options) (id : String) :
    (∀ (c : Construct) (n : String), (Naming.ofFile options id).ofConstruct? c = some n →
      c.kind ≠ .keyframes →
      c.kind.cssText (some n) c.css = (classRule n c.css).text ∧
      selectorClasses (classRule n c.css).selector = [n] ∧ isStyleName n = true ∧
      ∀ p : Component.Program, ∃ t : Component.Term,
        (Generator.constructCode c (some n)).text = t.text ∧ p.Puts id t n) ∧
    (∀ (v : VariantUse) (base : String), (Naming.ofFile options id).ofVariants v = base →
      ∃ selectors, readSelectors? v.variants.styles (v.variants.css base) = some selectors ∧
      (∀ s ∈ selectors, s = classSelector (selectorClasses s)) ∧
      ((∀ s ∈ selectors, ∀ n ∈ selectorClasses s, isStyleName n = true) ↔
        ∀ p ∈ v.variants.ruledPairs, '$' ∉ p.1.text.toList) ∧
      ∀ (g : Generator) (code : Replacement) (g' : Generator), g.variants v base = .ok (code, g') →
        ∀ (host : Host) (outer : Scope),
          (Strategy.choose v.variants g.threshold = .lookupTable → v.variants.SeesNumber outer) →
          ∀ selection, ((∃ t, code.Computes host outer selection t) ↔ v.variants.IsBindable) ∧
            ∀ t, code.Computes host outer selection t →
              ∀ s ∈ selectors, ∀ n ∈ selectorClasses s,
                n ∈ Text.tokens t ↔ n = base ∨
                  ∃ p ∈ v.variants.pairs, v.variants.Selects selection p.1 p.2 ∧
                    Variants.pairClass base p = n) := by
  constructor
  · intro c n hn hk
    have hg : c.kind ≠ .globalStyle := by
      intro hg
      simp [Naming.ofConstruct?, hg] at hn
    have hname : isStyleName n = true := ClassOwner.isStyleName_name (o := .construct c) hn
    refine ⟨Construct.cssText_eq hk hg n, ?_, hname, fun p =>
      Generator.puts_constructCode hg n p id⟩
    have hdot : '.' ∉ n.toList := notMem_of_forall (isStyleChar_of_mem hname) (by decide)
    exact selectorClasses_classSelector (by simpa using hdot)
  · intro v base hbase
    have hname : isStyleName base = true :=
      ClassOwner.isStyleName_name (o := .variants v) (congrArg some hbase)
    have hdot : '.' ∉ base.toList := notMem_of_forall (isStyleChar_of_mem hname) (by decide)
    have hblank : ' ' ∉ base.toList := notMem_of_forall (isStyleChar_of_mem hname) (by decide)
    refine ⟨_, v.variants.readSelectors?_css hblank, ?_, ?_, ?_⟩
    · refine List.forall_mem_map.mpr fun cs hcs => ?_
      rw [Variants.selectorClasses_of_mem hdot hcs]
    · rw [Variants.forall_selectorClasses_iff hdot]
      constructor
      · exact fun h p hp => (Variants.isStyleName_pairClass hname p).mp (h.2 p hp)
      · exact fun h => ⟨fun _ => hname, fun p hp =>
          (Variants.isStyleName_pairClass hname p).mpr (h p hp)⟩
    · intro g code g' hg host outer hnumber selection
      have hcomputes := Generator.computes_iff hg host hnumber selection
      refine ⟨⟨fun ⟨t, ht⟩ => ((hcomputes t).mp ht).1, fun h => ⟨_, (hcomputes _).mpr ⟨h, rfl⟩⟩⟩,
        ?_⟩
      intro t ht s _ n _
      rw [((hcomputes t).mp ht).2]
      exact Variants.mem_tokens_classText hblank selection n

/-- A template, and a definition with a combination, in a file whose name has other characters. The
classes of the definition are names, and a selected pair has its class in the class text. -/
theorem selectors_are_names_sample :
    let naming := Naming.ofFile .standard "a b/ü.x.ts"
    let c : Construct := ⟨.attrs ⟨"a", by decide⟩ "\x7b\x7d", "_c$", "d", ⟨0, 0⟩⟩
    let v := Generator.sampleUse
    (naming.ofConstruct? c = some "ss-c-x" ∧
      selectorClasses (classRule "ss-c-x" c.css).selector = ["ss-c-x"] ∧
      ∃ t : Component.Term, (Generator.constructCode c (some "ss-c-x")).text = t.text ∧
        (Sample.program []).Puts "a b/ü.x.ts" t "ss-c-x") ∧
    naming.ofVariants v = "ss-box-x" ∧
    (∃ selectors, readSelectors? v.variants.styles (v.variants.css "ss-box-x") = some selectors ∧
      ∀ s ∈ selectors, ∀ n ∈ selectorClasses s, isStyleName n = true) ∧
    ∃ code g', (Generator.mk "a b/ü.x.ts" 0 0 {}).variants v "ss-box-x" = .ok (code, g') ∧
      ∃ s, code.Computes Generator.bareHost Generator.bareScope Generator.sampleSelection s ∧
        "ss-box-x--size--1" ∈ Text.tokens s := by
  intro naming c v
  have hc : naming.ofConstruct? c = some "ss-c-x" := by decide +kernel
  have hv : naming.ofVariants v = "ss-box-x" := by decide +kernel
  obtain ⟨hconstructs, hvariants⟩ := selectors_are_names_iff .standard "a b/ü.x.ts"
  obtain ⟨-, hclasses, -, hputs⟩ := hconstructs c _ hc (by decide)
  obtain ⟨selectors, hread, -, hnames, hcode⟩ := hvariants v _ hv
  obtain ⟨⟨code, g'⟩, hg⟩ : ∃ out, (Generator.mk "a b/ü.x.ts" 0 0 {}).variants
    Generator.sampleUse "ss-box-x" = .ok out := ⟨_, rfl⟩
  obtain ⟨hbindable, hwords⟩ := hcode _ code g' hg Generator.bareHost Generator.bareScope
    (fun _ => ⟨rfl, by decide⟩) Generator.sampleSelection
  obtain ⟨s, hs⟩ := hbindable.mpr (by decide)
  have hselector : ".ss-box-x--size--1" ∈ selectors := by
    have hlist : readSelectors? v.variants.styles (v.variants.css "ss-box-x") =
        some [".ss-box-x--size-2", ".ss-box-x--size--1", ".ss-box-x--on-true",
          ".ss-box-x--align-left", ".ss-box-x--on-true.ss-box-x--size--1"] := by decide +kernel
    obtain rfl := Option.some.inj (hread.symm.trans hlist)
    decide
  refine ⟨⟨hc, hclasses, hputs _⟩, hv, ⟨selectors, hread, hnames.mpr (by decide)⟩, code, g', hg, s,
    hs, ?_⟩
  refine (hwords s hs _ hselector "ss-box-x--size--1" (by decide +kernel)).mpr (.inr ?_)
  exact ⟨(⟨"size", by decide⟩, ⟨"-1", by decide⟩), by decide, by decide, by decide⟩

/-- A definition whose dimension starts with a dollar sign, as a script may name it. -/
def dollarUse : VariantUse where
  variants :=
    { kind := .className
      target := none
      baseCss := none
      values := .ofList [(⟨"$s", by decide⟩, .ofList [(⟨"m", by decide⟩, "q")])]
      defaults := .empty
      compounds := [] }
  varName := "b"
  span := ⟨0, 0⟩

/-- The dollar sign of an accepted dimension stands in the selector of its value, so the class
behind the dot is no name of style sheets. -/
theorem dollar_sign_in_selector :
    (Naming.ofFile .standard "f.js").ofVariants dollarUse = "ss-b-f" ∧
    dollarUse.variants.css "ss-b-f" = ".ss-b-f--$s-m \x7b q \x7d" ∧
    readSelectors? dollarUse.variants.styles (dollarUse.variants.css "ss-b-f") =
      some [".ss-b-f--$s-m"] ∧
    selectorClasses ".ss-b-f--$s-m" = ["ss-b-f--$s-m"] ∧ isStyleName "ss-b-f--$s-m" = false :=
  ⟨by decide +kernel, by decide +kernel, by decide +kernel, by decide +kernel, by decide +kernel⟩

end StyleExtract
