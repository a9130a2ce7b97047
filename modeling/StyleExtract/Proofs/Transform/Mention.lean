import Mathlib.Tactic.Common
import StyleExtract.Proofs.Imports
import StyleExtract.Proofs.Script.Sources
import StyleExtract.Proofs.Text.Cut
import StyleExtract.Proofs.Transform.Exits

/-!
# The text check before parsing

A file is parsed only if its text mentions a source of the authoring functions. The check looks at
the characters of the text, and an import is recognized by the value of a string literal. The two
differ where the literal is written with escapes, and nowhere else.

## Main definitions

* `Imports.IsAuthoring` — an import declaration of the authoring functions.
* `Parser.KeepsSources` — a parser whose imports have their sources in the text as literals.

## Main results

* `Imports.runtime_ofItems_isSome_iff` — the imports of a module have a helper module exactly if one
  of its declarations is of the authoring functions.
* `Options.mem_of_not_isMentioned` — a source that the text does not mention is written with an
  escape.
* `Parser.keepsSources_parseModule?` — the grammar gives such a parser.
* `mention_check_hidden_iff` — when the check makes a difference.
* `escaped_import_missed` — a text where it does.

## Design

Whether the check makes a difference depends on the tree alone, so it is said for any parser. How
the missed imports are written depends on what a parser takes for the source of an import, and this
is asked of it by name.
-/

namespace StyleExtract

open Script (Dialect Import Item LiteralIn Module parseModule?)

/-! ## Imports of the authoring functions -/

namespace Imports

/-- **An import declaration of the authoring functions**: it is not of types only, and its source
provides them. -/
def IsAuthoring (options : Options) (d : Import) : Prop :=
  d.typeOnly = false ∧ (options.runtimeFor? d.source).isSome = true

/-- Named imports do not touch the helper module. -/
lemma runtime_foldl_addName (names : List Script.ImportName) (i : Imports) :
    (names.foldl addName i).runtime = i.runtime := by
  induction names generalizing i with
  | nil => rfl
  | cons n names ih =>
    rw [List.foldl_cons, ih]
    unfold addName
    split
    · rfl
    · split <;> rfl

/-- A declaration sets the helper module if it is of the authoring functions. -/
lemma runtime_add_isSome_iff (options : Options) (i : Imports) (d : Import) :
    (add options i d).runtime.isSome = true ↔ i.runtime.isSome = true ∨ IsAuthoring options d := by
  unfold add IsAuthoring
  cases d.typeOnly with
  | true => simp
  | false => cases options.runtimeFor? d.source <;> simp [runtime_foldl_addName]

/-- **The imports of a module have a helper module** exactly if one of its declarations is of the
authoring functions.

**Proof sketch.** Induction on the declarations: one that is of the authoring functions sets the
helper module, and no other one touches it. -/
lemma runtime_ofItems_isSome_iff (options : Options) (items : List Item) :
    (ofItems options items).runtime.isSome = true ↔
      ∃ span d, Item.import span d ∈ items ∧ IsAuthoring options d := by
  have hfold : ∀ (ds : List Import) (i : Imports),
      (ds.foldl (add options) i).runtime.isSome = true ↔
        i.runtime.isSome = true ∨ ∃ d ∈ ds, IsAuthoring options d := by
    intro ds
    induction ds with
    | nil => simp
    | cons d ds ih => simp [ih, runtime_add_isSome_iff, or_assoc]
  rw [ofItems, hfold]
  simp only [empty, Option.isSome_none, Bool.false_eq_true, false_or, List.mem_filterMap,
    declarationOf?_eq_some_iff]
  constructor
  · rintro ⟨d, ⟨_, hmem, span, rfl⟩, hd⟩
    exact ⟨span, d, hmem, hd⟩
  · rintro ⟨span, d, hmem, hd⟩
    exact ⟨d, ⟨_, hmem, span, rfl⟩, hd⟩

end Imports

/-! ## Mentioned sources -/

/-- A text that has a source of the authoring functions in it mentions it. -/
lemma Options.isMentioned_of_infix {options : Options} {source text : String}
    (hsource : (options.runtimeFor? source).isSome = true) (h : source.toList <:+: text.toList) :
    options.isMentioned text = true := by
  have hoccurs := Text.occursIn_iff.mpr h
  unfold runtimeFor? at hsource
  split at hsource
  · next heq => simp [isMentioned, ← heq, hoccurs]
  · split at hsource
    · next hmem =>
      rw [isMentioned, Bool.or_eq_true, List.any_eq_true]
      exact .inr ⟨source, hmem, hoccurs⟩
    · cases hsource

/-- **A source that the text does not mention is written with an escape.** -/
lemma Options.mem_of_not_isMentioned {options : Options} {source text : String} {raw : List Char}
    (hsource : (options.runtimeFor? source).isSome = true)
    (hliteral : LiteralIn text.toList raw source) (h : options.isMentioned text = false) :
    '\\' ∈ raw := by
  by_contra hraw
  have hmention := isMentioned_of_infix hsource (hliteral.infix_of_notMem hraw)
  simp [h] at hmention

/-! ## Parsers that keep sources -/

/-- **A parser that keeps sources**: the source of every import in a tree is the value of a string
literal of the text. -/
def Parser.KeepsSources (parse : Parser) : Prop :=
  ∀ ⦃dialect source m⦄, parse dialect source = some m → ∀ ⦃span d⦄, Item.import span d ∈ m.items →
    ∃ raw, LiteralIn source.toList raw d.source

/-- **The parser of the grammar keeps sources.** -/
lemma Parser.keepsSources_parseModule? : Parser.KeepsSources parseModule? :=
  fun _ _ _ hparse _ _ hmem => Script.exists_source_literalIn hparse hmem

/-! ## With and without the check -/

section Check

variable (options : Options) (registry : Registry) (source id : String)

/-- A module that imports the authoring functions is never passed over. -/
lemma transformModule_ne_notApplicable {m : Module}
    (h : (Imports.ofItems options m.items).runtime.isSome = true) :
    (transformModule options registry source id (some m)).result ≠ .ok .notApplicable := by
  obtain ⟨runtime, hruntime⟩ := Option.isSome_iff_exists.mp h
  simp only [transformModule, hruntime]
  split
  · rintro ⟨⟩
  · rintro ⟨⟩
  · next found log _ _ =>
    simp only [Report.after, compileModule]
    split
    · rintro ⟨⟩
    · split <;> rintro ⟨⟩

/-- A module without imports of the authoring functions is passed over. -/
lemma transformModule_of_runtime_eq_none {m : Module}
    (h : (Imports.ofItems options m.items).runtime = none) :
    (transformModule options registry source id (some m)).result = .ok .notApplicable ∧
    (transformModule options registry source id (some m)).registry =
      (dropModules registry id .notApplicable).registry := by
  simp only [transformModule, h]
  exact ⟨rfl, rfl⟩

/-- **When the text check makes a difference.** For a text that parses, compiling the file gives the
same result and registry as compiling its tree without the check, exactly if the text is mentioned
or no import of the module is of the authoring functions. This holds for any parser. A parser that
keeps sources, as that of the grammar does, finds every such import in the text as a string literal,
and if the check fails the literals of all of them are written with escapes.

**Proof sketch.** A text that passes the check is compiled from its tree. One that does not is
passed over, and a tree is passed over in the same way exactly if its imports give no helper module
(`transformModule_ne_notApplicable`, `transformModule_of_runtime_eq_none`), which is to say that
none of them is of the authoring functions. A literal without a backslash has the characters of its
value, so a source that is written like this would be mentioned. -/
theorem mention_check_hidden_iff (parse : Parser) {m : Module}
    (hparse : parse (Dialect.ofFile id) source = some m) :
    (((transformFileWith parse options registry source id).result =
        (transformModule options registry source id (some m)).result ∧
      (transformFileWith parse options registry source id).registry =
        (transformModule options registry source id (some m)).registry) ↔
      (options.isMentioned source = false →
        (Imports.ofItems options m.items).runtime = none)) ∧
    ((Imports.ofItems options m.items).runtime = none ↔
      ∀ span d, Item.import span d ∈ m.items → ¬ Imports.IsAuthoring options d) ∧
    (parse.KeepsSources →
      ∀ span d, Item.import span d ∈ m.items → Imports.IsAuthoring options d →
        ∃ raw, LiteralIn source.toList raw d.source ∧
          (options.isMentioned source = false → '\\' ∈ raw)) ∧
    Parser.KeepsSources parseModule? := by
  refine ⟨?_, ?_, ?_, Parser.keepsSources_parseModule?⟩
  · unfold transformFileWith
    cases hmention : options.isMentioned source with
    | true => simp [hparse]
    | false =>
      simp only [Bool.false_eq_true, if_false, forall_const]
      constructor
      · rintro ⟨hresult, -⟩
        by_contra hruntime
        exact transformModule_ne_notApplicable options registry source id
          (Option.isSome_iff_ne_none.mpr hruntime) hresult.symm
      · intro hruntime
        obtain ⟨hresult, hregistry⟩ :=
          transformModule_of_runtime_eq_none options registry source id hruntime
        exact ⟨hresult.symm, hregistry.symm⟩
  · rw [← Option.not_isSome_iff_eq_none, Imports.runtime_ofItems_isSome_iff]
    push Not
    rfl
  · intro hsources span d hmem hd
    obtain ⟨raw, hraw⟩ := hsources hparse hmem
    exact ⟨raw, hraw, Options.mem_of_not_isMentioned hd.2 hraw⟩

end Check

/-- A file that imports an authoring function, by the characters between the quotes. -/
def importingText (raw : String) : String := "import{css}from'" ++ raw ++ "';const b=css`c`"

/-- The text with a hyphen that is an escape parses, its import is of the authoring functions, and
what stands between the quotes has a backslash. -/
theorem mention_check_hidden_sample :
    ∃ m span d, parseModule? (Dialect.ofFile "f.js") (importingText "styled\\x2dstatic") = some m ∧
      Item.import span d ∈ m.items ∧ Imports.IsAuthoring .standard d ∧
      ∃ raw, LiteralIn (importingText "styled\\x2dstatic").toList raw d.source ∧ '\\' ∈ raw := by
  have hruntime : ((parseModule? (Dialect.ofFile "f.js") (importingText "styled\\x2dstatic")).map
      fun m => (Imports.ofItems .standard m.items).runtime.isSome) = some true := by
    decide +kernel
  obtain ⟨m, hparse, hsome⟩ := Option.map_eq_some_iff.mp hruntime
  obtain ⟨span, d, hmem, hd⟩ := (Imports.runtime_ofItems_isSome_iff _ _).mp hsome
  obtain ⟨-, -, hliterals, hsources⟩ :=
    mention_check_hidden_iff .standard .empty _ "f.js" parseModule? hparse
  obtain ⟨raw, hraw, hescape⟩ := hliterals hsources span d hmem hd
  exact ⟨m, span, d, hparse, hmem, hd, raw, hraw, hescape (by decide +kernel)⟩

/-- **An import that the check misses.** The text parses, its import is of the authoring functions
and compiling its tree gives a style module, but the file is passed over. -/
theorem escaped_import_missed :
    Options.standard.isMentioned (importingText "styled\\x2dstatic") = false ∧
    (transformFile .standard .empty (importingText "styled\\x2dstatic") "f.js").result =
      .ok .notApplicable ∧
    ∃ m out, parseModule? (Dialect.ofFile "f.js") (importingText "styled\\x2dstatic") = some m ∧
      (Imports.ofItems .standard m.items).runtime = some "styled-static/runtime" ∧
      (transformModule .standard .empty (importingText "styled\\x2dstatic") "f.js"
        (some m)).result = .ok (.transformed out) ∧
      out.cssModules = ["virtual:styled-static/f.js/0.css"] := by
  have htree : ((parseModule? (Dialect.ofFile "f.js") (importingText "styled\\x2dstatic")).map
      fun m => ((Imports.ofItems .standard m.items).runtime,
        match (transformModule .standard .empty (importingText "styled\\x2dstatic") "f.js"
          (some m)).result with
        | .ok (.transformed out) => some out.cssModules
        | _ => none)) =
      some (some "styled-static/runtime", some ["virtual:styled-static/f.js/0.css"]) := by
    decide +kernel
  obtain ⟨m, hparse, hpair⟩ := Option.map_eq_some_iff.mp htree
  obtain ⟨hruntime, hout⟩ := Prod.mk.inj hpair
  split at hout
  · next out hresult =>
    exact ⟨by decide +kernel, by decide +kernel, m, out, hparse, hruntime, hresult,
      Option.some.inj hout⟩
  · cases hout

end StyleExtract
