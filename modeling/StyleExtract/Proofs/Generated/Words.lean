import Mathlib.Tactic.Common
import StyleExtract.Generated.Code
import StyleExtract.Proofs.Name

/-!
# Generated code word by word

A replacement is written as one text. This file takes it apart into words and says of each what it
is there for: which words declare a name, which words refer to one, and whether what they refer to
is meant to come from the generated function itself or from outside. Everything else is fixed
punctuation, quoted text, the name of a property, or source text of the author that is copied as it
stands.

## Main definitions

* `Mark`, `Word` — the words of generated code.
* `Layout` — the words before, in and behind the generated function.
* `Code.layout` — the words of a replacement.

## Main results

* `Code.text_layout` — the words of a replacement make up its text.

## Design

Every part of the text of a replacement (`Render.text`, `DimensionPlan.lookup`, and so on) has a
list of words of its own, so each text lemma is about one part. A `Mark` carries the proof that it
holds no word but keywords, so no name can be hidden in one. -/

namespace StyleExtract

/-! ## Words -/

/-- The keywords of generated code. -/
def codeKeywords : List String := ["let", "return", "typeof", "if", "else", "null"]

/-- Whether all words in a text are keywords. -/
def isMark (s : String) : Bool :=
  (s.toList.splitOnP fun c => !isNameChar c).all fun run =>
    run.isEmpty || codeKeywords.contains (String.ofList run)

/-- Fixed punctuation with keywords in it. -/
structure Mark where
  /-- The text. -/
  text : String
  /-- All words in it are keywords. -/
  valid : isMark text = true

/-- Where a name comes from that is referred to. -/
inductive Origin where
  /-- It is a parameter or a local of the generated function. -/
  | inside
  /-- It is declared in the module around the function, or everywhere. -/
  | outside
  deriving DecidableEq

/-- **A word of generated code.** -/
inductive Word where
  /-- Punctuation and keywords. -/
  | mark (m : Mark)
  /-- The comment that marks a call as free of effects. -/
  | comment
  /-- A text between quotes. -/
  | quoted (s : String)
  /-- A truth value or an integer. -/
  | scalar (k : ScalarKey)
  /-- Source text of the author. -/
  | copied (source : String)
  /-- The name of a property. -/
  | property (x : String)
  /-- A name that is declared. -/
  | binder (x : String)
  /-- A name that is referred to. -/
  | reference (x : String) (origin : Origin)
  /-- A helper that is referred to. -/
  | helper (h : Helper)

/-- The text of a word. -/
def Word.text : Word → String
  | .mark m => m.text
  | .comment => pureMark
  | .quoted s => Text.scriptQuote s
  | .scalar k => k.text
  | .copied source => source
  | .property x | .binder x | .reference x _ => x
  | .helper h => h.alias

/-- The text of words one after the other. -/
def wordsText (ws : List Word) : String := Text.concat (ws.map Word.text)

/-- Words before, in and behind a generated function. -/
structure Layout where
  /-- What stands before the function. -/
  front : List Word
  /-- The function. -/
  function : List Word
  /-- What stands behind the function. -/
  back : List Word

/-- The text of a layout. -/
def Layout.text (l : Layout) : String := wordsText (l.front ++ (l.function ++ l.back))

/-! ## The words of generated code -/

/-- Punctuation and keywords. -/
def mark (s : String) (h : isMark s = true := by decide) : Word := .mark ⟨s, h⟩

/-- A reference to a parameter or a local. -/
def own (x : String) : Word := .reference x .inside

/-- A reference to what is declared outside. -/
def other (x : String) : Word := .reference x .outside

/-- Words between braces with a blank on both sides. -/
def bracedWords (ws : List Word) : List Word := mark "\x7b " :: (ws ++ [mark " \x7d"])

/-- Lists of words with a comma between neighbours. -/
def joinWords : List (List Word) → List Word
  | [] => []
  | [ws] => ws
  | ws :: rest => ws ++ mark ", " :: joinWords rest

/-- The class of what a name stands for. -/
def classOfWords (w : Word) : List Word := [w, mark ".", .property "className"]

/-- The words of a target. -/
def Target.words : Target → List Word
  | .tag t => [.quoted t.text]
  | .component b => [other b.text]

/-- The words of a class expression. -/
def ClassExpr.words : ClassExpr → List Word
  | .literal s => [.quoted s]
  | .gathered => [own classLocal]
  | .classOf b => classOfWords (other b.text)
  | .after b s =>
    .helper .mergeClasses :: mark "(" :: (classOfWords (other b.text) ++
      [mark ", ", .quoted s, mark ")"])

/-- The words of the caller's properties. -/
def Render.spreadWords (r : Render) : List Word :=
  match r.target with
  | .tag _ => [mark "...", .helper .filterProps, mark "(", own r.props.text, mark ")"]
  | .component _ => [mark "...", own r.props.text]

/-- The words of further properties. -/
def Render.attrsWords (r : Render) : List Word :=
  match r.attrs with
  | some source => [mark "...(", .copied source, mark "), "]
  | none => []

/-- The words of the merged classes. -/
def Render.mergedWords (r : Render) : List Word :=
  .helper .mergeClasses :: mark "(" :: (r.className.words ++
    mark ", " :: (classOfWords (own r.props.text) ++ [mark ")"]))

/-- The words of a creation. -/
def Render.words (r : Render) : List Word :=
  .helper .createElement :: mark "(" :: (r.target.words ++ mark ", " ::
    (bracedWords (r.attrsWords ++ (r.spreadWords ++
      mark ", " :: .property "className" :: mark ": " :: r.mergedWords)) ++ [mark ")"]))

/-- The words of the test of a branch. -/
def ValuePlan.testWords (name : String) (v : ValuePlan) : List Word :=
  own name :: mark " === " :: .quoted v.value.text ::
    match v.key? with
    | some key => [mark " || ", own name, mark " === ", .scalar key]
    | none => []

/-- The words of one branch. -/
def ValuePlan.branchWords (name : String) (keyword : Mark) (v : ValuePlan) : List Word :=
  mark "  " :: .mark keyword :: mark " (" :: (v.testWords name ++
    [mark ") ", own classLocal, mark " += ", .quoted v.suffix, mark ";\n"])

/-- The words of the chain of a dimension. -/
def DimensionPlan.branchesWords (d : DimensionPlan) : List Word :=
  match d.values with
  | [] => []
  | v :: vs =>
    v.branchWords d.name.text ⟨"if", by decide⟩ ++
      vs.flatMap (ValuePlan.branchWords d.name.text ⟨"else if", by decide⟩)

/-- The words of the look-up of a dimension in a table. -/
def DimensionPlan.lookupWords (table : String) (d : DimensionPlan) : List Word :=
  let name := d.name.text
  [mark "  ", own classLocal, mark " += (typeof ", own name, mark " === ", .quoted "string",
    mark " || typeof ", own name, mark " === ", .quoted "boolean", mark " || ", other "Number",
    mark ".", .property "isSafeInteger", mark "(", own name, mark ")) && ", other table, mark ".",
    .property name, mark "[", own name, mark "] || ", .quoted "", mark ";\n"]

/-- The words of the statements that gather classes. -/
def Lookup.words (plan : Plan) : Lookup → List Word
  | .branches => plan.dimensions.flatMap DimensionPlan.branchesWords
  | .table name => plan.inhabited.flatMap (DimensionPlan.lookupWords name.text)

/-- The words of the parameters of a resolver, one list for each. -/
def Plan.paramWords (p : Plan) : List (List Word) :=
  p.dimensions.map fun d => .binder d.name.text ::
    match d.default with
    | some v => [mark " = ", .quoted v.text]
    | none => []

/-- The words of the parameter of a resolver that is no component. -/
def Plan.patternWords (p : Plan) : List Word :=
  match p.paramWords with
  | [] => [.binder "_"]
  | ps => bracedWords (joinWords ps)

/-- The words of the body of a resolver. -/
def bodyWords (plan : Plan) (lookup : Lookup) (result : List Word) : List Word :=
  mark "\x7b\n  let " :: .binder classLocal :: mark " = " :: .quoted plan.base :: mark ";\n" ::
    (lookup.words plan ++ mark "  return " :: (result ++ [mark ";\n\x7d"]))

/-- The layout of a callable that also shows its class and its name. -/
def exposingLayout (callable className : List Word) (display : String) : Layout where
  front := [.comment, other "Object", mark ".", .property "assign", mark "("]
  function := callable
  back := mark ", " :: (bracedWords (.property "className" :: mark ": " :: (className ++
    [mark ", ", .property "displayName", mark ": ", .quoted display])) ++ [mark ")"])

/-- **The words of a replacement.** -/
def Code.layout : Code → Layout
  | .nothing => ⟨[], [mark "() => null"], []⟩
  | .name s => ⟨[.quoted s], [], []⟩
  | .component render exposed display =>
    exposingLayout (mark "(" :: .binder PropsName.whole.text :: mark ") => " :: render.words)
      exposed.words display
  | .classResolver plan lookup =>
    ⟨[], mark "(" :: (plan.patternWords ++ mark " = \x7b\x7d) => " ::
      bodyWords plan lookup [own classLocal]), []⟩
  | .componentResolver plan lookup target display =>
    let params := joinWords (plan.paramWords ++ [[mark "...", .binder PropsName.others.text]])
    exposingLayout (mark "(" :: (bracedWords params ++ mark ") => " ::
      bodyWords plan lookup (Render.words ⟨target, .others, none, .gathered⟩)))
      [.quoted plan.base] display

/-! ## The text of the words -/

@[simp] lemma wordsText_nil : wordsText [] = "" := rfl

@[simp] lemma wordsText_cons (w : Word) (ws : List Word) :
    wordsText (w :: ws) = w.text ++ wordsText ws := rfl

@[simp] lemma wordsText_append (a b : List Word) :
    wordsText (a ++ b) = wordsText a ++ wordsText b := by
  induction a with
  | nil => simp
  | cons w a ih => simp [ih, String.append_assoc]

@[simp] lemma text_mark (s : String) (h : isMark s = true) : (mark s h).text = s := rfl

@[simp] lemma text_own (x : String) : (own x).text = x := rfl

@[simp] lemma text_other (x : String) : (other x).text = x := rfl

namespace Word

@[simp] lemma text_keyword (m : Mark) : (Word.mark m).text = m.text := rfl

@[simp] lemma text_comment : Word.comment.text = pureMark := rfl

@[simp] lemma text_quoted (s : String) : (Word.quoted s).text = Text.scriptQuote s := rfl

@[simp] lemma text_scalar (k : ScalarKey) : (Word.scalar k).text = k.text := rfl

@[simp] lemma text_copied (s : String) : (Word.copied s).text = s := rfl

@[simp] lemma text_property (x : String) : (Word.property x).text = x := rfl

@[simp] lemma text_binder (x : String) : (Word.binder x).text = x := rfl

@[simp] lemma text_helper (h : Helper) : (Word.helper h).text = h.alias := rfl

end Word

/-- Words of several parts, one after the other. -/
lemma wordsText_flatMap {α : Type} (f : α → List Word) (l : List α) :
    wordsText (l.flatMap f) = Text.concat (l.map fun a => wordsText (f a)) := by
  induction l with
  | nil => rfl
  | cons a l ih => simp [Text.concat, ih]

@[simp] lemma wordsText_bracedWords (ws : List Word) :
    wordsText (bracedWords ws) = braced (wordsText ws) := by
  simp [bracedWords, braced, String.append_assoc]

@[simp] lemma wordsText_joinWords : ∀ parts : List (List Word),
    wordsText (joinWords parts) = Text.join ", " (parts.map wordsText)
  | [] => rfl
  | [_] => rfl
  | a :: b :: parts => by
    simp [joinWords, Text.join, wordsText_joinWords (b :: parts), String.append_assoc]

@[simp] lemma wordsText_target (t : Target) : wordsText t.words = t.text := by
  cases t <;> simp [Target.words, Target.text]

@[simp] lemma wordsText_classOfWords (w : Word) :
    wordsText (classOfWords w) = w.text ++ ".className" := rfl

@[simp] lemma wordsText_classExpr (c : ClassExpr) : wordsText c.words = c.text := by
  cases c with
  | literal s => simp [ClassExpr.words, ClassExpr.text]
  | gathered => simp [ClassExpr.words, ClassExpr.text]
  | classOf b => simp [ClassExpr.words, ClassExpr.text]
  | after b s =>
    apply String.toList_injective
    simp [ClassExpr.words, ClassExpr.text]

/-- The words of a creation make up its text.

**Proof sketch.** What is spread, the attributes of the author and the merged class are put together
in the same order on both sides, so they are compared one by one. -/
@[simp] lemma Render.wordsText_words (r : Render) : wordsText r.words = r.text := by
  have hspread : wordsText r.spreadWords = r.spread := by
    unfold spreadWords spread
    cases r.target with
    | tag t =>
      apply String.toList_injective
      simp
    | component b => simp
  have hattrs : wordsText r.attrsWords = match r.attrs with
      | some source => "...(" ++ source ++ "), "
      | none => "" := by
    unfold attrsWords
    cases r.attrs with
    | none => rfl
    | some source => simp [String.append_assoc]
  have hmerged : wordsText r.mergedWords = Helper.mergeClasses.alias ++ "(" ++
      r.className.text ++ ", " ++ r.props.text ++ ".className)" := by
    apply String.toList_injective
    simp [mergedWords]
  unfold words Render.text
  apply String.toList_injective
  cases hsource : r.attrs <;> simp [hspread, hattrs, hmerged, hsource, braced]

/-- The words of a branch make up its text. -/
lemma ValuePlan.wordsText_branchWords (name : String) (keyword : Mark) (v : ValuePlan) :
    wordsText (v.branchWords name keyword) = v.branch name keyword.text := by
  have htest : wordsText (v.testWords name) = v.test name := by
    unfold testWords test
    cases v.key? <;> simp [String.append_assoc]
  unfold branchWords branch
  apply String.toList_injective
  simp [htest]

/-- The words of a chain make up its text. -/
lemma DimensionPlan.wordsText_branchesWords (d : DimensionPlan) :
    wordsText d.branchesWords = d.branches := by
  unfold branchesWords branches
  cases d.values with
  | nil => rfl
  | cons v vs => simp [wordsText_flatMap, ValuePlan.wordsText_branchWords]

/-- The words of a look-up make up its text. -/
lemma DimensionPlan.wordsText_lookupWords (table : String) (d : DimensionPlan) :
    wordsText (d.lookupWords table) = d.lookup table := by
  have hstring : Text.scriptQuote "string" = "\"string\"" := rfl
  have hboolean : Text.scriptQuote "boolean" = "\"boolean\"" := rfl
  have hempty : Text.scriptQuote "" = "\"\"" := rfl
  unfold lookupWords lookup
  apply String.toList_injective
  simp [hstring, hboolean, hempty]

/-- The words of the statements that gather classes make up their text. -/
lemma Lookup.wordsText_words (plan : Plan) (lookup : Lookup) :
    wordsText (lookup.words plan) = lookup.text plan := by
  cases lookup with
  | branches => simp [words, text, wordsText_flatMap, DimensionPlan.wordsText_branchesWords]
  | table name => simp [words, text, wordsText_flatMap, DimensionPlan.wordsText_lookupWords]

/-- The words of the parameters make up their texts. -/
lemma Plan.map_wordsText_paramWords (p : Plan) : p.paramWords.map wordsText = p.params := by
  unfold paramWords params
  rw [List.map_map]
  refine List.map_congr_left fun d _ => ?_
  cases hd : d.default <;> simp [hd, String.append_assoc]

/-- The words of the body of a resolver make up its text. -/
lemma wordsText_bodyWords (plan : Plan) (lookup : Lookup) (result : List Word) :
    wordsText (bodyWords plan lookup result) = resolverBody plan lookup (wordsText result) := by
  unfold bodyWords resolverBody
  apply String.toList_injective
  simp [lookup.wordsText_words plan]

/-- The layout of a callable that is shown makes up its text. -/
lemma text_exposingLayout (callable className : List Word) (display : String) :
    (exposingLayout callable className display).text =
      exposing (wordsText callable) (wordsText className) display := by
  unfold exposingLayout Layout.text exposing
  apply String.toList_injective
  simp [braced]

/-- **The words of a replacement make up its text.**

**Proof sketch.** One case for each kind of code. The words of a parameter, of a body and of a
creation make up their texts by the lemmas before, and what stands between them is written out on
both sides. -/
theorem Code.text_layout (c : Code) : c.layout.text = c.text := by
  cases c with
  | nothing => rfl
  | name s => simp [layout, Layout.text, text]
  | component render exposed display =>
    have hcallable : wordsText (mark "(" :: .binder PropsName.whole.text :: mark ") => " ::
        render.words) = "(props) => " ++ render.text := by
      apply String.toList_injective
      simp [PropsName.text]
    rw [layout, text_exposingLayout, hcallable, wordsText_classExpr, text]
  | classResolver plan lookup =>
    have hparams := plan.map_wordsText_paramWords
    have hbody := wordsText_bodyWords plan lookup [own classLocal]
    unfold layout Layout.text text
    apply String.toList_injective
    cases hwords : plan.paramWords with
    | nil =>
      rw [hwords, List.map_nil] at hparams
      simp [Plan.patternWords, hwords, ← hparams, hbody]
    | cons ws rest =>
      rw [hwords, List.map_cons] at hparams
      simp [Plan.patternWords, hwords, ← hparams, hbody]
  | componentResolver plan lookup target display =>
    have hbody := wordsText_bodyWords plan lookup
      (Render.words ⟨target, .others, none, .gathered⟩)
    have hrest : wordsText [mark "...", .binder PropsName.others.text] =
        "..." ++ PropsName.others.text := rfl
    rw [layout, text_exposingLayout, text]
    simp only [wordsText_cons, wordsText_append, wordsText_bracedWords, wordsText_joinWords,
      List.map_append, plan.map_wordsText_paramWords, List.map_cons, List.map_nil, hrest, hbody,
      Render.wordsText_words, text_mark, Word.text_quoted, wordsText_nil]
    simp [String.append_assoc]

end StyleExtract
