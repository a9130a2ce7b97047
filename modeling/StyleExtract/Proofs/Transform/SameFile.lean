import Mathlib.Tactic.Common
import StyleExtract.Proofs.Independence
import StyleExtract.Proofs.Registry.Id
import StyleExtract.Proofs.Transform.Exits

/-!
# One file under several ids

The registry brings the ids of a file to one form. The ending of the file and its dialect depend on
that form only. Class names do not: in development they are made from the id as it is given. The
decision whether a file is one to compile looks at the given id as well.

## Main definitions

* `FileId.ending?` — what stands behind the last dot of the path of an id.
* `FileId.isScript`, `FileId.isForeign` — what decides whether a file is one to compile.
* `FileId.letters` — what class names tell of a file.
* `classNames` — the class names of a file.
* `Report.SameButId` — two compilations that differ in the id of the file at most.

## Main results

* `FileId.ending?_normalize` — the one form of an id has its ending.
* `FileId.ofFile_eq_of_normalize_eq` — the dialect depends on the one form only.
* `emitAll_inFile` — the code of constructs does not depend on the id.
* `ids_alike_iff` — when two ids of one file are treated alike.
* `backslash_id_apart` — two ids that are not.

## Design

The parser is a parameter. It is asked for a tree by the dialect and the text, and the dialect of a
file depends on its one form only, so both ids are given the same tree whatever the parser is.
-/

namespace StyleExtract

open Script (Dialect Module parseModule?)

/-! ## Endings -/

namespace FileId

/-- What stands behind the last dot of the path of an id. -/
def ending? (id : String) : Option (List Char) := Text.behindLast? '.' (withoutQuery id).toList

/-- A forward slash for a backslash. -/
def slashed (c : Char) : Char := if c = '\\' then '/' else c

/-- Taking the scheme off a `file:` URL leaves the ending. -/
lemma behindLast?_stripScheme (s : String) :
    Text.behindLast? '.' (stripScheme s).toList = Text.behindLast? '.' s.toList := by
  rcases stripScheme_cases s with ⟨rest, hs, hstrip⟩ | ⟨rest, hs, hstrip⟩ | ⟨-, hstrip⟩
  · rw [hs, hstrip, Text.behindLast?_append (by decide)]
  · rw [hs, hstrip, Text.behindLast?_append (by decide)]
  · rw [hstrip]

/-- Markers in front of an id do not touch its ending. -/
lemma behindLast?_before_dropLeading (id : String) :
    Text.behindLast? '.' (Text.before '?' (Text.dropLeading idMarker id)).toList = ending? id := by
  have hmarkers : ∀ c ∈ id.toList.takeWhile (· == idMarker), c = idMarker := fun c hc => by
    simpa using List.mem_takeWhile_imp hc
  have hsplit : id.toList.takeWhile (· != '?') = id.toList.takeWhile (· == idMarker) ++
      (id.toList.dropWhile (· == idMarker)).takeWhile (· != '?') := by
    conv_lhs => rw [← List.takeWhile_append_dropWhile (p := (· == idMarker)) (l := id.toList)]
    refine List.takeWhile_append_of_pos fun c hc => ?_
    rw [hmarkers c hc]
    decide
  have hdot : '.' ∉ id.toList.takeWhile (· == idMarker) := fun h =>
    absurd (hmarkers _ h) (by decide)
  simp only [ending?, withoutQuery, Text.before, Text.dropLeading, String.toList_ofList]
  rw [hsplit, Text.behindLast?_append hdot]

/-- **The one form of an id has its ending**, with slashes for backslashes. -/
lemma ending?_normalize (id : String) :
    ending? (normalize id) = (ending? id).map (List.map slashed) := by
  have hdot : ∀ c, slashed c = '.' ↔ c = '.' := by
    intro c
    unfold slashed
    split
    · next hc => simp [hc]
    · rfl
  rw [ending?, withoutQuery, Text.before_of_not_mem (question_not_mem_normalize id), normalize,
    behindLast?_stripScheme, Text.replaceChar, String.toList_ofList,
    show (fun c => if c = '\\' then '/' else c) = slashed from rfl, Text.behindLast?_map hdot,
    behindLast?_before_dropLeading]

/-- No word comes from another by slashes for backslashes. -/
lemma map_slashed_eq_iff {w : List Char} (hslash : '/' ∉ w) (hback : '\\' ∉ w) (e : List Char) :
    e.map slashed = w ↔ e = w := by
  induction e generalizing w with
  | nil => rfl
  | cons c e ih =>
    cases w with
    | nil => simp
    | cons x w =>
      rw [List.mem_cons, not_or] at hslash hback
      have hhead : slashed c = x ↔ c = x := by
        unfold slashed
        split
        · next hc => simp [hc, hslash.1, hback.1]
        · rfl
      rw [List.map_cons, List.cons.injEq, List.cons.injEq, hhead, ih hslash.2 hback.2]

variable {a b : String}

/-- Ids of one file have the same word for an ending. -/
lemma ending?_eq_some_iff_of_normalize_eq (h : normalize a = normalize b) {w : List Char}
    (hslash : '/' ∉ w) (hback : '\\' ∉ w) : ending? a = some w ↔ ending? b = some w := by
  have hform : ∀ id, ending? (normalize id) = some w ↔ ending? id = some w := by
    intro id
    rw [ending?_normalize, Option.map_eq_some_iff]
    simp only [map_slashed_eq_iff hslash hback, exists_eq_right]
  rw [← hform a, ← hform b, h]

/-- Whether a file has an ending of scripts. -/
def isScript (id : String) : Bool :=
  (ending? id).any fun e => scriptEndings.contains (String.ofList e)

/-- Whether an id is that of a virtual module or of a file that belongs to a package. -/
def isForeign (id : String) : Bool :=
  VirtualId.recognizes id || Text.occursIn "/node_modules/" id

/-- A file is one to compile if it is a script and not foreign. -/
lemma handles_eq (id : String) : Session.handles id = (!isForeign id && isScript id) := by
  unfold Session.handles isForeign isScript ending? Text.behindLast? Text.splitLast?
  rw [Bool.not_or]
  cases Text.splitLastList? '.' (withoutQuery id).toList <;> rfl

/-- A script has one of the endings. -/
lemma isScript_iff (id : String) :
    isScript id = true ↔ ∃ w ∈ scriptEndings, ending? id = some w.toList := by
  unfold isScript
  cases ending? id with
  | none => simp
  | some e =>
    rw [Option.any_some, List.contains_iff_mem]
    constructor
    · intro h
      exact ⟨_, h, by rw [String.toList_ofList]⟩
    · rintro ⟨w, hw, he⟩
      rwa [Option.some.inj he, String.ofList_toList]

/-- Whether a file is a script depends on its one form only. -/
lemma isScript_eq_of_normalize_eq (h : normalize a = normalize b) : isScript a = isScript b := by
  have hwords : ∀ w ∈ scriptEndings, '/' ∉ w.toList ∧ '\\' ∉ w.toList := by decide
  rw [Bool.eq_iff_iff, isScript_iff, isScript_iff]
  refine exists_congr fun w => and_congr_right fun hw => ?_
  exact ending?_eq_some_iff_of_normalize_eq h (hwords w hw).1 (hwords w hw).2

/-- A path ends in a dot and a word exactly if this is its ending. -/
lemma endsWith_iff_ending? {w : String} (hw : '.' ∉ w.toList) (id : String) :
    Text.endsWith ("." ++ w) (withoutQuery id) = true ↔ ending? id = some w.toList := by
  rw [Text.endsWith_iff, ending?, Text.behindLast?_eq_some_iff hw, String.toList_append]
  rfl

/-- **The dialect of a file depends on its one form only.**

**Proof sketch.** The dialect is told by four endings, and none of them has a slash or a backslash
in it, so whether an id has one of them depends on its one form only. -/
lemma ofFile_eq_of_normalize_eq (h : normalize a = normalize b) :
    Dialect.ofFile a = Dialect.ofFile b := by
  have hends : ∀ w ∈ ["ts", "mts", "cts", "tsx"], Text.endsWith ("." ++ w) (withoutQuery a) =
      Text.endsWith ("." ++ w) (withoutQuery b) := by
    have hwords : ∀ w ∈ ["ts", "mts", "cts", "tsx"],
        '.' ∉ w.toList ∧ '/' ∉ w.toList ∧ '\\' ∉ w.toList := by decide
    intro w hw
    obtain ⟨hdot, hslash, hback⟩ := hwords w hw
    rw [Bool.eq_iff_iff, endsWith_iff_ending? hdot, endsWith_iff_ending? hdot]
    exact ending?_eq_some_iff_of_normalize_eq h hslash hback
  unfold Dialect.ofFile
  dsimp only
  rw [show Text.endsWith ".ts" _ = _ from hends "ts" (by decide),
    show Text.endsWith ".mts" _ = _ from hends "mts" (by decide),
    show Text.endsWith ".cts" _ = _ from hends "cts" (by decide),
    show Text.endsWith ".tsx" _ = _ from hends "tsx" (by decide)]
  rfl

end FileId

/-! ## Class names -/

/-- What class names tell of a file: the letters and digits of the stem of its id. -/
def FileId.letters (id : String) : String :=
  Text.alphanumeric ((Text.fileStem? (withoutQuery id)).getD "")

namespace Naming

/-- The class of a construct, if it has one. -/
def className? (n : Naming) : Declaration → Option String
  | .construct c => n.ofConstruct? c
  | .variants v => some (n.ofVariants v)
  | .renderAs _ => none

variable (options : Options) {a b : String} (d : Declaration)

/-- Class names tell nothing of a file but its letters. -/
lemma ofFile_eq_of_letters_eq (h : FileId.letters a = FileId.letters b) :
    ofFile options a = ofFile options b := by
  unfold ofFile
  rw [show Text.alphanumeric ((Text.fileStem? (withoutQuery a)).getD "") = _ from h]
  rfl

/-- In production class names do not tell the file. -/
lemma className?_of_production (h : options.mode = .production) :
    (ofFile options a).className? d = (ofFile options b).className? d := by
  cases d with
  | construct c => simp only [className?, ofConstruct?, ofFile, h, hashed]
  | variants v => simp only [className?, ofVariants, ofFile, h, hashed]
  | renderAs r => simp only [className?]

/-- Which constructs have a class does not depend on the file. -/
lemma className?_eq_none_iff :
    (ofFile options a).className? d = none ↔ (ofFile options b).className? d = none := by
  cases d with
  | construct c =>
    simp only [className?, ofConstruct?, ofFile]
    cases c.kind <;> cases options.mode <;> simp only [reduceCtorEq]
  | variants v => simp only [className?, reduceCtorEq]
  | renderAs r => simp only [className?]

/-- In development a class name tells the letters of the file.

**Proof sketch.** In development a class is the prefix, the variable and the letters of the file.
The first two are the same for both ids, so they can be taken off. -/
lemma letters_eq_of_className?_eq {s : String} (hmode : options.mode = .development)
    (ha : (ofFile options a).className? d = some s)
    (hb : (ofFile options b).className? d = some s) :
    FileId.letters a = FileId.letters b := by
  have hreadable : ∀ {x : String}, (ofFile options a).readable x = s →
      (ofFile options b).readable x = s → FileId.letters a = FileId.letters b := by
    intro x hxa hxb
    have heq := congrArg String.toList (hxa.trans hxb.symm)
    simp only [readable, String.toList_append, ofFile] at heq
    exact String.toList_injective (List.append_cancel_left heq)
  cases d with
  | construct c =>
    unfold className? ofConstruct? at ha hb
    cases hk : c.kind <;> simp [hk, ofFile, hmode] at ha hb <;> exact hreadable ha hb
  | variants v =>
    simp only [className?, ofVariants, ofFile, hmode, Option.some.injEq] at ha hb
    exact hreadable ha hb
  | renderAs r => cases ha

end Naming

/-! ## Code -/

/-- The same generator for another file. -/
def Generator.inFile (g : Generator) (file : String) : Generator := { g with file }

@[simp] lemma Generator.inFile_usage (g : Generator) (file : String) :
    (g.inFile file).usage = g.usage := rfl

/-- The same refusal in another file. -/
def UnsafeName.inFile (e : UnsafeName) (file : String) : UnsafeName := { e with file }

/-- The result of a pass for another file. -/
def emittedIn {α : Type} (file : String) :
    Except UnsafeName (α × Generator) → Except UnsafeName (α × Generator)
  | .ok (e, g) => .ok (e, g.inFile file)
  | .error e => .error (e.inFile file)

/-- The code of a construct does not depend on the id. -/
lemma emit_inFile (naming : Naming) (g : Generator) (file : String) (d : Declaration) :
    emit naming (g.inFile file) d = emittedIn file (emit naming g d) := by
  cases d with
  | construct c => rfl
  | renderAs r => rfl
  | variants v =>
    simp only [emit, Generator.variants]
    rw [show (g.inFile file).threshold = g.threshold from rfl,
      show (g.inFile file).tableName v.varName = g.tableName v.varName from rfl]
    cases Strategy.choose v.variants g.threshold with
    | inlineBranches => rfl
    | lookupTable =>
      simp only [Name.check]
      split
      · rfl
      · rfl

/-- **The code of constructs does not depend on the id.** -/
lemma emitAll_inFile (naming : Naming) (file : String) (ds : List Declaration) (g : Generator) :
    emitAll naming (g.inFile file) ds = emittedIn file (emitAll naming g ds) := by
  induction ds generalizing g with
  | nil => rfl
  | cons d ds ih =>
    simp only [emitAll, emit_inFile]
    cases emit naming g d with
    | error e => rfl
    | ok out =>
      obtain ⟨e, g'⟩ := out
      simp only [emittedIn, bind, Except.bind, ih g']
      cases emitAll naming g' ds with
      | error e => rfl
      | ok out => rfl

/-- Constructs with the same class names have the same code.

**Proof sketch.** A construct enters its code with its class name only, so each construct has the
same code, and the generator goes on in the same state. -/
lemma emitAll_congr {n n' : Naming} {ds : List Declaration}
    (h : ∀ d ∈ ds, n.className? d = n'.className? d) (g : Generator) :
    emitAll n g ds = emitAll n' g ds := by
  have hemit : ∀ {d}, n.className? d = n'.className? d → ∀ g, emit n g d = emit n' g d := by
    intro d hd g
    cases d with
    | construct c =>
      simp only [Naming.className?] at hd
      simp only [emit, hd]
    | variants v =>
      simp only [Naming.className?, Option.some.injEq] at hd
      simp only [emit, hd]
    | renderAs r => rfl
  induction ds generalizing g with
  | nil => rfl
  | cons d ds ih =>
    rw [List.forall_mem_cons] at h
    simp only [emitAll, hemit h.1]
    refine bind_congr fun out => ?_
    rw [ih h.2]

/-! ## Compilations -/

/-- What a compilation comes to, without the id of the file in the source map and in a failure. -/
def withoutId : Except Failure Outcome → Except Failure Outcome
  | .error e => .error e.anonymous
  | .ok (.transformed out) => .ok (.transformed { out with map := { out.map with file := "" } })
  | .ok .notApplicable => .ok .notApplicable
  | .ok .parseFailed => .ok .parseFailed
  | .ok .noConstructs => .ok .noConstructs

/-- **Two compilations that differ in the id of the file at most**: they give the same code, the
same ids of modules and the same registry, or they fail for the same reason. -/
structure Report.SameButId (r r' : Report (Except Failure Outcome)) : Prop where
  /-- They come to the same. -/
  result : withoutId r.result = withoutId r'.result
  /-- They leave the same registry. -/
  registry : r.registry = r'.registry

/-- The constructs that are found in a file, in source order. -/
def foundIn (parse : Parser) (options : Options) (source id : String) : List Declaration :=
  match parse (.ofFile id) source with
  | some m => (m.constructs options source id).toOption.getD []
  | none => []

/-- **The class names of a file**, in source order. -/
def classNames (parse : Parser) (options : Options) (source id : String) : List String :=
  (foundIn parse options source id).filterMap (Naming.ofFile options id).className?

/-- Of what a compiled file is made, only the source map tells the id. -/
lemma output?_eq_of_id (a b source : String) (m : Module) (lines : List String)
    (emitted : List Emitted) (ids : List String) :
    output? b source m lines emitted ids = (output? a source m lines emitted ids).map
      fun out => { out with map := { out.map with file := b } } := by
  cases hplace : m.insertionPoint? source.toList with
  | none => simp [output?, hplace]
  | some place =>
    cases hsplice : splice? source.toList lines place (emitted.map Emitted.edit) with
    | none => simp [output?, hplace, hsplice]
    | some pieces => simp [output?, hplace, hsplice]

section Ids

variable {a b : String} (h : FileId.normalize a = FileId.normalize b) (options : Options)
  (registry : Registry) (source : String)

include h

/-- The registry treats the ids of a file alike. -/
lemma replaceReport_of_normalize_eq (css : List String) :
    registry.replaceReport a css = registry.replaceReport b css := by
  unfold Registry.replaceReport Registry.replaceFile
  rw [h]

/-- Constructs with the same class names are compiled alike.

**Proof sketch.** The code is that of the same constructs under the same class names
(`emitAll_congr`), in a generator that differs in the file (`emitAll_inFile`). The registry is
updated under the same key, and of what is put out only the source map names the id. -/
lemma compileModule_sameButId (runtime : String) (m : Module) {found : List Declaration}
    (hnames : ∀ d ∈ found,
      (Naming.ofFile options a).className? d = (Naming.ofFile options b).className? d) :
    (compileModule options registry source a runtime m found).SameButId
      (compileModule options registry source b runtime m found) := by
  have hemit :
      emitAll (.ofFile options b) { file := b, threshold := options.tableThreshold } found =
      emittedIn b (emitAll (.ofFile options a)
        { file := a, threshold := options.tableThreshold } found) := by
    rw [emitAll_congr hnames, ← emitAll_inFile]
    rfl
  simp only [compileModule, hemit]
  cases emitAll (.ofFile options a) { file := a, threshold := options.tableThreshold } found with
  | error e => exact ⟨rfl, rfl⟩
  | ok out =>
    obtain ⟨emitted, generator⟩ := out
    have houtput := output?_eq_of_id a b source m
    simp only [emittedIn, ← replaceReport_of_normalize_eq h, houtput, Generator.inFile_usage]
    cases output? a source m _ emitted _ with
    | none => exact ⟨rfl, rfl⟩
    | some out => exact ⟨rfl, rfl⟩

omit h in
/-- The constructs of a file do not depend on the id, and neither does the reason of a failure. -/
lemma constructs_mapError_eq (m : Module) :
    (m.constructs options source a).mapError Failure.anonymous =
      (m.constructs options source b).mapError Failure.anonymous :=
  SourceFile.agree_classify ⟨a, source.toList, Imports.ofItems options m.items, options.skipLevel⟩
    b options.skipLevel m.items [] []

/-- A module whose constructs have the same class names is compiled alike.

**Proof sketch.** The imports do not depend on the id. The constructs do not either, up to the file
that a failure names (`constructs_mapError_eq`), so the two compilations take the same branch, and
the last of them is `compileModule_sameButId`. -/
lemma transformModule_sameButId (m : Module)
    (hnames : ∀ found, m.constructs options source a = .ok found → ∀ d ∈ found,
      (Naming.ofFile options a).className? d = (Naming.ofFile options b).className? d) :
    (transformModule options registry source a (some m)).SameButId
      (transformModule options registry source b (some m)) := by
  have hconstructs := constructs_mapError_eq (a := a) (b := b) options source m
  have hdrop : ∀ outcome, dropModules registry a outcome = dropModules registry b outcome :=
    fun outcome => by rw [dropModules, replaceReport_of_normalize_eq h]; rfl
  unfold Module.constructs at hconstructs hnames
  simp only [transformModule]
  cases (Imports.ofItems options m.items).runtime with
  | none => exact ⟨by rw [hdrop]; rfl, by rw [hdrop]; rfl⟩
  | some runtime =>
    dsimp only
    rcases hrun : (SourceFile.classify ⟨a, source.toList, Imports.ofItems options m.items,
      options.skipLevel⟩ m.items).run.run [] with ⟨ra, log⟩
    rcases hrun' : (SourceFile.classify ⟨b, source.toList, Imports.ofItems options m.items,
      options.skipLevel⟩ m.items).run.run [] with ⟨rb, log'⟩
    rw [hrun, hrun'] at hconstructs
    rw [hrun] at hnames
    cases ra with
    | error e =>
      cases rb with
      | error e' => exact ⟨congrArg Except.error (Except.error.inj hconstructs), rfl⟩
      | ok found => cases hconstructs
    | ok found =>
      cases rb with
      | error e' => cases hconstructs
      | ok found' =>
        obtain rfl : found = found' := Except.ok.inj hconstructs
        cases found with
        | nil => exact ⟨by rw [hdrop]; rfl, by rw [hdrop]; rfl⟩
        | cons d ds =>
          obtain ⟨hresult, hregistry⟩ := compileModule_sameButId h options registry source runtime m
            (hnames _ rfl)
          exact ⟨hresult, hregistry⟩

variable (parse : Parser)

/-- A file whose constructs have the same class names is compiled alike. -/
lemma transformFileWith_sameButId
    (hnames : ∀ d ∈ foundIn parse options source a,
      (Naming.ofFile options a).className? d = (Naming.ofFile options b).className? d) :
    (transformFileWith parse options registry source a).SameButId
      (transformFileWith parse options registry source b) := by
  unfold foundIn at hnames
  unfold transformFileWith
  rw [← FileId.ofFile_eq_of_normalize_eq h]
  split
  · cases hparse : parse (.ofFile a) source with
    | none => exact ⟨rfl, rfl⟩
    | some m =>
      refine transformModule_sameButId h options registry source m fun found hfound => ?_
      simpa only [hparse, hfound, Except.toOption, Option.getD_some] using hnames
  · rw [dropModules, dropModules, replaceReport_of_normalize_eq h]
    exact ⟨rfl, rfl⟩

/-- The same constructs are found under both ids. -/
lemma foundIn_eq : foundIn parse options source a = foundIn parse options source b := by
  unfold foundIn
  rw [← FileId.ofFile_eq_of_normalize_eq h]
  cases parse (.ofFile a) source with
  | none => rfl
  | some m =>
    have hsame := constructs_mapError_eq (a := a) (b := b) options source m
    exact congrArg (Option.getD · []) (Extract.toOption_eq_of_mapError_eq hsame)

/-- The class names of a file are the same exactly if those of each construct are.

**Proof sketch.** Whether a construct has a class does not depend on the id, so the two lists of
class names have their members at the same constructs, and they are compared from the front. -/
lemma classNames_eq_iff_forall :
    classNames parse options source a = classNames parse options source b ↔
      ∀ d ∈ foundIn parse options source a,
        (Naming.ofFile options a).className? d = (Naming.ofFile options b).className? d := by
  have hnone := Naming.className?_eq_none_iff (a := a) (b := b) options
  unfold classNames
  rw [← foundIn_eq h options source parse]
  refine ⟨fun hnames => ?_, List.filterMap_congr⟩
  generalize foundIn parse options source a = ds at hnames
  induction ds with
  | nil => simp
  | cons d ds ih =>
    cases ha : (Naming.ofFile options a).className? d with
    | none =>
      have hb := (hnone d).mp ha
      rw [List.filterMap_cons_none ha, List.filterMap_cons_none hb] at hnames
      exact List.forall_mem_cons.mpr ⟨ha.trans hb.symm, ih hnames⟩
    | some s =>
      obtain ⟨t, hb⟩ : ∃ t, (Naming.ofFile options b).className? d = some t :=
        Option.ne_none_iff_exists'.mp (mt (hnone d).mpr (by simp [ha]))
      rw [List.filterMap_cons_some ha, List.filterMap_cons_some hb] at hnames
      obtain ⟨rfl, hrest⟩ := List.cons_eq_cons.mp hnames
      exact List.forall_mem_cons.mpr ⟨ha.trans hb.symm, ih hrest⟩

/-- **When the ids of a file give the same class names**: in production, if the letters of the ids
are the same, or if there are none.

**Proof sketch.** In production class names do not tell the file, and without class names there is
nothing to tell. In development a class name tells the letters (`letters_eq_of_className?_eq`). -/
lemma classNames_eq_iff :
    classNames parse options source a = classNames parse options source b ↔
      options.mode = .production ∨ FileId.letters a = FileId.letters b ∨
        classNames parse options source a = [] := by
  rw [classNames_eq_iff_forall h]
  constructor
  · intro hnames
    cases hmode : options.mode with
    | production => exact .inl rfl
    | development =>
      refine .inr (Classical.or_iff_not_imp_right.mpr fun hne => ?_)
      obtain ⟨s, hs⟩ := List.exists_mem_of_ne_nil _ hne
      obtain ⟨d, hd, hds⟩ := List.mem_filterMap.mp hs
      exact Naming.letters_eq_of_className?_eq options d hmode hds (hnames d hd ▸ hds)
  · rintro (hmode | hletters | hnil) d hd
    · exact Naming.className?_of_production options d hmode
    · rw [Naming.ofFile_eq_of_letters_eq options hletters]
    · have hda := List.filterMap_eq_nil_iff.mp hnil d hd
      rw [hda, (Naming.className?_eq_none_iff options d).mp hda]

end Ids

/-- **When two ids of one file are treated alike.** The virtual modules of both have the same ids,
and both are scripts or neither is. Both are files to compile, or neither is, exactly if a script is
foreign under both ids or under neither. Both give the same class names, the same code and the same
modules, exactly if the build is for production, the letters of the ids are the same, or nothing in
the file has a class. All this holds for any parser, since both ids ask for the same dialect.

**Proof sketch.** The ending of an id and its dialect are those of its one form, and so is the key
in the registry. What is left of the id are the letters of its stem. They enter the class names and
nothing else of the code (`emitAll_inFile`, `emitAll_congr`), and in development every class name
ends in them, so one class is enough to tell them apart (`classNames_eq_iff`). -/
theorem ids_alike_iff (parse : Parser) (s : Session) (source : String) {a b : String}
    (h : FileId.normalize a = FileId.normalize b) :
    (∀ index, VirtualId.ofFile a index = VirtualId.ofFile b index) ∧
    FileId.isScript a = FileId.isScript b ∧
    (Session.handles a = Session.handles b ↔
      (FileId.isScript a = true → FileId.isForeign a = FileId.isForeign b)) ∧
    ((classNames parse s.options source a = classNames parse s.options source b ∧
        (transformFileWith parse s.options s.registry source a).SameButId
          (transformFileWith parse s.options s.registry source b)) ↔
      s.options.mode = .production ∨ FileId.letters a = FileId.letters b ∨
        classNames parse s.options source a = []) ∧
    (Session.handles a = Session.handles b →
      classNames parse s.options source a = classNames parse s.options source b →
      (s.transformWith parse source a).SameButId (s.transformWith parse source b)) := by
  have hscript := FileId.isScript_eq_of_normalize_eq h
  have hcompiled : classNames parse s.options source a = classNames parse s.options source b →
      (transformFileWith parse s.options s.registry source a).SameButId
        (transformFileWith parse s.options s.registry source b) := fun hnames =>
    transformFileWith_sameButId h s.options s.registry source parse
      ((classNames_eq_iff_forall h s.options source parse).mp hnames)
  refine ⟨fun index => ?_, hscript, ?_, ?_, ?_⟩
  · rw [VirtualId.ofFile, h]
    rfl
  · rw [FileId.handles_eq, FileId.handles_eq, ← hscript]
    cases FileId.isScript a <;> simp
  · rw [← classNames_eq_iff h]
    exact ⟨And.left, fun hnames => ⟨hnames, hcompiled hnames⟩⟩
  · intro hhandles hnames
    unfold Session.transformWith
    rw [← hhandles]
    split
    · exact hcompiled hnames
    · exact ⟨rfl, rfl⟩

/-- A file with one class. -/
def oneClassFile : String := "import{css}from'styled-static';const b=css`c`"

/-- A `file:` URL and a path with a query. -/
theorem ids_alike_sample :
    FileId.normalize "file:///app/b.js" = FileId.normalize "/app/b.js?v=1" ∧
    ((Session.start .standard).transform oneClassFile "file:///app/b.js").SameButId
      ((Session.start .standard).transform oneClassFile "/app/b.js?v=1") := by
  have hnormal : FileId.normalize "file:///app/b.js" = FileId.normalize "/app/b.js?v=1" := by
    decide +kernel
  refine ⟨hnormal, ?_⟩
  exact (ids_alike_iff parseModule? (Session.start .standard) oneClassFile hnormal).2.2.2.2
    (by decide +kernel) (by decide +kernel)

/-- **Two ids of one file that are not treated alike.** Behind a backslash the directory becomes a
part of the class name, so the styles of the same virtual module differ, and a file of a package is
compiled. -/
theorem backslash_id_apart :
    FileId.normalize "a/b.js" = FileId.normalize "a\\b.js" ∧
    classNames parseModule? .standard oneClassFile "a/b.js" = ["ss-b-b"] ∧
    classNames parseModule? .standard oneClassFile "a\\b.js" = ["ss-b-ab"] ∧
    ((Session.start .standard).transform oneClassFile "a/b.js").registry.modules.map
        (fun m => (m.id, m.css)) = [("virtual:styled-static/a/b.js/0.css", ".ss-b-b { c }")] ∧
    ((Session.start .standard).transform oneClassFile "a\\b.js").registry.modules.map
        (fun m => (m.id, m.css)) = [("virtual:styled-static/a/b.js/0.css", ".ss-b-ab { c }")] ∧
    FileId.normalize "a/node_modules/b.js" = FileId.normalize "a\\node_modules\\b.js" ∧
    Session.handles "a/node_modules/b.js" = false ∧
    Session.handles "a\\node_modules\\b.js" = true := by
  decide +kernel

end StyleExtract
