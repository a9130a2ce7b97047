import Mathlib.Tactic.Common
import StyleExtract.Proofs.Registry.Update
import StyleExtract.Session

/-!
# How compiling a file ends

Compiling a file ends in one of eight ways, and each has its own effect on the registry. This file
lists the ways once and reads the effect of a compilation off its result.

## Main definitions

* `transformFileWith`, `Session.transformWith` — compiling a file with a given parser.
* `Emission` — a file whose constructs all have code.
* `Exit` — the ways in which compiling a file ends.
* `Registry.Follows` — what compiling a file does to a registry, by its result.

## Main results

* `transformFileWith_exit` — compiling a file ends in one of these ways.
* `registry_after_transform` — a file that is refused leaves the registry as it was, a file without
  constructs is removed, and the modules of a compiled file are replaced; nothing else changes.

## Design

The parser is a parameter, so that what is said holds however texts are read. `Exit` mentions the
result and the registry, and everything else is read off it without opening the pipeline again.
-/

namespace StyleExtract

open Script (Dialect Module)

/-! ## Parsers -/

/-- A way to read texts: the tree of a text in a dialect, if it is well formed. -/
abbrev Parser := Dialect → String → Option Module

/-- Compiles a file that is read by a given parser. -/
def transformFileWith (parse : Parser) (options : Options) (registry : Registry)
    (source id : String) : Report (Except Failure Outcome) :=
  if options.isMentioned source then
    transformModule options registry source id (parse (.ofFile id) source)
  else dropModules registry id .notApplicable

/-- Compiles a file that is read by a given parser, if it is one to compile. -/
def Session.transformWith (parse : Parser) (s : Session) (source id : String) :
    Report (Except Failure Outcome) :=
  if handles id then transformFileWith parse s.options s.registry source id
  else ⟨.ok .notApplicable, s.registry, []⟩

/-- Files are read by the grammar. -/
lemma transformFileWith_parseModule? (options : Options) (registry : Registry)
    (source id : String) : transformFileWith Script.parseModule? options registry source id =
      transformFile options registry source id := rfl

/-- Sessions read files by the grammar. -/
lemma Session.transformWith_parseModule? (s : Session) (source id : String) :
    s.transformWith Script.parseModule? source id = s.transform source id := rfl

/-! ## The stages of a compilation -/

/-- The constructs of a module, or why they cannot be read. -/
def Script.Module.constructs (options : Options) (source id : String) (m : Module) :
    Except Failure (List Declaration) :=
  ((SourceFile.classify ⟨id, source.toList, Imports.ofItems options m.items, options.skipLevel⟩
    m.items).run.run []).1

/-- The state in which code is generated for a file. -/
def Generator.ofFile (options : Options) (id : String) : Generator :=
  { file := id, threshold := options.tableThreshold }

/-- **A file whose constructs all have code.** From here on nothing is refused. -/
structure Emission (parse : Parser) (options : Options) (source id : String) where
  /-- The tree of the file. -/
  tree : Module
  /-- The module of the helpers. -/
  runtime : String
  /-- The constructs. -/
  found : List Declaration
  /-- What they give. -/
  emitted : List Emitted
  /-- The generator behind the last construct. -/
  generator : Generator
  /-- The text mentions the authoring functions. -/
  mentioned : options.isMentioned source = true
  /-- The text is well formed. -/
  parsed : parse (.ofFile id) source = some tree
  /-- The authoring functions are imported. -/
  imported : (Imports.ofItems options tree.items).runtime = some runtime
  /-- The constructs are those of the tree. -/
  classified : tree.constructs options source id = .ok found
  /-- There are constructs. -/
  nonempty : found ≠ []
  /-- All constructs have code. -/
  coded : emitAll (.ofFile options id) (.ofFile options id) found = .ok (emitted, generator)

namespace Emission

variable {parse : Parser} {options : Options} {source id : String}

/-- The styles of the modules of the file. -/
def styles (e : Emission parse options source id) : List String :=
  e.emitted.filterMap Emitted.css

/-- The ids of the modules of the file. -/
def moduleIds (e : Emission parse options source id) : List String :=
  (Registry.number (FileId.normalize id) e.styles).map CssModule.id

/-- The inserted lines. -/
def lines (e : Emission parse options source id) : List String :=
  preamble e.generator.usage e.runtime e.moduleIds e.emitted

/-- The compiled file, if the lines have a place between the constructs. -/
def result? (e : Emission parse options source id) : Option Output :=
  output? id source e.tree e.lines e.emitted e.moduleIds

/-- Once all constructs have code, the modules of the file are replaced, and the file is compiled if
the lines have a place. -/
lemma compileModule_eq (e : Emission parse options source id) (registry : Registry) :
    (compileModule options registry source id e.runtime e.tree e.found).registry =
      (registry.replaceFile id e.styles).2 ∧
    (compileModule options registry source id e.runtime e.tree e.found).result =
      match e.result? with
      | some out => .ok (.transformed out)
      | none => .error .misplaced := by
  have hcode := e.coded
  have hresult : output? id source e.tree (preamble e.generator.usage e.runtime
      (registry.replaceReport id (e.emitted.filterMap Emitted.css)).result e.emitted) e.emitted
      (registry.replaceReport id (e.emitted.filterMap Emitted.css)).result = e.result? := rfl
  rw [Generator.ofFile] at hcode
  unfold compileModule
  simp only [hcode, hresult]
  cases e.result? with
  | none => exact ⟨rfl, rfl⟩
  | some out => exact ⟨rfl, rfl⟩

end Emission

/-- **The ways in which compiling a file ends**, by the result and the registry afterwards. -/
inductive Exit (parse : Parser) (options : Options) (registry : Registry) (source id : String) :
    Except Failure Outcome → Registry → Prop
  /-- The text does not mention the authoring functions. -/
  | unmentioned (h : options.isMentioned source = false) :
    Exit parse options registry source id (.ok .notApplicable) (registry.replaceFile id []).2
  /-- The text is not well formed. -/
  | unparsed (h : parse (.ofFile id) source = none) :
    Exit parse options registry source id (.ok .parseFailed) registry
  /-- The authoring functions are mentioned but not imported. -/
  | unbound {m : Module} (hm : parse (.ofFile id) source = some m)
    (h : (Imports.ofItems options m.items).runtime = none) :
    Exit parse options registry source id (.ok .notApplicable) (registry.replaceFile id []).2
  /-- A construct cannot be read. -/
  | refused {m : Module} {failure : Failure} (hm : parse (.ofFile id) source = some m)
    (h : m.constructs options source id = .error failure) :
    Exit parse options registry source id (.error failure) registry
  /-- There are no constructs. -/
  | nothing {m : Module} (hm : parse (.ofFile id) source = some m)
    (h : m.constructs options source id = .ok []) :
    Exit parse options registry source id (.ok .noConstructs) (registry.replaceFile id []).2
  /-- There is no code for a construct. -/
  | uncoded {m : Module} {found : List Declaration} {e : UnsafeName}
    (hm : parse (.ofFile id) source = some m) (hfound : m.constructs options source id = .ok found)
    (h : emitAll (.ofFile options id) (.ofFile options id) found = .error e) :
    Exit parse options registry source id (.error (.unsafeName e)) registry
  /-- The lines have no place between the constructs. -/
  | misplaced (e : Emission parse options source id) (h : e.result? = none) :
    Exit parse options registry source id (.error .misplaced) (registry.replaceFile id e.styles).2
  /-- The file is compiled. -/
  | compiled (e : Emission parse options source id) {out : Output} (h : e.result? = some out) :
    Exit parse options registry source id (.ok (.transformed out))
      (registry.replaceFile id e.styles).2

section Exits

variable (parse : Parser) (options : Options) (registry : Registry) (source id : String)

/-- **Compiling a file ends in one of the eight ways.**

**Proof sketch.** Along the stages of the pipeline, which ends at the first one that gives
nothing. -/
theorem transformFileWith_exit :
    Exit parse options registry source id
      (transformFileWith parse options registry source id).result
      (transformFileWith parse options registry source id).registry := by
  unfold transformFileWith
  by_cases hmention : options.isMentioned source = true
  · rw [if_pos hmention]
    unfold transformModule
    cases hm : parse (.ofFile id) source with
    | none => exact .unparsed hm
    | some m =>
      dsimp only
      cases hruntime : (Imports.ofItems options m.items).runtime with
      | none => exact .unbound hm hruntime
      | some runtime =>
        dsimp only
        obtain ⟨found?, hrun⟩ : ∃ r, (SourceFile.classify ⟨id, source.toList,
            Imports.ofItems options m.items, options.skipLevel⟩ m.items).run.run [] = r :=
          ⟨_, rfl⟩
        have hconstructs : m.constructs options source id = found?.1 := congrArg Prod.fst hrun
        rw [hrun]
        obtain ⟨failure | found, log⟩ := found?
        · exact .refused hm hconstructs
        · cases found with
          | nil => exact .nothing hm hconstructs
          | cons d ds =>
            show Exit parse options registry source id
              (compileModule options registry source id runtime m (d :: ds)).result
              (compileModule options registry source id runtime m (d :: ds)).registry
            cases hcode : emitAll (.ofFile options id) (.ofFile options id) (d :: ds) with
            | error e =>
              have hcode' := hcode
              rw [Generator.ofFile] at hcode'
              simp only [compileModule, hcode']
              exact .uncoded hm hconstructs hcode
            | ok out =>
              let e : Emission parse options source id :=
                ⟨m, runtime, d :: ds, out.1, out.2, hmention, hm, hruntime, hconstructs,
                  List.cons_ne_nil _ _, hcode⟩
              obtain ⟨hregistry, hresult⟩ := e.compileModule_eq registry
              rw [hregistry, hresult]
              cases hout : e.result? with
              | none => exact .misplaced e hout
              | some out => exact .compiled e hout
  · rw [if_neg hmention]
    exact .unmentioned (by simpa using hmention)

/-- **What compiling a file does to a registry**, by its result: a file that is refused or not well
formed leaves the registry as it was, a file without constructs is removed, and otherwise its
modules are replaced. A misplaced span is found before the constructs are known, or only when the
lines are inserted. -/
def Registry.Follows (before after : Registry) : Except Failure Outcome → Prop
  | .error (.unsafeName _) | .ok .parseFailed => after = before
  | .ok .notApplicable | .ok .noConstructs => before.Sets after id []
  | .ok (.transformed out) => ∃ e : Emission parse options source id,
      before.Sets after id e.styles ∧ out.cssModules = e.moduleIds
  | .error .misplaced =>
      (∃ e : Emission parse options source id, before.Sets after id e.styles) ∨
        (IsEmpty (Emission parse options source id) ∧ after = before)

variable {parse options registry source id}

/-- A compiled file lists the ids that it is given. -/
lemma cssModules_of_output? {m : Module} {lines ids : List String}
    {emitted : List Emitted} {out : Output} (h : output? id source m lines emitted ids = some out) :
    out.cssModules = ids := by
  simp only [output?, bind, Option.bind_eq_some_iff] at h
  obtain ⟨place, -, pieces, -, hout⟩ := h
  cases hout
  rfl

/-- The ids of a compiled file are those of its modules. -/
lemma Emission.cssModules_of_result? {e : Emission parse options source id} {out : Output}
    (h : e.result? = some out) : out.cssModules = e.moduleIds :=
  cssModules_of_output? h

/-- What compiling a file does to a registry follows from the way in which it ends. -/
lemma Exit.follows {result : Except Failure Outcome} {after : Registry}
    (h : Exit parse options registry source id result after) :
    Registry.Follows parse options source id registry after result := by
  cases h with
  | unmentioned | unbound | nothing => exact registry.sets_replaceFile id []
  | unparsed | uncoded => rfl
  | @refused m failure hm h =>
    cases failure with
    | unsafeName e => rfl
    | misplaced =>
      refine .inr ⟨⟨fun e => ?_⟩, rfl⟩
      obtain rfl : e.tree = m := Option.some.inj (e.parsed.symm.trans hm)
      simp [e.classified] at h
  | misplaced e h => exact .inl ⟨e, registry.sets_replaceFile id e.styles⟩
  | compiled e h => exact ⟨e, registry.sets_replaceFile id e.styles, e.cssModules_of_result? h⟩

/-- Compiling a file leaves all other files as they were, in the same order. -/
lemma Exit.erase_eq {result : Except Failure Outcome} {after : Registry}
    (h : Exit parse options registry source id result after) :
    after.files.erase (FileId.normalize id) = registry.files.erase (FileId.normalize id) := by
  cases h with
  | unmentioned | unbound | nothing => exact (registry.sets_replaceFile id []).others
  | unparsed | uncoded | refused => rfl
  | misplaced e | compiled e => exact (registry.sets_replaceFile id e.styles).others

end Exits

/-- **The registry after a compilation**, for every parser. A file that is not one to compile leaves
the registry as it was, and any other file changes it as its result says (`Registry.Follows`). In
every case the modules of all other files, and the order of the files, are the same as before.

**Proof sketch.** Compiling a file ends in one of the listed ways (`transformFileWith_exit`), and
each of them says what becomes of the registry: it stays, or the modules of this one file are
replaced. -/
theorem registry_after_transform (parse : Parser) (s : Session) (source id : String) :
    (Session.handles id = false →
      s.transformWith parse source id = ⟨.ok .notApplicable, s.registry, []⟩) ∧
    (Session.handles id = true → s.transformWith parse source id =
      transformFileWith parse s.options s.registry source id) ∧
    Registry.Follows parse s.options source id s.registry
      (transformFileWith parse s.options s.registry source id).registry
      (transformFileWith parse s.options s.registry source id).result ∧
    (∀ f, FileId.normalize f ≠ FileId.normalize id →
      (transformFileWith parse s.options s.registry source id).registry.entriesFor f =
        s.registry.entriesFor f) ∧
    (transformFileWith parse s.options s.registry source id).registry.files.erase
      (FileId.normalize id) = s.registry.files.erase (FileId.normalize id) := by
  have hexit := transformFileWith_exit parse s.options s.registry source id
  refine ⟨?_, ?_, hexit.follows, ?_, hexit.erase_eq⟩
  · intro h
    simp [Session.transformWith, h]
  · intro h
    simp [Session.transformWith, h]
  · intro f hf
    exact Registry.entriesFor_of_erase_eq hexit.erase_eq hf

end StyleExtract
