import Mathlib.Tactic.Common
import StyleExtract.Proofs.Registry.Schedules
import StyleExtract.Proofs.Transform.Exits

/-!
# Compiling files in any order

Files are compiled side by side, and their compilations share one registry. Each compilation reads
nothing from the registry and updates it at most once, under the key of its own file. This file
shows what follows: the order in which files are compiled, or in which their updates happen to take
place, does not matter, and compiling a file once more changes nothing.

## Main definitions

* `transformTask` — compiling a file as a task that shares the registry.
* `Job`, `Pool.ofJobs` — files to compile, and the pool of their compilations.
* `transformAll` — compiling files one after the other.

## Main results

* `report_transformTask` — the task does what compiling the file does.
* `transformTask_cases` — a compilation updates the registry at most once.
* `finishes_transformAll` — one after the other is one of the orders.
* `transform_order_irrelevant` — the order does not matter, and neither does a repetition.
-/

namespace StyleExtract

open Script (Module)

/-! ## Compilations as tasks -/

/-- How a compilation ends, and what was said on the way. -/
abbrev Answer := Except Failure Outcome × List LogEntry

/-- The report of a task that has the registry for itself. -/
def Task.report (t : Task Answer) (r : Registry) : Report (Except Failure Outcome) :=
  ⟨(t.run r).1.1, (t.run r).2, (t.run r).1.2⟩

/-- What an update of a file says. -/
def updateLog (id : String) (ids : List String) : List LogEntry :=
  if ids.isEmpty then [] else [⟨.trace, .replaced ids.length (FileId.normalize id)⟩]

/-- Drops the modules of a file that turned out to have none. -/
def dropTask (id : String) (outcome : Outcome) (log : List LogEntry) : Task Answer :=
  .replace id [] fun ids => .done (.ok outcome, log ++ updateLog id ids)

/-- Compiles a file whose constructs are known. -/
def compileTask (options : Options) (source id runtime : String) (m : Module)
    (found : List Declaration) (log : List LogEntry) : Task Answer :=
  match emitAll (.ofFile options id) (.ofFile options id) found with
  | .error e => .done (.error (.unsafeName e), log)
  | .ok (emitted, generator) =>
    .replace id (emitted.filterMap Emitted.css) fun ids => .done
      (match output? id source m (preamble generator.usage runtime ids emitted) emitted ids with
      | none => (.error .misplaced, log ++ updateLog id ids)
      | some out => (.ok (.transformed out),
          log ++ (updateLog id ids ++ [⟨.debug, .compiled id emitted.length⟩])))

/-- **Compiling a file as a task**: everything but the update of the registry is done by itself. -/
def transformTask (parse : Parser) (options : Options) (source id : String) : Task Answer :=
  if options.isMentioned source then
    match parse (.ofFile id) source with
    | none => .done (.ok .parseFailed, [⟨.warn, .parseError id⟩])
    | some m =>
      match (Imports.ofItems options m.items).runtime with
      | none => dropTask id .notApplicable [⟨options.skipLevel, .noImport id⟩]
      | some runtime =>
        match (SourceFile.classify ⟨id, source.toList, Imports.ofItems options m.items,
            options.skipLevel⟩ m.items).run.run [] with
        | (.error e, log) => .done (.error e, log)
        | (.ok [], log) =>
          dropTask id .noConstructs (log ++ [⟨options.skipLevel, .noConstructs id⟩])
        | (.ok found, log) => compileTask options source id runtime m found log
  else dropTask id .notApplicable []

section Tasks

variable (parse : Parser) (options : Options) (source id : String) (r : Registry)

/-- Compiling a file whose constructs are known as a task. -/
lemma report_compileTask (runtime : String) (m : Module) (found : List Declaration)
    (log : List LogEntry) :
    (compileTask options source id runtime m found log).report r =
      (compileModule options r source id runtime m found).after log := by
  unfold compileTask compileModule
  simp only [Generator.ofFile]
  cases emitAll (.ofFile options id) ⟨id, options.tableThreshold, 0, {}⟩ found with
  | error e => simp [Task.report, Task.run, Report.after]
  | ok out =>
    simp only [Task.report, Task.run, Registry.replaceReport]
    cases output? id source m _ out.1 _ with
    | none => rfl
    | some output => rfl

/-- **The task does what compiling the file does.**

**Proof sketch.** The task makes the same decisions in the same order as compiling the file, so the
two are compared branch by branch. What the constructs of a file come to is `report_compileTask`. -/
theorem report_transformTask :
    (transformTask parse options source id).report r =
      transformFileWith parse options r source id := by
  unfold transformTask transformFileWith
  by_cases hmention : options.isMentioned source = true
  · rw [if_pos hmention, if_pos hmention]
    unfold transformModule
    cases parse (.ofFile id) source with
    | none => rfl
    | some m =>
      dsimp only
      cases (Imports.ofItems options m.items).runtime with
      | none => rfl
      | some runtime =>
        dsimp only
        generalize (SourceFile.classify ⟨id, source.toList, Imports.ofItems options m.items,
          options.skipLevel⟩ m.items).run.run [] = found?
        obtain ⟨failure | found, log⟩ := found?
        · rfl
        · cases found with
          | nil => rfl
          | cons d ds => exact report_compileTask options source id r runtime m (d :: ds) log
  · rw [if_neg hmention, if_neg hmention]
    rfl

/-- **A compilation updates the registry at most once**, under the key of its own file, and then
ends.

**Proof sketch.** The branches of a compilation are gone through. Each updates the registry last or
not at all. -/
theorem transformTask_cases :
    (∃ a, transformTask parse options source id = .done a) ∨
    ∃ (css : List String) (finish : List String → Answer),
      transformTask parse options source id = .replace id css fun ids => .done (finish ids) := by
  unfold transformTask compileTask
  split
  · split
    · exact .inl ⟨_, rfl⟩
    · split
      · exact .inr ⟨_, _, rfl⟩
      · split
        · exact .inl ⟨_, rfl⟩
        · exact .inr ⟨_, _, rfl⟩
        · split
          · exact .inl ⟨_, rfl⟩
          · exact .inr ⟨_, _, rfl⟩
  · exact .inr ⟨_, _, rfl⟩

/-- A compilation updates no file but its own. -/
lemma key_of_touches_transformTask {key : String}
    (h : (transformTask parse options source id).Touches key) : FileId.normalize id = key := by
  rcases transformTask_cases parse options source id with ⟨a, ha⟩ | ⟨css, finish, hreplace⟩
  · rw [ha] at h
    exact h.elim
  · rw [hreplace] at h
    rcases h with hown | hdone
    · exact hown
    · exact hdone.elim

/-- What compiling a file answers does not depend on the registry. -/
lemma answer_transformTask :
    (transformTask parse options source id).answer =
      ((transformFileWith parse options r source id).result,
        (transformFileWith parse options r source id).log) := by
  rw [← report_transformTask, ← Task.run_fst _ r]
  rfl

/-- **Compiling a file once more** ends in the same way and leaves the registry as it is, with all
files in their places. -/
theorem transformFileWith_again :
    transformFileWith parse options (transformFileWith parse options r source id).registry source
      id = transformFileWith parse options r source id := by
  simp only [← report_transformTask]
  rcases transformTask_cases parse options source id with ⟨a, ha⟩ | ⟨css, finish, hreplace⟩
  · rw [ha]
    rfl
  · rw [hreplace]
    simp only [Task.report, Task.run, Registry.replaceFile_replaceFile]
    rfl

end Tasks

/-! ## Several files -/

/-- A file to compile. -/
structure Job where
  /-- Its text. -/
  source : String
  /-- Its id. -/
  id : String

section Jobs

variable (parse : Parser) (options : Options)

/-- The compilations of some files, before any of them has begun. -/
def Pool.ofJobs (jobs : List Job) (r : Registry) : Pool Answer :=
  ⟨r, jobs.map fun j => transformTask parse options j.source j.id⟩

/-- Compiling a file alone: how it ends, and what is said, if there are no modules before. -/
def Job.alone (j : Job) : Answer :=
  ((transformFileWith parse options .empty j.source j.id).result,
    (transformFileWith parse options .empty j.source j.id).log)

/-- Compiles files one after the other. -/
def transformAll : List Job → Registry → List Answer × Registry
  | [], r => ([], r)
  | j :: js, r =>
    let first := transformFileWith parse options r j.source j.id
    let rest := transformAll js first.registry
    ((first.result, first.log) :: rest.1, rest.2)

/-- Files with different keys have compilations that update no file in common. -/
lemma separate_ofJobs {jobs : List Job}
    (h : jobs.Pairwise fun a b => FileId.normalize a.id ≠ FileId.normalize b.id) (r : Registry) :
    (Pool.ofJobs parse options jobs r).Separate := by
  refine List.pairwise_map.mpr (h.imp fun hne key hboth => hne ?_)
  exact (key_of_touches_transformTask _ _ _ _ hboth.1).trans
    (key_of_touches_transformTask _ _ _ _ hboth.2).symm

/-- **One after the other is one of the orders** in which compilations can take place.

**Proof sketch.** Induction on the files, with those that are done in front: the next compilation
runs to its end while all others wait. -/
theorem finishes_transformAll (jobs : List Job) (r : Registry) :
    (Pool.ofJobs parse options jobs r).Finishes (transformAll parse options jobs r).1
      (transformAll parse options jobs r).2 := by
  have hall : ∀ (jobs : List Job) (front : List Answer) (r : Registry),
      (Pool.mk r (front.map .done ++ (Pool.ofJobs parse options jobs r).tasks)).Finishes
        (front ++ (transformAll parse options jobs r).1) (transformAll parse options jobs r).2 := by
    intro jobs
    induction jobs with
    | nil =>
      intro front r
      simpa [Pool.Finishes, Pool.ofJobs, transformAll] using Relation.ReflTransGen.refl
    | cons j jobs ih =>
      intro front r
      have hreport := report_transformTask parse options j.source j.id r
      have hfirst := Pool.steps_run (front.map .done) (Pool.ofJobs parse options jobs r).tasks
        (transformTask parse options j.source j.id) r
      have hrest := ih (front ++ [((transformTask parse options j.source j.id).run r).1])
        ((transformTask parse options j.source j.id).run r).2
      have hsnd : ((transformTask parse options j.source j.id).run r).2 =
          (transformFileWith parse options r j.source j.id).registry := by
        rw [← hreport]
        rfl
      have hfst : ((transformTask parse options j.source j.id).run r).1 =
          ((transformFileWith parse options r j.source j.id).result,
            (transformFileWith parse options r j.source j.id).log) := by
        rw [← hreport]
        rfl
      rw [hsnd, hfst] at hfirst hrest
      refine hfirst.trans ?_
      simpa [Pool.Finishes, Pool.ofJobs, transformAll] using hrest
  exact hall jobs [] r

/-- **The order of compilations does not matter**, and neither does a repetition. Let files with
pairwise different keys be compiled in any order, and let their updates of the registry take place
in any order. Then every compilation answers as it does alone, and the registries at the end agree
for all orders, among which is that of one file after the other. Compiling a file a second time ends
in the same way and leaves the registry exactly as it is.

**Proof sketch.** What a compilation answers does not depend on the registry, so it is the same in
every order. Each compilation makes one update, of the key of its own file, and updates of different
keys can be swapped, so schedules that are permutations of each other end in agreeing registries. A
second compilation makes the same update once more, which changes nothing. -/
theorem transform_order_irrelevant {jobs : List Job}
    (hdifferent : jobs.Pairwise fun a b => FileId.normalize a.id ≠ FileId.normalize b.id)
    (r : Registry) :
    (∀ order : List Job, order.Perm jobs → ∀ (answers : List Answer) (after : Registry),
      (Pool.ofJobs parse options order r).Finishes answers after →
        answers = order.map (Job.alone parse options) ∧
        after.Agree (transformAll parse options jobs r).2) ∧
    (∀ order : List Job, (Pool.ofJobs parse options order r).Finishes
      (transformAll parse options order r).1 (transformAll parse options order r).2) ∧
    (∀ source id : String,
      transformFileWith parse options (transformFileWith parse options r source id).registry source
        id = transformFileWith parse options r source id) := by
  refine ⟨?_, ?_, ?_⟩
  · intro order hperm answers after hfinish
    constructor
    · rw [hfinish.answers_eq, Pool.ofJobs, List.map_map]
      exact List.map_congr_left fun j _ => answer_transformTask parse options j.source j.id .empty
    · exact (finishes_transformAll parse options jobs r).agree hfinish
        (separate_ofJobs parse options hdifferent r) rfl (hperm.map _)
  · intro order
    exact finishes_transformAll parse options order r
  · intro source id
    exact transformFileWith_again parse options source id r

end Jobs

/-- Two files with a class each. -/
def orderJobs : List Job :=
  [⟨"import\x7bcss\x7dfrom'styled-static';let a=css`b`", "/src/a.js"⟩,
    ⟨"import\x7bcss\x7dfrom'styled-static';let c=css`d`", "src/c.js?v=1"⟩]

/-- Two files have two modules, whichever of them is compiled first. -/
theorem transform_order_irrelevant_sample :
    (orderJobs.Pairwise fun a b => FileId.normalize a.id ≠ FileId.normalize b.id) ∧
    (transformAll Script.parseModule? .standard orderJobs .empty).2.size = 2 ∧
    (transformAll Script.parseModule? .standard orderJobs.reverse .empty).2.Agree
      (transformAll Script.parseModule? .standard orderJobs .empty).2 := by
  have hdifferent : orderJobs.Pairwise fun a b =>
      FileId.normalize a.id ≠ FileId.normalize b.id := by decide +kernel
  obtain ⟨hany, hsequential, -⟩ :=
    transform_order_irrelevant Script.parseModule? .standard hdifferent .empty
  refine ⟨hdifferent, by decide +kernel, ?_⟩
  exact (hany _ (List.reverse_perm _) _ _ (hsequential orderJobs.reverse)).2

end StyleExtract
