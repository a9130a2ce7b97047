import Mathlib.Algebra.BigOperators.Group.List.Basic
import Mathlib.Data.List.Nodup
import Mathlib.Data.List.Pairwise
import Mathlib.Logic.Relation
import Mathlib.Tactic.Common
import StyleExtract.Proofs.Registry.Update

/-!
# Tasks that share a registry

Several tasks work on one registry. A task replaces the modules of files, one update at a time, and
nobody sees a registry in the middle of an update; between two updates of a task the others may do
theirs. This file shows that what the tasks answer does not depend on the order of the updates, and
neither does what the registry shows afterwards, if no two tasks update the same file.

## Main definitions

* `Task` — a computation on a shared registry.
* `Pool`, `Pool.Step` — tasks with their registry, and the next update of one of them.
* `Pool.Finishes` — some order of the updates, up to the end of all tasks.
* `Registry.Agree` — two registries show the same.

## Main results

* `Pool.Step.answers_eq`, `Pool.Finishes.answers_eq` — every task answers as it does alone.
* `Pool.Step.settled_eq`, `Pool.Finishes.get?_eq` — the modules of a file at the end.
* `Pool.Finishes.agree` — any two orders end with registries that agree.

## Design

The ids that an update returns are made from the file and the number of styles alone, so a task has
one answer (`Task.answer`) and, for each file, one effect on its modules (`Task.effect`). What is
foretold of a pool from these, `Pool.settled`, is the same before and after every step.
-/

namespace StyleExtract

open Registry (number)
open Relation (ReflTransGen)

/-! ## What registries show -/

namespace Registry

/-- **Two registries agree**: they have the same modules of every file, the same number of modules,
and the same styles for every list of files. -/
structure Agree (a b : Registry) : Prop where
  /-- The modules of every file. -/
  entries : ∀ file, a.entriesFor file = b.entriesFor file
  /-- The number of modules. -/
  size : a.size = b.size
  /-- The styles of a list of files. -/
  aggregate : ∀ ids : List String, (∀ id ∈ ids, VirtualId.recognizes id = false) →
    a.aggregate ids = b.aggregate ids

/-- Registries with the same modules under every key have the same files, up to their order. -/
lemma entries_perm_of_get?_eq {a b : Registry}
    (h : ∀ key, a.files.get? key = b.files.get? key) : a.files.entries.Perm b.files.entries := by
  refine (List.perm_ext_iff_of_nodup (a.files.nodup.of_map _) (b.files.nodup.of_map _)).mpr ?_
  rintro ⟨key, ms⟩
  rw [OrderedMap.mem_entries_iff, OrderedMap.mem_entries_iff, h]

/-- Registries with the same modules under every key agree, whatever the order of their files. -/
theorem agree_of_get?_eq {a b : Registry} (h : ∀ key, a.files.get? key = b.files.get? key) :
    a.Agree b := by
  have hentries : ∀ file, a.entriesFor file = b.entriesFor file := by
    intro file
    rw [entriesFor, entriesFor, h]
  refine ⟨hentries, ?_, ?_⟩
  · have hsum := ((entries_perm_of_get?_eq h).map fun e => e.2.length).sum_eq
    simpa [size, modules, OrderedMap.values, List.length_flatten, Function.comp_def] using hsum
  · intro ids hids
    have hresolve : ids.flatMap a.resolve = ids.flatMap b.resolve := by
      refine List.flatMap_congr fun id hid => ?_
      simp [resolve, hids id hid, hentries]
    rw [aggregate, aggregate, hresolve]

/-- The modules under a key that has the given styles: a file without styles has no key. -/
def registered (key : String) (css : List String) : Option (List CssModule) :=
  if css = [] then none else some (number key css)

/-- The ids of the modules of a file with given styles. -/
def moduleIds (file : String) (css : List String) : List String :=
  (number (FileId.normalize file) css).map CssModule.id

/-- An update returns the ids of the new modules, whatever the registry is. -/
@[simp] lemma replaceFile_fst (r : Registry) (file : String) (css : List String) :
    (r.replaceFile file css).1 = moduleIds file css := rfl

/-- What stands under each key after an update. -/
lemma get?_replaceFile (r : Registry) (file : String) (css : List String) (key : String) :
    (r.replaceFile file css).2.files.get? key =
      if FileId.normalize file = key then registered key css else r.files.get? key := by
  have hsets := r.sets_replaceFile file css
  split
  · next heq =>
    subst heq
    exact hsets.own
  · next hne =>
    exact OrderedMap.get?_eq_of_erase_eq hsets.others (Ne.symm hne)

end Registry

open Registry (moduleIds registered)

/-! ## Tasks -/

/-- **A computation on a shared registry.** It ends with an answer, or it replaces the modules of a
file and goes on with the ids of the new ones. -/
inductive Task (α : Type) where
  /-- The end. -/
  | done (a : α)
  /-- An update, and what comes after it. -/
  | replace (file : String) (css : List String) (next : List String → Task α)

namespace Task

variable {α : Type}

/-- The answer of a task that has the registry for itself, and the registry afterwards. -/
def run : Task α → Registry → α × Registry
  | .done a, r => (a, r)
  | .replace file css next, r => (next (r.replaceFile file css).1).run (r.replaceFile file css).2

/-- The answer of a task. -/
def answer : Task α → α
  | .done a => a
  | .replace file css next => (next (moduleIds file css)).answer

/-- Whether a task updates the file with a key. -/
def Touches (key : String) : Task α → Prop
  | .done _ => False
  | .replace file css next =>
    FileId.normalize file = key ∨ (next (moduleIds file css)).Touches key

/-- What a task makes of the modules under a key. -/
def effect (key : String) : Task α → Option (List CssModule) → Option (List CssModule)
  | .done _, ms => ms
  | .replace file css next, ms => (next (moduleIds file css)).effect key
      (if FileId.normalize file = key then registered key css else ms)

/-- Two tasks update no file in common. -/
def Apart (t u : Task α) : Prop := ∀ key, ¬ (t.Touches key ∧ u.Touches key)

instance : Std.Symm (Apart (α := α)) := ⟨fun _ _ h key hboth => h key hboth.symm⟩

/-- The answer of a task does not depend on the registry. -/
lemma run_fst (t : Task α) : ∀ r : Registry, (t.run r).1 = t.answer := by
  induction t with
  | done a =>
    intro r
    rfl
  | replace file css next ih =>
    intro r
    exact ih _ _

/-- A task that does not update a file leaves its modules as they are. -/
lemma effect_of_not_touches {key : String} (t : Task α) :
    ∀ ms : Option (List CssModule), ¬ t.Touches key → t.effect key ms = ms := by
  induction t with
  | done a =>
    intro ms _
    rfl
  | replace file css next ih =>
    intro ms h
    rw [Touches, not_or] at h
    rw [effect, ih _ _ h.2, if_neg h.1]

end Task

/-! ## Pools -/

/-- Tasks with the registry that they share. -/
structure Pool (α : Type) where
  /-- The registry. -/
  registry : Registry
  /-- What is left of each task. -/
  tasks : List (Task α)

namespace Pool

variable {α : Type}

/-- **The next update of one of the tasks.** -/
inductive Step : Pool α → Pool α → Prop
  | replace (r : Registry) (front back : List (Task α)) (file : String) (css : List String)
    (next : List String → Task α) :
    Step ⟨r, front ++ .replace file css next :: back⟩
      ⟨(r.replaceFile file css).2, front ++ next (r.replaceFile file css).1 :: back⟩

/-- **Some order of the updates, up to the end of all tasks**: the answers, in the order of the
tasks, and the registry at the end. -/
def Finishes (p : Pool α) (answers : List α) (after : Registry) : Prop :=
  ReflTransGen Step p ⟨after, answers.map .done⟩

/-- No two tasks update the same file. -/
def Separate (p : Pool α) : Prop := p.tasks.Pairwise Task.Apart

/-- What is foretold to stand under a key when all tasks have ended. -/
def settled (p : Pool α) (key : String) : Option (List CssModule) :=
  p.tasks.foldl (fun ms t => t.effect key ms) (p.registry.files.get? key)

/-- Tasks that do not update a file leave its modules as they are. -/
lemma foldl_effect_of_not_touches {key : String} :
    ∀ (ts : List (Task α)) (ms : Option (List CssModule)), (∀ t ∈ ts, ¬ t.Touches key) →
      ts.foldl (fun ms t => t.effect key ms) ms = ms := by
  intro ts
  induction ts with
  | nil =>
    intro ms _
    rfl
  | cons t ts ih =>
    intro ms h
    rw [List.foldl_cons, t.effect_of_not_touches ms (h t List.mem_cons_self)]
    exact ih ms fun u hu => h u (List.mem_cons_of_mem t hu)

/-- Of tasks that update different files, the order does not matter for what is foretold. -/
lemma settled_eq_of_perm {r : Registry} {ts us : List (Task α)} (h : Separate ⟨r, ts⟩)
    (hperm : us.Perm ts) (key : String) : settled ⟨r, us⟩ key = settled ⟨r, ts⟩ key := by
  refine (List.Perm.foldl_eq' hperm.symm (fun t ht u hu ms => ?_) _).symm
  by_cases heq : t = u
  · rw [heq]
  · have hapart : t.Apart u := List.Pairwise.forall h ht hu heq
    by_cases htouch : t.Touches key
    · have hu' : ¬ u.Touches key := fun hu' => hapart key ⟨htouch, hu'⟩
      rw [u.effect_of_not_touches _ hu', u.effect_of_not_touches _ hu']
    · rw [t.effect_of_not_touches _ htouch, t.effect_of_not_touches _ htouch]

namespace Step

variable {p q : Pool α}

/-- **A step changes no answer.** -/
theorem answers_eq (h : Step p q) : q.tasks.map Task.answer = p.tasks.map Task.answer := by
  obtain ⟨r, front, back, file, css, next⟩ := h
  simp [Task.answer]

/-- After a step there are still no two tasks that update the same file. -/
lemma separate (h : Step p q) (hp : p.Separate) : q.Separate := by
  obtain ⟨r, front, back, file, css, next⟩ := h
  -- what is left of the task updates no file that the task did not update
  have hleft : ∀ key, (next (moduleIds file css)).Touches key →
      (Task.replace file css next).Touches key := fun key htouch => Or.inr htouch
  obtain ⟨hfront, hrest, hcross⟩ := List.pairwise_append.mp hp
  obtain ⟨hhead, hback⟩ := List.pairwise_cons.mp hrest
  refine List.pairwise_append.mpr ⟨hfront, List.pairwise_cons.mpr ⟨?_, hback⟩, ?_⟩
  · intro u hu key hboth
    exact hhead u hu key ⟨hleft key hboth.1, hboth.2⟩
  · intro t ht u hu key hboth
    rcases List.mem_cons.mp hu with rfl | hu
    · exact hcross t ht _ List.mem_cons_self key ⟨hboth.1, hleft key hboth.2⟩
    · exact hcross t ht u (List.mem_cons_of_mem _ hu) key hboth

/-- **A step changes nothing that is foretold.** An update of another file does not matter, and an
update of the file itself is made by the only task that updates it. -/
theorem settled_eq (h : Step p q) (hp : p.Separate) (key : String) :
    q.settled key = p.settled key := by
  obtain ⟨r, front, back, file, css, next⟩ := h
  simp only [settled, List.foldl_append, List.foldl_cons, Registry.replaceFile_fst,
    Registry.get?_replaceFile, Task.effect]
  by_cases hkey : FileId.normalize file = key
  · have hfront : ∀ t ∈ front, ¬ t.Touches key := fun t ht htouch =>
      (List.pairwise_append.mp hp).2.2 t ht _ List.mem_cons_self key ⟨htouch, .inl hkey⟩
    rw [if_pos hkey, if_pos hkey, foldl_effect_of_not_touches front _ hfront]
  · rw [if_neg hkey, if_neg hkey]

end Step

/-- Along steps there are never two tasks that update the same file, and nothing that is foretold
changes. -/
lemma settled_eq_of_steps {p q : Pool α} (h : ReflTransGen Step p q) (hp : p.Separate) :
    q.Separate ∧ ∀ key, q.settled key = p.settled key := by
  induction h with
  | refl => exact ⟨hp, fun _ => rfl⟩
  | tail _ hstep ih =>
    obtain ⟨hsep, hsettled⟩ := ih
    exact ⟨hstep.separate hsep, fun key => (hstep.settled_eq hsep key).trans (hsettled key)⟩

namespace Finishes

variable {p : Pool α} {answers : List α} {after : Registry}

/-- **Every task answers as it does alone**, whatever the order of the updates. -/
theorem answers_eq (h : p.Finishes answers after) : answers = p.tasks.map Task.answer := by
  have hsteps : ∀ {q : Pool α}, ReflTransGen Step p q →
      q.tasks.map Task.answer = p.tasks.map Task.answer := by
    intro q hq
    induction hq with
    | refl => rfl
    | tail _ hstep ih => exact hstep.answers_eq.trans ih
  have hdone : (answers.map Task.done).map Task.answer = answers := by
    simp [Function.comp_def, Task.answer]
  exact hdone.symm.trans (hsteps h)

/-- **The modules of a file at the end** are those that were foretold. -/
theorem get?_eq (h : p.Finishes answers after) (hp : p.Separate) (key : String) :
    after.files.get? key = p.settled key := by
  have hdone : ∀ t ∈ answers.map Task.done, ¬ t.Touches key := by
    rintro t ht htouch
    obtain ⟨a, -, rfl⟩ := List.mem_map.mp ht
    exact htouch
  rw [← (settled_eq_of_steps h hp).2 key, settled, foldl_effect_of_not_touches _ _ hdone]

/-- **Any two orders end with registries that agree**, also if the tasks are listed in another
order. -/
theorem agree {q : Pool α} {answers' : List α} {after' : Registry} (hp : p.Finishes answers after)
    (hq : q.Finishes answers' after') (hsep : p.Separate) (hregistry : q.registry = p.registry)
    (hperm : q.tasks.Perm p.tasks) : after'.Agree after := by
  obtain ⟨r, ts⟩ := p
  obtain ⟨r', us⟩ := q
  obtain rfl : r' = r := hregistry
  have hsep' : Separate ⟨r', us⟩ := hperm.symm.pairwise hsep fun h => symm h
  refine Registry.agree_of_get?_eq fun key => ?_
  rw [hp.get?_eq hsep, hq.get?_eq hsep', settled_eq_of_perm hsep hperm]

end Finishes

/-- A task may run to its end while the others wait. -/
lemma steps_run (front back : List (Task α)) (t : Task α) : ∀ r : Registry,
    ReflTransGen Step ⟨r, front ++ t :: back⟩ ⟨(t.run r).2, front ++ .done (t.run r).1 :: back⟩ := by
  induction t with
  | done a =>
    intro r
    exact .refl
  | replace file css next ih =>
    intro r
    exact .head (.replace r front back file css next) (ih _ _)

end Pool

end StyleExtract
