import Mathlib.Tactic.Common
import StyleExtract.Proofs.Splice

/-!
# Where inserted lines break a module

The place of inserted lines is found in the text, so it may fall inside an item. Where it falls
inside an initializer that is replaced, splicing fails, and by then the registry has changed. This
file says exactly when that happens.

## Main definitions

* `Script.Module.Nested` — initializers stand inside the items that they belong to.

## Main results

* `Script.Module.initializer_beside_front` — initializers stand before or behind the end of the last
  directive.
* `compileModule_misplaced_iff` — compiling fails exactly if a construct straddles the end of the
  line on which the front of the module ends.
* `insertion_inside_iff_straddles` — the place falls inside an item, or compiling fails, exactly if
  the item, or a construct, straddles that end.
-/

namespace StyleExtract

open Script (Item Module)
open Text (Ranges Span)

/-- Initializers stand inside the items that they belong to. -/
def Script.Module.Nested (m : Module) : Prop :=
  ∀ item ∈ m.items, ∀ d ∈ SourceFile.definedVariables item, ∀ init ∈ d.init,
    item.span.start ≤ init.span.start ∧ init.span.stop ≤ item.span.stop

instance (m : Module) : Decidable m.Nested :=
  inferInstanceAs (Decidable (∀ item ∈ m.items, ∀ d ∈ SourceFile.definedVariables item,
    ∀ init ∈ d.init, item.span.start ≤ init.span.start ∧ init.span.stop ≤ item.span.stop))

/-- Initializers stand before or behind the end of the last directive, as their items do. -/
lemma Script.Module.initializer_beside_front {text : List Char} {m : Module}
    (hitems : Ranges text (m.items.map Item.span)) (hnested : m.Nested) {s : Span}
    (hs : s ∈ m.initializers) {offset : ℕ} (ho : offset ∈ m.frontOffset?) :
    s.stop ≤ offset ∨ offset ≤ s.start := by
  obtain ⟨d, hd, hspan⟩ := List.mem_filterMap.mp hs
  obtain ⟨init, hinit, rfl⟩ := Option.map_eq_some_iff.mp hspan
  obtain ⟨item, hitem, hd⟩ := List.mem_flatMap.mp hd
  have hinside := hnested item hitem d hd init hinit
  rcases item_beside_front hitems ho hitem with h | h
  · left
    omega
  · right
    omega

section Compile

variable {f : SourceFile} {m : Module} {log log' : List LogEntry} {found : List Declaration}
  {options : Options} {id : String} {g : Generator} {emitted : List Emitted} {source : String}

/-- Constructs straddle the end of the front of a module exactly if the place of inserted lines
falls inside their initializers. -/
lemma construct_straddles_iff (hfound : (f.classify m.items).run.run log = (.ok found, log'))
    (hitems : Ranges source.toList (m.items.map Item.span))
    (hinits : Ranges source.toList m.initializers) (hnested : m.Nested) {place : ℕ}
    (hpoint : m.insertionPoint? source.toList = some place) {d : Declaration} (hd : d ∈ found) :
    (d.span.start < place ∧ place < d.span.stop) ↔ m.Straddles source.toList d.span := by
  have hmem : d.span ∈ m.initializers :=
    (f.ensures_classify m log found log' hfound).subset (List.mem_map_of_mem hd)
  exact Script.Module.inside_iff_straddles hitems hpoint (hinits.fits _ hmem) fun _ ho =>
    Script.Module.initializer_beside_front hitems hnested hmem ho

/-- **Compiling a module whose constructs have code** updates the registry in any case, and fails
exactly if a construct straddles the end of the front of the module.

**Proof sketch.** Once all constructs have code the registry is updated, and only the splice can
still fail. It does exactly if the place of the lines falls inside the range of a construct, which
is to say that the construct straddles the end of the front. -/
theorem compileModule_misplaced_iff
    (hfound : (f.classify m.items).run.run log = (.ok found, log'))
    (hemit : emitAll (.ofFile options id) ⟨id, options.tableThreshold, 0, {}⟩ found =
      .ok (emitted, g)) (hitems : Ranges source.toList (m.items.map Item.span))
    (hinits : Ranges source.toList m.initializers) (hnested : m.Nested) (registry : Registry)
    (runtime : String) :
    (compileModule options registry source id runtime m found).registry =
      (registry.replaceReport id (emitted.filterMap Emitted.css)).registry ∧
    ((compileModule options registry source id runtime m found).result = .error .misplaced ↔
      ∃ d ∈ found, m.Straddles source.toList d.span) := by
  obtain ⟨place, hpoint, hplace⟩ := Script.Module.exists_insertionPoint hitems
  have hsome := output?_isSome_iff hfound hemit hinits hpoint hplace id
    (preamble g.usage runtime (registry.replaceReport id (emitted.filterMap Emitted.css)).result
      emitted) (registry.replaceReport id (emitted.filterMap Emitted.css)).result
  have hfails : (∃ d ∈ found, m.Straddles source.toList d.span) ↔
      ¬ ∀ d ∈ found, ¬ (d.span.start < place ∧ place < d.span.stop) := by
    simp only [not_forall, not_not, exists_prop]
    refine exists_congr fun d => and_congr_right fun hd => ?_
    exact (construct_straddles_iff hfound hitems hinits hnested hpoint hd).symm
  rw [hfails, ← hsome]
  unfold compileModule
  simp only [hemit]
  cases output? id source m _ emitted _ with
  | none => simp [Report.map]
  | some output => simp [Report.map]

end Compile

/-- **Where inserted lines break a module.** The place of the lines falls inside an item exactly if
the item straddles the end of the front of the module: it starts on the line on which the last
directive ends, or on a line for the operating system, and goes on behind the first line feed from
there. Compiling the constructs of the module updates the registry, and then fails exactly if one
of them straddles that end.

**Proof sketch.** The place is the end of the line on which the front of the module ends. An item
stands before or behind that front, and one behind it holds the place inside exactly if it starts on
that line and goes on behind it (`Module.inside_iff_straddles`). What compiling does with such a
construct is `compileModule_misplaced_iff`. -/
theorem insertion_inside_iff_straddles {m : Module} {source : String}
    (hitems : Ranges source.toList (m.items.map Item.span)) :
    ∃ place, m.insertionPoint? source.toList = some place ∧
      (∀ item ∈ m.items, (item.span.start < place ∧ place < item.span.stop) ↔
        m.Straddles source.toList item.span) ∧
      (Ranges source.toList m.initializers → m.Nested →
        ∀ (f : SourceFile) (log log' : List LogEntry) (found : List Declaration),
          (f.classify m.items).run.run log = (.ok found, log') →
        ∀ (options : Options) (id : String) (g : Generator) (emitted : List Emitted),
          emitAll (.ofFile options id) ⟨id, options.tableThreshold, 0, {}⟩ found =
            .ok (emitted, g) →
        ∀ (registry : Registry) (runtime : String),
          (compileModule options registry source id runtime m found).registry =
            (registry.replaceReport id (emitted.filterMap Emitted.css)).registry ∧
          ((compileModule options registry source id runtime m found).result =
              .error .misplaced ↔
            ∃ d ∈ found, m.Straddles source.toList d.span)) := by
  obtain ⟨place, hpoint, -⟩ := Script.Module.exists_insertionPoint hitems
  refine ⟨place, hpoint, ?_, ?_⟩
  · intro item hitem
    exact Script.Module.inside_iff_straddles hitems hpoint
      (hitems.fits _ (List.mem_map_of_mem hitem)) fun _ ho =>
        Script.Module.item_beside_front hitems ho hitem
  · intro hinits hnested f log log' found hfound options id g emitted hemit registry runtime
    exact compileModule_misplaced_iff hfound hemit hitems hinits hnested registry runtime

/-- A directive, and on its line a construct that goes on behind the line. -/
def straddlingSource : String := "\"a\";import\x7bcss\x7dfrom\"styled-static\";const b=css`\n`"

/-- The tree of this source. -/
def straddlingModule : Module where
  hashbang := false
  items :=
    [.expression ⟨0, 4⟩ (.text ⟨0, 3⟩ "a"),
      .import ⟨4, 35⟩ ⟨"styled-static", false, [⟨"css", "css", false⟩]⟩,
      .variables ⟨35, 49⟩ false
        [⟨some "b", some (.tagged ⟨43, 49⟩ (.ident ⟨43, 46⟩ "css") ⟨46, 49⟩ [])⟩]]

/-- The construct of this source. -/
def straddlingConstruct : Declaration := .construct ⟨.scopedClass, "b", "\n", ⟨43, 49⟩⟩

/-- The construct goes on behind the line of the directive, so the place of inserted lines falls
inside it, and compiling it fails. -/
theorem insertion_inside_iff_straddles_sample :
    Ranges straddlingSource.toList (straddlingModule.items.map Item.span) ∧
    straddlingModule.Straddles straddlingSource.toList ⟨35, 49⟩ ∧
    (∃ place, straddlingModule.insertionPoint? straddlingSource.toList = some place ∧
      35 < place ∧ place < 49) ∧
    (compileModule .standard .empty straddlingSource "f.js" "r" straddlingModule
      [straddlingConstruct]).result = .error .misplaced := by
  have hitems : Ranges straddlingSource.toList (straddlingModule.items.map Item.span) := by
    decide +kernel
  have hinits : Ranges straddlingSource.toList straddlingModule.initializers := by decide +kernel
  have hnested : straddlingModule.Nested := by decide
  have hfound : (SourceFile.classify ⟨"f.js", straddlingSource.toList,
      Imports.empty.bind .css "css", .debug⟩ straddlingModule.items).run.run [] =
        (.ok [straddlingConstruct], []) := by
    change (_ : Except Failure (List Declaration) × List LogEntry) = _
    decide +kernel
  have hitem : straddlingModule.Straddles straddlingSource.toList ⟨35, 49⟩ :=
    ⟨4, rfl, "import\x7bcss\x7dfrom\"styled-static\";".toList, "const b=css`\n`".toList,
      by decide +kernel, by decide +kernel, by decide, by decide⟩
  have hconstruct : straddlingModule.Straddles straddlingSource.toList ⟨43, 49⟩ :=
    ⟨4, rfl, "import\x7bcss\x7dfrom\"styled-static\";const b=".toList, "css`\n`".toList,
      by decide +kernel, by decide +kernel, by decide, by decide⟩
  obtain ⟨place, hpoint, hinside, hcompile⟩ := insertion_inside_iff_straddles hitems
  have hplace := (hinside _ (List.mem_of_getLast? rfl)).mpr hitem
  have hfails := hcompile hinits hnested _ _ _ _ hfound .standard "f.js" _ _ rfl .empty "r"
  exact ⟨hitems, hitem, ⟨place, hpoint, hplace⟩,
    hfails.2.mpr ⟨straddlingConstruct, by simp, hconstruct⟩⟩

/-- The place of inserted lines falls inside an item of this source, and splicing fails after the
registry has changed. -/
theorem insertion_inside_item :
    ¬ (∀ m, Script.parseModule? (Script.Dialect.ofFile "f.js") straddlingSource = some m →
      Ranges straddlingSource.toList (m.items.map Item.span) →
      ∀ place ∈ m.insertionPoint? straddlingSource.toList,
        ∀ item ∈ m.items, ¬ (item.span.start < place ∧ place < item.span.stop)) ∧
    (transformFile .standard .empty straddlingSource "f.js").result = .error .misplaced ∧
    (transformFile .standard .empty straddlingSource "f.js").registry.files.entries ≠ [] := by
  refine ⟨?_, by decide +kernel, by decide +kernel⟩
  intro h
  have hparse : (Script.parseModule? (Script.Dialect.ofFile "f.js") straddlingSource).any
      (fun m => decide (Ranges straddlingSource.toList (m.items.map Item.span) ∧
        ¬ ∀ place ∈ m.insertionPoint? straddlingSource.toList,
          ∀ item ∈ m.items, ¬ (item.span.start < place ∧ place < item.span.stop))) = true := by
    decide +kernel
  obtain ⟨m, hm, hinside⟩ := (Option.any_eq_true _ _).mp hparse
  obtain ⟨hranges, hinside⟩ := of_decide_eq_true hinside
  exact hinside (h m hm hranges)

end StyleExtract
