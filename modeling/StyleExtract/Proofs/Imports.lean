import Mathlib.Data.List.Nodup
import Mathlib.Tactic.Common
import StyleExtract.Api

/-!
# Which imports are recognized

A file may import the authoring functions in any number of declarations and under any names. What is
kept of them is one local name for each function, so of two imports of the same function the later
one counts, and a name that was imported before stands for nothing any more.

## Main definitions

* `Imports.importedLocals` — the local names of all named imports of a module.
* `Imports.Provides` — a module imports a function under a local name.
* `Imports.apiImports` — the imports of functions with their local names, in order.

## Main results

* `Imports.mem_apiImports` — the list has the imports that a module provides.
* `Imports.localName_ofItems` — the local name of a function is that of its last import.
* `Imports.recognized_iff_last` — a local name stands for a function exactly if it is that of the
  last import of the function.
-/

namespace StyleExtract

open Script (Import ImportName Item)

namespace ApiFunction

/-- The functions are told apart by the names under which they are exported. -/
lemma ofExport?_eq_some_iff {name : String} {f : ApiFunction} :
    ofExport? name = some f ↔ name = f.exportName := by
  constructor
  · intro h
    have hname := List.find?_some h
    simpa using (of_decide_eq_true hname).symm
  · rintro rfl
    cases f <;> rfl

lemma mem_all (f : ApiFunction) : f ∈ all := by
  cases f <;> decide

end ApiFunction

namespace Imports

/-! ## The imports of a module -/

/-- The local names of all named imports of a module. -/
def importedLocals (items : List Item) : List String :=
  (items.filterMap declarationOf?).flatMap fun d => d.names.map ImportName.localName

/-- **A module imports a function under a local name**: some declaration that is not of types only,
and whose source provides the authoring functions, has a name that is not that of a type, for the
export of the function. -/
def Provides (options : Options) (items : List Item) (f : ApiFunction) (x : String) : Prop :=
  ∃ span d n, Item.import span d ∈ items ∧ d.typeOnly = false ∧
    (options.runtimeFor? d.source).isSome = true ∧ n ∈ d.names ∧ n.typeOnly = false ∧
    n.exported = f.exportName ∧ n.localName = x

/-- The function that a named import is one of, with the local name. -/
def apiName? (n : ImportName) : Option (ApiFunction × String) :=
  if n.typeOnly then none else (ApiFunction.ofExport? n.exported).map fun f => (f, n.localName)

/-- The imports of functions in a declaration, with their local names. -/
def apiNames (options : Options) (d : Import) : List (ApiFunction × String) :=
  if d.typeOnly || (options.runtimeFor? d.source).isNone then [] else d.names.filterMap apiName?

/-- **The imports of functions in a module**, with their local names, in order. -/
def apiImports (options : Options) (items : List Item) : List (ApiFunction × String) :=
  (items.filterMap declarationOf?).flatMap (apiNames options)

lemma apiName?_eq_some_iff {n : ImportName} {f : ApiFunction} {x : String} :
    apiName? n = some (f, x) ↔
      n.typeOnly = false ∧ n.exported = f.exportName ∧ n.localName = x := by
  unfold apiName?
  cases n.typeOnly with
  | true => simp
  | false => simp [Option.map_eq_some_iff, ApiFunction.ofExport?_eq_some_iff]

lemma declarationOf?_eq_some_iff {item : Item} {d : Import} :
    declarationOf? item = some d ↔ ∃ span, item = .import span d := by
  cases item <;> simp [declarationOf?]

/-- The list has the imports that a module provides. -/
lemma mem_apiImports {options : Options} {items : List Item} {f : ApiFunction} {x : String} :
    (f, x) ∈ apiImports options items ↔ Provides options items f x := by
  have hnames : ∀ d, (f, x) ∈ apiNames options d ↔ d.typeOnly = false ∧
      (options.runtimeFor? d.source).isSome = true ∧ ∃ n ∈ d.names, n.typeOnly = false ∧
        n.exported = f.exportName ∧ n.localName = x := by
    intro d
    unfold apiNames
    cases d.typeOnly <;> cases options.runtimeFor? d.source <;>
      simp [List.mem_filterMap, apiName?_eq_some_iff]
  simp only [apiImports, List.mem_flatMap, List.mem_filterMap, declarationOf?_eq_some_iff, hnames]
  constructor
  · rintro ⟨d, ⟨item, hitem, span, rfl⟩, htype, hsource, n, hn, hrest⟩
    exact ⟨span, d, n, hitem, htype, hsource, hn, hrest⟩
  · rintro ⟨span, d, n, hitem, htype, hsource, hn, hrest⟩
    exact ⟨d, ⟨_, hitem, span, rfl⟩, htype, hsource, n, hn, hrest⟩

/-- The local names of functions are among the local names of the module, in order.

**Proof sketch.** Induction on the names of a declaration and then on the declarations. A name that
is left out, because it is no function or its declaration is not of the authoring functions,
shortens the one list only. -/
lemma sublist_importedLocals (options : Options) (items : List Item) :
    ((apiImports options items).map Prod.snd).Sublist (importedLocals items) := by
  unfold apiImports importedLocals
  have hnames : ∀ names : List ImportName,
      ((names.filterMap apiName?).map Prod.snd).Sublist (names.map ImportName.localName) := by
    intro names
    induction names with
    | nil => exact .slnil
    | cons n names ih =>
      cases h : apiName? n with
      | none =>
        rw [List.filterMap_cons_none h]
        exact ih.cons _
      | some b =>
        rw [List.filterMap_cons_some h, List.map_cons, List.map_cons,
          (apiName?_eq_some_iff.mp h).2.2]
        exact ih.cons_cons _
  induction items.filterMap declarationOf? with
  | nil => exact .slnil
  | cons d ds ih =>
    rw [List.flatMap_cons, List.flatMap_cons, List.map_append]
    refine List.Sublist.append ?_ ih
    unfold apiNames
    split
    · exact List.nil_sublist _
    · exact hnames d.names

/-! ## What is kept -/

/-- A named import sets the local name of its function. -/
lemma localName_addName (i : Imports) (n : ImportName) (f : ApiFunction) :
    (i.addName n).localName f = ((apiName? n).toList.lookup f).or (i.localName f) := by
  unfold addName apiName?
  cases n.typeOnly with
  | true => simp
  | false =>
    cases ApiFunction.ofExport? n.exported with
    | none => simp
    | some g => by_cases h : f = g <;> simp [bind, List.lookup_cons, h, beq_eq_false_iff_ne.mpr]

/-- Of some imports the last one of a function counts. -/
lemma localName_foldl_addName (f : ApiFunction) (names : List ImportName) (i : Imports) :
    (names.foldl addName i).localName f =
      ((names.filterMap apiName?).reverse.lookup f).or (i.localName f) := by
  induction names generalizing i with
  | nil => rfl
  | cons n names ih =>
    rw [List.foldl_cons, ih, localName_addName]
    cases h : apiName? n with
    | none => simp [List.filterMap_cons_none h]
    | some b => simp [List.filterMap_cons_some h, List.lookup_append, Option.or_assoc]

lemma localName_add (options : Options) (i : Imports) (d : Import) (f : ApiFunction) :
    (i.add options d).localName f =
      ((apiNames options d).reverse.lookup f).or (i.localName f) := by
  unfold add apiNames
  cases d.typeOnly with
  | true => simp
  | false => cases options.runtimeFor? d.source <;> simp [localName_foldl_addName]

/-- **The local name of a function is that of its last import.** -/
theorem localName_ofItems (options : Options) (items : List Item) (f : ApiFunction) :
    (ofItems options items).localName f = (apiImports options items).reverse.lookup f := by
  have hrun : ∀ (ds : List Import) (i : Imports), (ds.foldl (add options) i).localName f =
      ((ds.flatMap (apiNames options)).reverse.lookup f).or (i.localName f) := by
    intro ds
    induction ds with
    | nil => intro i; rfl
    | cons d ds ih =>
      intro i
      rw [List.foldl_cons, ih, localName_add]
      simp [List.lookup_append, Option.or_assoc]
  rw [ofItems, hrun, apiImports, empty, Option.or_none]

/-- The same said of the list: behind the import there is no other one of the function. -/
lemma localName_eq_some_iff {options : Options} {items : List Item} {f : ApiFunction}
    {x : String} : (ofItems options items).localName f = some x ↔
      ∃ earlier later, apiImports options items = earlier ++ (f, x) :: later ∧
        ∀ b ∈ later, b.1 ≠ f := by
  rw [localName_ofItems, List.lookup_eq_some_iff]
  constructor
  · rintro ⟨later, earlier, hlist, hlater⟩
    refine ⟨earlier.reverse, later.reverse, ?_, fun b hb => ?_⟩
    · rw [← List.reverse_reverse (apiImports options items), hlist]
      simp
    · have hne := hlater b (List.mem_reverse.mp hb)
      exact Ne.symm (by simpa using hne)
  · rintro ⟨earlier, later, hlist, hlater⟩
    refine ⟨later.reverse, earlier.reverse, by rw [hlist]; simp, fun b hb => ?_⟩
    simpa using Ne.symm (hlater b (List.mem_reverse.mp hb))

/-! ## Looking a local name up -/

/-- If no two functions have the same local name, a name stands for the function that has it. -/
lemma functionOf?_eq_some_iff {i : Imports} {x : String} {f : ApiFunction}
    (h : ∀ g, i.localName f = some x → i.localName g = some x → f = g) :
    i.functionOf? x = some f ↔ i.localName f = some x := by
  constructor
  · intro hf
    simpa [isLocal] using List.find?_some hf
  · intro hf
    cases hg : i.functionOf? x with
    | none =>
      have hnone := List.find?_eq_none.mp hg f f.mem_all
      simp [isLocal, hf] at hnone
    | some g =>
      have hlocal : i.localName g = some x := by simpa [isLocal] using List.find?_some hg
      rw [h g hf hlocal]

section Distinct

variable {options : Options} {items : List Item} (hlocals : (importedLocals items).Nodup)

include hlocals

/-- Two imports of functions under the same local name are the same import. -/
lemma eq_of_local_eq {a b : ApiFunction × String} (ha : a ∈ apiImports options items)
    (hb : b ∈ apiImports options items) (h : a.2 = b.2) : a = b :=
  List.inj_on_of_nodup_map (hlocals.sublist (sublist_importedLocals options items)) ha hb h

/-- A local name stands for the function that it is kept for. -/
lemma functionOf?_ofItems {f : ApiFunction} {x : String} :
    (ofItems options items).functionOf? x = some f ↔
      (ofItems options items).localName f = some x := by
  have hmem : ∀ {g}, (ofItems options items).localName g = some x →
      (g, x) ∈ apiImports options items := by
    intro g hg
    obtain ⟨earlier, later, hlist, -⟩ := localName_eq_some_iff.mp hg
    simp [hlist]
  refine functionOf?_eq_some_iff fun g hf hg => ?_
  exact congrArg Prod.fst (eq_of_local_eq hlocals (hmem hf) (hmem hg) rfl)

/-- All imports are recognized exactly if no function is imported twice.

**Proof sketch.** Two imports of one function cannot both be kept, since their local names differ.
If no function is imported twice, each import is the last of its function. -/
lemma recognizes_all_iff :
    (∀ b ∈ apiImports options items, (ofItems options items).functionOf? b.2 = some b.1) ↔
      ((apiImports options items).map Prod.fst).Nodup := by
  constructor
  · intro hall
    have hsnd := hlocals.sublist (sublist_importedLocals options items)
    refine List.pairwise_map.mpr ((List.pairwise_map.mp hsnd).imp_of_mem ?_)
    intro a b ha hb hne hfst
    -- both local names are kept for the same function
    have hkept := (functionOf?_ofItems hlocals).mp (hall a ha)
    rw [hfst, (functionOf?_ofItems hlocals).mp (hall b hb)] at hkept
    exact hne (Option.some.inj hkept).symm
  · intro hnodup b hb
    obtain ⟨earlier, later, hlist⟩ := List.append_of_mem hb
    rw [hlist, List.map_append, List.map_cons, List.nodup_append] at hnodup
    have hlater : b.1 ∉ later.map Prod.fst := (List.nodup_cons.mp hnodup.2.1).1
    refine (functionOf?_ofItems hlocals).mpr (localName_eq_some_iff.mpr ⟨earlier, later, hlist, ?_⟩)
    exact fun c hc heq => hlater (List.mem_map.mpr ⟨c, hc, heq⟩)

/-- **Which imports are recognized.** In a module whose imports have different local names, a local
name stands for a function exactly if it is that of the last import of the function. So all imports
that the module provides are recognized exactly if no function is imported twice. A name under which
no function is imported stands for none.

**Proof sketch.** A function has one local name, which every further import of it overwrites. The
local names of the module differ, so the search for a name finds at most one function, and it finds
the function whose last import has this name. -/
theorem recognized_iff_last :
    (∀ f x, (ofItems options items).functionOf? x = some f ↔
      ∃ earlier later, apiImports options items = earlier ++ (f, x) :: later ∧
        ∀ b ∈ later, b.1 ≠ f) ∧
    ((∀ f x, Provides options items f x → (ofItems options items).functionOf? x = some f) ↔
      ((apiImports options items).map Prod.fst).Nodup) ∧
    (∀ x, (∀ f, ¬ Provides options items f x) →
      (ofItems options items).functionOf? x = none) := by
  refine ⟨fun f x => (functionOf?_ofItems hlocals).trans localName_eq_some_iff, ?_, ?_⟩
  · rw [← recognizes_all_iff hlocals]
    constructor
    · exact fun h b hb => h b.1 b.2 (mem_apiImports.mp hb)
    · exact fun h f x hprovides => h (f, x) (mem_apiImports.mpr hprovides)
  · intro x hnone
    cases h : (ofItems options items).functionOf? x with
    | none => rfl
    | some f =>
      obtain ⟨earlier, later, hlist, -⟩ :=
        localName_eq_some_iff.mp ((functionOf?_ofItems hlocals).mp h)
      exact absurd (mem_apiImports.mp (by simp [hlist])) (hnone f)

end Distinct

/-- Two declarations, one of them under an alias from a development source: both functions are
recognized, and the name of the type is not. -/
theorem recognized_sample :
    let items : List Item :=
      [.import ⟨0, 0⟩ ⟨"@/index", false, [⟨"css", "c", false⟩, ⟨"styled", "T", true⟩]⟩,
        .import ⟨0, 0⟩ ⟨"styled-static", false, [⟨"cssVariants", "cssVariants", false⟩]⟩]
    let i := ofItems .standard items
    (importedLocals items).Nodup ∧ i.functionOf? "c" = some .css ∧
      i.functionOf? "cssVariants" = some .cssVariants ∧ i.functionOf? "T" = none := by
  intro items i
  have hlocals : (importedLocals items).Nodup := by decide
  obtain ⟨-, hall, hother⟩ := @recognized_iff_last .standard items hlocals
  have hrecognized := hall.mpr (by decide)
  refine ⟨hlocals, ?_, ?_, hother "T" fun f hf => ?_⟩
  · exact hrecognized _ _ (mem_apiImports.mp (by decide))
  · exact hrecognized _ _ (mem_apiImports.mp (by decide))
  · exact absurd (mem_apiImports.mpr hf) (by cases f <;> decide)

/-- A function that is imported under two names is recognized under the second only. -/
theorem first_alias_forgotten :
    let items : List Item :=
      [.import ⟨0, 0⟩ ⟨"styled-static", false, [⟨"css", "css", false⟩, ⟨"css", "c", false⟩]⟩]
    let i := ofItems .standard items
    (importedLocals items).Nodup ∧ Provides .standard items .css "css" ∧
      i.functionOf? "css" = none ∧ i.functionOf? "c" = some .css := by
  intro items i
  exact ⟨by decide, mem_apiImports.mp (by decide), by decide, by decide⟩

end Imports

end StyleExtract
