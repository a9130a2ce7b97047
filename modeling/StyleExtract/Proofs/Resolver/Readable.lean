import Mathlib.Data.List.Nodup
import Mathlib.Tactic.Common
import StyleExtract.Proofs.Resolver.Run
import StyleExtract.Proofs.Script.ProgramText

/-!
# Resolvers read back

The programs that resolvers are the text of are in the part of the language that is read back, so
reading the text of a resolver and of its table gives the program, whatever names and texts the
author has chosen. And they have an early error in one case only, which is decided by the names of
the dimensions.

## Main results

* `Table.readDeclaration?_text` — a table is read back from its text.
* `Replacement.readProgram?_text` — a resolver is read back, together with its table.
* `Plan.IsResolver.isLegal_iff` — when a resolver has no early error.

## Design

The names of the author are identifiers that are not reserved, so they are read as variables
(`isVariable_of_isIdentifier`). Only the table of a plan without values is not the text of its
literal, since a comma stands behind its last entry; that comma adds nothing.
-/

namespace StyleExtract

open Script (Entries Head IsBindingName IsVariable IsWord Label Program Resolver Statement Term
  readDeclaration? readProgram?)

/-! ## Names -/

/-- An identifier is the name of a variable. -/
lemma isVariable_of_isIdentifier {s : String} (h : isIdentifier s = true) : IsVariable s := by
  rw [isIdentifier, Bool.and_eq_true, Bool.not_eq_true'] at h
  refine ⟨h.1, ?_⟩
  have hreserved : ∀ w ∈ Script.keywords ++ Script.strictWords ++ ["await"], w ∈ reservedWords := by
    decide
  have hnot : s ∉ Script.keywords ++ Script.strictWords ++ ["await"] := by
    intro hs
    simp [hreserved s hs] at h
  simpa [Script.isReserved, and_assoc] using hnot

/-- A binding is the name of a variable. -/
lemma Name.isVariable_binding (b : Binding) : IsVariable b.text := by
  have hb := b.valid
  simp only [NameKind.accepts, Bool.and_eq_true] at hb
  exact isVariable_of_isIdentifier hb.1

/-- A dimension is the name of a variable. -/
lemma Name.isVariable_dimension (d : Dimension) : IsVariable d.text := by
  have hd := d.valid
  simp only [NameKind.accepts, Bool.and_eq_true] at hd
  exact isVariable_of_isIdentifier hd.1.1.1

/-- The local of a resolver is the name of a variable. -/
lemma isVariable_classLocal : IsVariable classLocal := ⟨by decide, by decide⟩

/-- The name for the other properties is the name of a variable. -/
lemma isVariable_others : IsVariable PropsName.others.text := ⟨by decide, by decide⟩

/-! ## Tables -/

/-- The mark of an object without a prototype is read back. -/
lemma isReadable_proto : (Label.plain "__proto__").IsReadable :=
  show IsWord "__proto__" by decide

/-- Entries of a list are read back if each of them is. -/
lemma areReadable_ofList {entries : List (Label × Term)}
    (h : ∀ e ∈ entries, e.1.IsReadable ∧ e.2.IsReadable) :
    (Entries.ofList entries).AreReadable := by
  induction entries with
  | nil => trivial
  | cons e entries ih =>
    obtain ⟨he, hentries⟩ := List.forall_mem_cons.mp h
    exact ⟨he.1, he.2, ih hentries⟩

/-- The entries of a dimension are read back. -/
lemma DimensionPlan.isReadable_tableTerm (d : DimensionPlan) : d.tableTerm.IsReadable := by
  refine ⟨isReadable_proto, trivial, areReadable_ofList fun e he => ?_⟩
  obtain ⟨v, -, rfl⟩ := List.mem_map.mp he
  exact ⟨trivial, trivial⟩

/-- The literal of a table is read back. -/
lemma Plan.isReadable_tableTerm (p : Plan) : p.tableTerm.IsReadable := by
  refine ⟨isReadable_proto, trivial, areReadable_ofList fun e he => ?_⟩
  obtain ⟨d, -, rfl⟩ := List.mem_map.mp he
  exact ⟨d.name.isVariable_dimension.1, d.isReadable_tableTerm⟩

/-- **The table of a plan is read back.**

**Proof sketch.** A table without values is written with a comma behind its one entry, which adds no
entry (`readTerm_comma`). Any other table is the text of a term, and terms are read back. -/
theorem Table.readDeclaration?_text (t : Table) :
    readDeclaration? t.text = some t.declaration := by
  by_cases h : t.plan.inhabited = []
  · have htext : t.text = "const " ++ t.name.text ++ " = " ++
        braced (Label.text (.plain "__proto__") ++ ": " ++ Term.text .null ++ ", ") ++ ";" := by
      rw [Table.text, h]
      rfl
    have hterm : t.plan.tableTerm = .object (.cons (.plain "__proto__") .null .nil) := by
      rw [Plan.tableTerm, h]
      rfl
    rw [htext, declaration, hterm]
    refine Script.readDeclaration?_eq t.name.isVariable_binding fun fuel hfuel => ?_
    exact Script.readTerm_comma isReadable_proto (show Term.null.IsReadable from trivial)
      (Script.ends_semicolon []) hfuel
  · rw [← Table.text_declaration h]
    refine Script.readDeclaration?_eq t.name.isVariable_binding fun fuel hfuel => ?_
    exact Script.readTerm_text t.plan.isReadable_tableTerm (Script.ends_semicolon []) hfuel

/-! ## Statements -/

/-- A scalar is read back. -/
lemma ScalarKey.isReadable_term (k : ScalarKey) : k.term.IsReadable := by
  cases k with
  | bool b => trivial
  | integer n =>
    rw [term]
    split <;> trivial

/-- A scalar has no operator but perhaps a sign. -/
lemma ScalarKey.strength_term (k : ScalarKey) : 3 ≤ k.term.strength := by
  cases k with
  | bool b => exact Nat.le_succ 3
  | integer n =>
    rw [term]
    split <;> simp [Term.strength]

namespace ValuePlan

variable {name : String}

/-- The test of a value is read back. -/
lemma isReadable_testTerm (hname : IsVariable name) (v : ValuePlan) :
    (v.testTerm name).IsReadable := by
  have hsame : ∀ t : Term, t.IsReadable → 3 ≤ t.strength → (Term.same (.name name) t).IsReadable :=
    fun t ht hstrength => ⟨hname, ht, by simp [Term.strength], hstrength⟩
  have htextual := hsame (.quoted v.value.text) trivial (by simp [Term.strength])
  unfold testTerm
  cases v.key? with
  | none => exact htextual
  | some k =>
    exact ⟨htextual, hsame k.term k.isReadable_term k.strength_term, by simp [Term.strength]⟩

/-- The statement of a value is read back. -/
lemma isSimple_gather (v : ValuePlan) : v.gather.IsSimple := ⟨isVariable_classLocal, trivial⟩

/-- A chain of tests is read back. -/
lemma isReadable_chain (hname : IsVariable name) (v : ValuePlan) (vs : List ValuePlan) :
    (chain name v vs).IsReadable := by
  induction vs generalizing v with
  | nil => exact ⟨v.isReadable_testTerm hname, v.isSimple_gather⟩
  | cons w vs ih => exact ⟨v.isReadable_testTerm hname, v.isSimple_gather, ih w⟩

end ValuePlan

/-- The chain of a dimension is read back. -/
lemma DimensionPlan.isReadable_branchStatements (d : DimensionPlan) :
    ∀ s ∈ d.branchStatements, s.IsReadable := by
  unfold branchStatements
  cases d.values with
  | nil => simp
  | cons v vs => simpa using ValuePlan.isReadable_chain d.name.isVariable_dimension v vs

/-- The guard of a look-up is read back. -/
lemma DimensionPlan.isReadable_guardTerm {name : String} (hname : IsVariable name) :
    (guardTerm name).IsReadable := by
  have hnumber : IsVariable "Number" := ⟨by decide, by decide⟩
  have hmember : IsWord "isSafeInteger" := by decide
  have htype : ∀ s, (Term.same (.typeOf name) (.quoted s)).IsReadable := fun s =>
    ⟨hname, trivial, by simp [Term.strength], by simp [Term.strength]⟩
  exact ⟨⟨htype _, htype _, by simp [Term.strength]⟩, ⟨⟨hnumber, rfl, hmember⟩, rfl, hname⟩,
    by simp [Term.strength]⟩

/-- The look-up of a dimension is read back. -/
lemma DimensionPlan.isReadable_lookupStatement (d : DimensionPlan) (table : Binding) :
    (d.lookupStatement table.text).IsReadable := by
  have hname := d.name.isVariable_dimension
  have hentry :
      (Term.index (.member (.name table.text) d.name.text) (.name d.name.text)).IsReadable :=
    ⟨⟨table.isVariable_binding, rfl, hname.1⟩, rfl, hname⟩
  exact ⟨isVariable_classLocal, ⟨isReadable_guardTerm hname, hentry, by simp [Term.strength],
    by simp [Term.strength]⟩, trivial, by simp [Term.strength]⟩

/-- The statements of a plan are read back, and none is a declaration. -/
lemma Plan.isReadable_statements (p : Plan) (lookup : Lookup) :
    ∀ s ∈ p.statements lookup, s.IsReadable := by
  intro s hs
  cases lookup with
  | branches =>
    obtain ⟨d, -, hd⟩ := List.mem_flatMap.mp hs
    exact d.isReadable_branchStatements s hd
  | table name =>
    obtain ⟨d, -, rfl⟩ := List.mem_map.mp hs
    exact d.isReadable_lookupStatement name

/-- A statement that is no declaration is a line. -/
lemma Script.Statement.IsReadable.isLine {s : Statement} (h : s.IsReadable) : s.IsLine := by
  cases s with
  | declare x t => exact h.elim
  | append x t => exact h
  | «when» test yes => exact h
  | choose test yes no => exact h

/-- A statement that is no declaration declares nothing. -/
lemma Script.Statement.IsReadable.declared?_eq {s : Statement} (h : s.IsReadable) :
    s.declared? = none := by
  cases s with
  | declare x t => exact h.elim
  | append x t => rfl
  | «when» test yes => rfl
  | choose test yes no => rfl

/-! ## Resolvers -/

/-- What a component returns is read back. -/
lemma Target.isReadable_creation (t : Target) : t.creation.IsReadable := by
  have hvariable : ∀ h : Helper, IsVariable h.alias := fun h => by
    cases h <;> exact ⟨by decide, by decide⟩
  have hmember : IsWord "className" := by decide
  have hterm : t.elementTerm.IsReadable := by
    cases t with
    | tag t => trivial
    | component b => exact b.isVariable_binding
  have hprops : t.propsTerm.IsReadable := by
    cases t with
    | tag t => exact ⟨hvariable _, rfl, isVariable_others⟩
    | component b => exact isVariable_others
  exact ⟨hvariable _, rfl, hterm, hprops, hmember,
    ⟨hvariable _, rfl, isVariable_classLocal, isVariable_others, rfl, hmember⟩, trivial⟩

/-- The class and the name that a component shows are read back. -/
lemma areReadable_exposedEntries (className display : String) :
    (exposedEntries className display).AreReadable := by
  have hclass : IsWord "className" := by decide
  have hdisplay : IsWord "displayName" := by decide
  exact ⟨hclass, trivial, hdisplay, trivial, trivial⟩

namespace Plan.IsResolver

variable {p : Plan} {lookup : Lookup} {f : Resolver}

/-- The parameters of a plan are words. -/
lemma isWord_of_mem_parameters (p : Plan) : ∀ q ∈ p.parameters, IsWord q.name := by
  intro q hq
  obtain ⟨d, -, rfl⟩ := List.mem_map.mp hq
  exact d.name.isVariable_dimension.1

/-- What a resolver takes its argument as is read back. -/
lemma isReadable_head (h : p.IsResolver lookup f) : f.head.IsReadable := by
  have hwords := isWord_of_mem_parameters p
  cases h with
  | className =>
    unfold classResolver classHead
    cases hps : p.parameters with
    | nil => exact (show IsWord "_" by decide)
    | cons q qs => exact ⟨hps ▸ hwords, by simp, .inl (List.cons_ne_nil q qs)⟩
  | component target =>
    refine ⟨hwords, ?_, .inr (by simp)⟩
    rintro _ ⟨⟩
    exact isVariable_others.1

/-- **A resolver is read back.** -/
theorem isReadable (h : p.IsResolver lookup f) : f.IsReadable where
  head := h.isReadable_head
  body := by
    intro s hs
    rw [h.body_eq] at hs
    rcases List.mem_cons.mp hs with rfl | hs
    · exact ⟨isVariable_classLocal, trivial⟩
    · exact (p.isReadable_statements lookup s hs).isLine
  result := by
    cases h with
    | className => exact isVariable_classLocal
    | component target => exact target.isReadable_creation

/-- Apart from what its parameter binds, a resolver binds its local. -/
lemma names_eq (h : p.IsResolver lookup f) : f.names = f.head.names ++ [classLocal] := by
  have hnone : (p.statements lookup).filterMap Statement.declared? = [] :=
    List.filterMap_eq_nil_iff.mpr fun s hs => (p.isReadable_statements lookup s hs).declared?_eq
  rw [Resolver.names, h.body_eq, body, List.filterMap_cons, Statement.declared?, hnone]

/-- A resolver binds each of its dimensions. -/
lemma text_mem_names (h : p.IsResolver lookup f) {d : DimensionPlan} (hd : d ∈ p.dimensions) :
    d.name.text ∈ f.head.names := by
  have hmem : d.name.text ∈ p.parameters.map Script.Parameter.name := by
    rw [p.map_name_parameters]
    exact List.mem_map_of_mem hd
  cases h with
  | className =>
    unfold classResolver classHead
    cases hps : p.parameters with
    | nil => simp [hps] at hmem
    | cons q qs =>
      rw [hps] at hmem
      simpa [Head.names] using hmem
  | component target => exact List.mem_append_left _ hmem

/-- **A resolver has no early error exactly if none of its dimensions is `eval` or `arguments`**,
where its table has a name that may be bound.

**Proof sketch.** Apart from its dimensions it binds names of generated code, which differ from them
and may be bound. The dimensions differ from each other. They are variables, and among these strict
code forbids just two. -/
theorem isLegal_iff (h : p.IsResolver lookup f) (hp : p.WellFormed)
    {table : Option (String × Term)} (ht : ∀ t ∈ table, IsBindingName t.1)
    (exposed : Option Entries) :
    (Program.mk table f exposed).IsLegal ↔
      ∀ d ∈ p.dimensions, d.name.text ≠ "eval" ∧ d.name.text ≠ "arguments" := by
  constructor
  · intro hlegal d hd
    have hmem : d.name.text ∈ f.names := h.names_eq ▸ List.mem_append_left _ (h.text_mem_names hd)
    exact d.name.isVariable_dimension.isBindingName_iff.mp (hlegal.names _ hmem)
  · intro hdims
    have hlocal : classLocal ∉ f.head.names := fun hmem => by
      rcases h.mem_names hmem with ⟨d, -, hd⟩ | hnone | hothers
      · exact d.name.dimension_ne (by decide) hd
      · exact absurd hnone (by decide)
      · exact absurd hothers (by decide)
    refine ⟨?_, fun x hx => ?_, ht⟩
    · rw [h.names_eq]
      refine (h.nodup_names hp).append (List.nodup_singleton _) fun x hx hy => ?_
      exact hlocal (List.mem_singleton.mp hy ▸ hx)
    · rw [h.names_eq] at hx
      rcases List.mem_append.mp hx with hx | hx
      · rcases h.mem_names hx with ⟨d, hd, rfl⟩ | rfl | rfl
        · exact d.name.isVariable_dimension.isBindingName_iff.mpr (hdims d hd)
        · decide
        · decide
      · rw [List.mem_singleton.mp hx]
        decide

end Plan.IsResolver

/-- The function of the program of a replacement carries out a plan, and its table is the
replacement's. -/
lemma Replacement.isResolver_of_program? {r : Replacement} {q : Program} (h : r.program? = some q) :
    (∃ p lookup, Plan.IsResolver p lookup q.resolver) ∧ (∀ e ∈ q.exposed, e.AreReadable) ∧
      q.table = r.table.map Table.declaration := by
  unfold program? at h
  split at h
  · next plan lookup _ =>
    cases h
    exact ⟨⟨plan, lookup, .className⟩, by simp, rfl⟩
  · next plan lookup target display _ =>
    cases h
    refine ⟨⟨plan, lookup, .component target⟩, ?_, rfl⟩
    rintro _ ⟨⟩
    exact areReadable_exposedEntries _ _
  · cases h

/-- **The program of a replacement is read back from its text and that of its table.** -/
theorem Replacement.readProgram?_text {r : Replacement} {q : Program} (h : r.program? = some q) :
    readProgram? (r.table.map Table.text) r.code.text = some q := by
  obtain ⟨⟨p, lookup, hf⟩, hexposed, htable⟩ := isResolver_of_program? h
  rw [← text_program h]
  refine Program.readProgram?_text ⟨hf.isReadable, hexposed⟩ ?_ ?_
  · rw [htable]
    cases r.table with
    | none => rfl
    | some t => exact t.readDeclaration?_text
  · rw [htable]
    cases r.table <;> rfl

end StyleExtract
