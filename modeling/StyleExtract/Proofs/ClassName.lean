import Mathlib.Tactic.Common
import Mathlib.Tactic.IntervalCases
import StyleExtract.Proofs.Digest
import StyleExtract.Proofs.VariantClasses

/-!
# What a class name tells

A class name is made of the prefix, a word or two for what it belongs to, and the dimension and the
value if it is the class of a pair. The parts are joined by hyphens, and the prefix and the value
may have hyphens of their own. Still no two classes of a build share a name unless they agree in all
these parts.

## Main definitions

* `ClassOwner` — what has a class of its own.
* `ClassOrigin` — a class: its file, its owner and, for the class of a pair, the pair.
* `ClassOrigin.name?` — its name.

## Main results

* `Text.isAlphanumeric_of_mem`, `Digest.isAlphanumeric_of_mem` — the characters of the words.
* `ClassOrigin.names_eq_iff` — two names are the same exactly if all parts are.

## Design

The prefix is the same throughout a build, so it can be cancelled with the hyphen behind it. Each
word is free of hyphens, and what stands behind it is empty or starts with one, so the words can be
cut off one after the other (`Text.append_inj_of_notMem`). What is left tells the pair.
-/

namespace StyleExtract

/-! ## Words -/

/-- The characters of the reduced form of a text. -/
lemma Text.isAlphanumeric_of_mem {s : String} {c : Char} (h : c ∈ (alphanumeric s).toList) :
    (isLetter c || isDigit c) = true := by
  rw [alphanumeric, String.toList_ofList] at h
  exact (List.mem_filter.mp h).2

namespace Digest

/-- A digit in base 36 is a digit or a letter. -/
lemma isAlphanumeric_digitChar {n : ℕ} (h : n < 36) :
    (isLetter (digitChar n) || isDigit (digitChar n)) = true := by
  interval_cases n <;> decide

/-- The characters of a digest. -/
lemma isAlphanumeric_of_mem_digits {w n : ℕ} {c : Char} (h : c ∈ digits w n) :
    (isLetter c || isDigit c) = true := by
  obtain ⟨d, hd, rfl⟩ := exists_of_mem_digits h
  exact isAlphanumeric_digitChar hd

/-- The characters of the end of a digest. -/
lemma isAlphanumeric_of_mem {n : ℕ} {h : UInt64} {c : Char} (hc : c ∈ (lastDigits n h).toList) :
    (isLetter c || isDigit c) = true := by
  rw [lastDigits, String.toList_ofList] at hc
  exact isAlphanumeric_of_mem_digits (List.mem_of_mem_drop hc)

/-- The end of a digest has as many digits as it is asked for. -/
lemma length_lastDigits {n : ℕ} (hn : n ≤ width) (h : UInt64) :
    (lastDigits n h).toList.length = n := by
  rw [String.length_toList, (writes_lastDigits n h).length, Nat.min_eq_left hn]

end Digest

/-! ## Origins of classes -/

/-- What has a class of its own. -/
inductive ClassOwner where
  /-- A tagged template. -/
  | construct (c : Construct)
  /-- A variant definition. -/
  | variants (v : VariantUse)

namespace ClassOwner

/-- The variable. -/
def varName : ClassOwner → String
  | .construct c => c.varName
  | .variants v => v.varName

/-- Whether it is a variant definition. -/
def isVariants : ClassOwner → Bool
  | .construct _ => false
  | .variants _ => true

/-- The digits that stand for its styles in production. -/
def digest : ClassOwner → String
  | .construct c => Digest.lastDigits Naming.constructDigits (Digest.ofText c.css)
  | .variants v => Digest.lastDigits Naming.variantDigits (Digest.ofText v.variants.contentKey)

/-- Its class, which global styles do not have. -/
def name? (n : Naming) : ClassOwner → Option String
  | .construct c => n.ofConstruct? c
  | .variants v => some (n.ofVariants v)

/-- Templates have more digits than definitions. -/
lemma length_digest (o : ClassOwner) :
    o.digest.toList.length = if o.isVariants then 6 else 8 := by
  cases o with
  | construct c => exact Digest.length_lastDigits (by decide) _
  | variants v => exact Digest.length_lastDigits (by decide) _

/-- The number of digits tells templates from definitions. -/
lemma isVariants_eq_of_digest_eq {a b : ClassOwner} (h : a.digest = b.digest) :
    a.isVariants = b.isVariants := by
  have hlength := a.length_digest
  rw [h, b.length_digest] at hlength
  cases ha : a.isVariants <;> cases hb : b.isVariants <;> simp_all

/-- The characters of the digits. -/
lemma isAlphanumeric_of_mem_digest (o : ClassOwner) {x : Char} (h : x ∈ o.digest.toList) :
    (isLetter x || isDigit x) = true := by
  cases o with
  | construct c => exact Digest.isAlphanumeric_of_mem h
  | variants v => exact Digest.isAlphanumeric_of_mem h

/-- The part of a class behind the prefix and a hyphen. -/
def label (n : Naming) (o : ClassOwner) : List Char :=
  match n.mode with
  | .development => (Text.alphanumeric o.varName).toList ++ '-' :: n.file.toList
  | .production => o.digest.toList

/-- A class is the prefix, a hyphen and the label. -/
lemma toList_name {n : Naming} {o : ClassOwner} {s : String} (h : o.name? n = some s) :
    s.toList = n.start.text.toList ++ '-' :: o.label n := by
  have hs : s = match n.mode with
      | .development => n.readable o.varName
      | .production => n.start.text ++ "-" ++ o.digest := by
    cases o with
    | variants v =>
      obtain rfl := Option.some.inj h
      unfold Naming.ofVariants
      cases n.mode <;> rfl
    | construct c =>
      unfold name? Naming.ofConstruct? at h
      cases hk : c.kind <;> cases hm : n.mode <;> simp_all [varName, digest, Naming.hashed]
  rw [hs, label]
  cases n.mode <;> simp [Naming.readable]

end ClassOwner

/-- **A class of a build**: the class of something in a file, or that of a pair under it. -/
structure ClassOrigin where
  /-- The id of the file. -/
  id : String
  /-- What the class, or the class that it is built on, belongs to. -/
  owner : ClassOwner
  /-- The dimension and the value, if it is the class of a pair. -/
  pair : Option (Dimension × Value)

namespace ClassOrigin

/-- The name of a class. -/
def name? (options : Options) (o : ClassOrigin) : Option String :=
  (o.owner.name? (Naming.ofFile options o.id)).map fun base =>
    match o.pair with
    | none => base
    | some p => Variants.pairClass base p

/-- What a pair adds to a class. -/
def suffix : Option (Dimension × Value) → List Char
  | none => []
  | some p => (Variants.pairClass "" p).toList

/-- The suffix is empty or starts with a hyphen. -/
lemma head?_suffix (p : Option (Dimension × Value)) : ∀ x ∈ (suffix p).head?, x = '-' := by
  cases p <;> simp [suffix, Variants.toList_pairClass]

/-- The suffix tells the pair. -/
lemma suffix_inj {p q : Option (Dimension × Value)} : suffix p = suffix q ↔ p = q := by
  refine ⟨fun h => ?_, congrArg suffix⟩
  cases p with
  | none =>
    cases q with
    | none => rfl
    | some q => simp [suffix, Variants.toList_pairClass] at h
  | some p =>
    cases q with
    | none => simp [suffix, Variants.toList_pairClass] at h
    | some q => rw [Variants.pairClass_injective "" (String.toList_injective h)]

/-- A name is the prefix, a hyphen, the label of its owner and the suffix of its pair. -/
lemma toList_name {options : Options} {o : ClassOrigin} {s : String}
    (h : o.name? options = some s) :
    s.toList = options.classPrefix.text.toList ++
      '-' :: (o.owner.label (Naming.ofFile options o.id) ++ suffix o.pair) := by
  obtain ⟨base, hbase, rfl⟩ := Option.map_eq_some_iff.mp h
  have hlist := ClassOwner.toList_name hbase
  cases o.pair with
  | none => simpa [suffix, Naming.ofFile] using hlist
  | some p => simp [suffix, Variants.toList_pairClass, hlist, Naming.ofFile]

/-- Names under the same prefix differ in what stands behind it. -/
lemma name_eq_iff_label {options : Options} {a b : ClassOrigin} {s t : String}
    (ha : a.name? options = some s) (hb : b.name? options = some t) :
    s = t ↔ a.owner.label (Naming.ofFile options a.id) ++ suffix a.pair =
      b.owner.label (Naming.ofFile options b.id) ++ suffix b.pair := by
  rw [← String.toList_inj, toList_name ha, toList_name hb, List.append_cancel_left_eq,
    List.cons.injEq]
  simp

/-- A word that stands before the suffix of a pair. -/
lemma append_suffix_inj {a b : List Char} (ha : '-' ∉ a) (hb : '-' ∉ b)
    {p q : Option (Dimension × Value)} : a ++ suffix p = b ++ suffix q ↔ a = b ∧ p = q := by
  rw [Text.append_inj_of_notMem ha hb (head?_suffix p) (head?_suffix q), suffix_inj]

/-- **A class name tells what it is made from.** Two classes of a build have the same name exactly
if both are classes of the same pair or both are classes of none, and

* in development, the letters and digits of their variables and of the stems of their files are the
  same;
* in production, both belong to templates or both to definitions, and the digits of their styles are
  the same.

**Proof sketch.** The prefix is cancelled. In development the variable ends at the next hyphen and
the stem where the suffix of the pair starts; in production the digits do. -/
theorem names_eq_iff (options : Options) {a b : ClassOrigin} {s t : String}
    (ha : a.name? options = some s) (hb : b.name? options = some t) :
    (options.mode = .development →
      (s = t ↔ a.pair = b.pair ∧
        Text.alphanumeric a.owner.varName = Text.alphanumeric b.owner.varName ∧
        (Naming.ofFile options a.id).file = (Naming.ofFile options b.id).file)) ∧
    (options.mode = .production →
      (s = t ↔ a.pair = b.pair ∧ a.owner.isVariants = b.owner.isVariants ∧
        a.owner.digest = b.owner.digest)) := by
  rw [name_eq_iff_label ha hb]
  constructor
  · intro hmode
    have hvar : ∀ x, '-' ∉ (Text.alphanumeric x).toList := fun x =>
      notMem_of_forall (fun _ => Text.isAlphanumeric_of_mem) (by decide)
    have hfile : ∀ id, '-' ∉ (Naming.ofFile options id).file.toList := fun id => hvar _
    have hlabel : ∀ o : ClassOrigin, o.owner.label (Naming.ofFile options o.id) ++ suffix o.pair =
        (Text.alphanumeric o.owner.varName).toList ++
          '-' :: ((Naming.ofFile options o.id).file.toList ++ suffix o.pair) := by
      intro o
      simp [ClassOwner.label, Naming.ofFile, hmode]
    rw [hlabel a, hlabel b,
      Text.append_inj_of_notMem (hvar _) (hvar _) (by simp) (by simp), List.cons.injEq,
      append_suffix_inj (hfile _) (hfile _), String.toList_inj, String.toList_inj]
    constructor
    · rintro ⟨hname, -, hstem, hpair⟩
      exact ⟨hpair, hname, hstem⟩
    · rintro ⟨hpair, hname, hstem⟩
      exact ⟨hname, rfl, hstem, hpair⟩
  · intro hmode
    have hlabel : ∀ o : ClassOrigin,
        o.owner.label (Naming.ofFile options o.id) = o.owner.digest.toList := by
      intro o
      simp [ClassOwner.label, Naming.ofFile, hmode]
    have hdigest : ∀ o : ClassOwner, '-' ∉ o.digest.toList := fun o =>
      notMem_of_forall (fun _ => o.isAlphanumeric_of_mem_digest) (by decide)
    rw [hlabel a, hlabel b, append_suffix_inj (hdigest _) (hdigest _), String.toList_inj]
    constructor
    · rintro ⟨hdigest, hpair⟩
      exact ⟨hpair, ClassOwner.isVariants_eq_of_digest_eq hdigest, hdigest⟩
    · rintro ⟨hpair, -, hdigest⟩
      exact ⟨hdigest, hpair⟩

/-- Under a prefix that ends in hyphens, two templates of which nothing is left but the file share
the class of a pair in development, and this is not the class of the second template. In production
no template shares a class with a definition. -/
theorem names_eq_sample :
    let options : Options := { Options.standard with classPrefix := ⟨"a--", by decide⟩ }
    let pair : Dimension × Value := (⟨"size", by decide⟩, ⟨"--1", by decide⟩)
    let template : Construct := ⟨.keyframes, "é", "c", ⟨0, 0⟩⟩
    let a : ClassOrigin :=
      ⟨"/src/my-box.tsx?v=3", .construct ⟨.scopedClass, "_$", "", ⟨0, 0⟩⟩, some pair⟩
    let b : ClassOrigin := ⟨"mybox.js", .construct template, some pair⟩
    let c : ClassOrigin := ⟨"mybox.js", .construct template, none⟩
    let d : ClassOrigin := ⟨"mybox.js", .variants Generator.sampleUse, none⟩
    (∃ s t u, a.name? options = some s ∧ b.name? options = some t ∧ c.name? options = some u ∧
      s = t ∧ u ≠ t) ∧
    ∃ s t, c.name? .production = some s ∧ d.name? .production = some t ∧ s ≠ t := by
  intro options pair template a b c d
  have ha : a.name? options = some "a----mybox--size---1" := by decide +kernel
  have hb : b.name? options = some "a----mybox--size---1" := by decide +kernel
  have hc : c.name? options = some "a----mybox" := by decide +kernel
  refine ⟨⟨_, _, _, ha, hb, hc, ((names_eq_iff options ha hb).1 rfl).mpr ?_, fun h => ?_⟩,
    _, _, rfl, rfl, fun h => ?_⟩
  · decide +kernel
  · exact absurd (((names_eq_iff options hc hb).1 rfl).mp h).1 (by decide)
  · have hsort := (((names_eq_iff .production (a := c) (b := d) rfl rfl).2 rfl).mp h).2.1
    exact absurd hsort (by decide)

end ClassOrigin

end StyleExtract
