import Mathlib.Tactic.Common
import StyleExtract.Proofs.Script.Reading

/-!
# Terms read back

A term that `Script.Term.IsReadable` allows is read back from its text, whatever follows that cannot
go on with the term.

## Main definitions

* `Script.Ends` — what ends a term of some strength.
* `Script.ReadsBack` — a reader reads a term back.
* `Script.Reads` — what the readers of all strengths find in the text of a term.

## Main results

* `Script.readTerm_text` — a term is read back from its text, and what follows is left.

## Design

A reader of joined parts goes on behind the first of them, so `ReadsJoined` does not say what is
read from the text of a term, but with which accumulator the reader stands behind it: this is what
an induction on the term can go on with. Each reader takes what the readers of higher strengths
read, so `Reads` states what all of them find, and a term is entered at its own strength
(`Reads.ofSame` and its like).
-/

namespace StyleExtract.Script

/-! ## What follows a term -/

/-- The marks that go on with a term, from those that bind least strongly on. -/
def continuations : List String := ["||", "&&", "===", ".", "[", "("]

/-- **What ends a term** of some strength: it ends words and numerals, and it does not start with a
mark that binds at least as strongly. -/
structure Ends (k : ℕ) (cs : List Char) : Prop where
  /-- It ends words and numerals. -/
  stops : Stops cs
  /-- It does not go on with the term. -/
  marks : ∀ m ∈ continuations.drop k, skipMark? m cs = none

/-- What ends a term ends a term of higher strength. -/
lemma Ends.mono {j k : ℕ} {cs : List Char} (h : Ends j cs) (hjk : j ≤ k) : Ends k cs :=
  ⟨h.stops, fun m hm => h.marks m ((List.drop_sublist_drop_left _ hjk).subset hm)⟩

/-- A mark that does not go on with a term ends it. -/
lemma ends_of_next? {k : ℕ} {cs rest : List Char} {mark : String} (hstop : Stops cs)
    (hnext : next? cs = some (.punct mark, rest)) (hmark : mark ∉ continuations.drop k) :
    Ends k cs := by
  refine ⟨hstop, fun m hm => ?_⟩
  have hne : mark ≠ m := fun h => hmark (h ▸ hm)
  simp only [skipMark?, hnext, if_neg hne]

lemma ends_parenthesis (cs : List Char) : Ends 0 (')' :: cs) :=
  ends_of_next? (stops_cons (by decide) _) rfl (by decide)

lemma ends_bracket (cs : List Char) : Ends 0 (']' :: cs) :=
  ends_of_next? (stops_cons (by decide) _) rfl (by decide)

lemma ends_semicolon (cs : List Char) : Ends 0 (';' :: cs) :=
  ends_of_next? (stops_cons (by decide) _) rfl (by decide)

lemma ends_comma (cs : List Char) : Ends 0 (',' :: cs) :=
  ends_of_next? (stops_cons (by decide) _) rfl (by decide)

lemma ends_brace (cs : List Char) : Ends 0 (' ' :: '\x7d' :: cs) :=
  ends_of_next? (stops_space _) rfl (by decide)

/-! ## Reading back joined parts -/

/-- A reader reads a term back, up to what ends a term of some strength. -/
def ReadsBack (reader : List Char → Option (Term × List Char)) (k : ℕ) (t : Term) : Prop :=
  ∀ cs, Ends k cs → reader (t.text.toList ++ cs) = some (t, cs)

section Joined

variable {mark : String} {make : Term → Term → Term}
  {part : List Char → Option (Term × List Char)} {k : ℕ} {a b t : Term}

variable (mark make part k t) in
/-- **A reader of joined parts stands behind a term** with the term in its accumulator. -/
def ReadsJoined : Prop :=
  ∀ cs, Ends k cs → ∃ n, cs.length < n ∧
    readJoined mark make part (t.text.toList ++ cs) = readMore mark make part n t cs

/-- A single part. -/
lemma ReadsBack.joined (h : ReadsBack part k t) : ReadsJoined mark make part k t :=
  fun cs hcs => ⟨cs.length + 1, Nat.lt_succ_self _, by simp [readJoined, h cs hcs]⟩

/-- One more part behind a mark. -/
lemma ReadsJoined.step (ha : ReadsJoined mark make part k a) (hb : ReadsBack part k b)
    (hspace : ∀ cs, part (' ' :: cs) = part cs)
    (htext : (make a b).text.toList = a.text.toList ++ ' ' :: (mark.toList ++ ' ' :: b.text.toList))
    (hends : ∀ cs, Ends k (' ' :: (mark.toList ++ ' ' :: cs)))
    (hmark : ∀ cs, skipMark? mark (' ' :: (mark.toList ++ ' ' :: cs)) = some (' ' :: cs)) :
    ReadsJoined mark make part k (make a b) := by
  intro cs hcs
  obtain ⟨n, hn, hread⟩ := ha _ (hends (b.text.toList ++ cs))
  simp only [List.length_cons, List.length_append] at hn
  obtain ⟨n, rfl⟩ := Nat.exists_eq_add_one_of_ne_zero (Nat.ne_zero_of_lt hn)
  refine ⟨n, by omega, ?_⟩
  rw [htext, List.append_assoc, List.cons_append, List.append_assoc, List.cons_append, hread,
    readMore, hmark]
  simp only [hspace, hb cs hcs, Option.bind_eq_bind, Option.bind_some]

/-- Where no more parts follow, the term is read back. -/
lemma ReadsJoined.readsBack (h : ReadsJoined mark make part k t) {j : ℕ} (hjk : j ≤ k)
    (hmark : mark ∈ continuations.drop j) : ReadsBack (readJoined mark make part) j t := by
  intro cs hcs
  obtain ⟨n, hn, hread⟩ := h cs (hcs.mono hjk)
  obtain ⟨n, rfl⟩ := Nat.exists_eq_add_one_of_ne_zero (Nat.ne_zero_of_lt hn)
  simp only [hread, readMore, hcs.marks mark hmark]

end Joined

/-! ## Reading back terms -/

section Reads

variable {nested : List Char → Option (Term × List Char)} {t : Term}

variable (nested t) in
/-- **What the readers of all strengths find in the text of a term.** -/
structure Reads : Prop where
  /-- The reader of properties and calls stands behind the term. -/
  suffixes : t.strength = 5 → ∀ cs, EndsWord cs → ∃ n, cs.length < n ∧
    readPlace nested (t.text.toList ++ cs) = readSuffixes nested n t cs
  /-- The term is read back as an operand of a comparison. -/
  unary : 3 ≤ t.strength → ReadsBack (readUnary nested) 3 t
  /-- The reader of comparisons stands behind the term. -/
  same : 2 ≤ t.strength → ReadsJoined "===" .same (readUnary nested) 3 t
  /-- The reader of choices with `&&` stands behind the term. -/
  both : 1 ≤ t.strength → ReadsJoined "&&" .both (readSame nested) 2 t
  /-- The reader of choices with `||` stands behind the term. -/
  either : ReadsJoined "||" .either (readBoth nested) 1 t

namespace Reads

/-- A term that binds like a choice with `||`. -/
lemma ofEither (hs : t.strength = 0) (h : ReadsJoined "||" .either (readBoth nested) 1 t) :
    Reads nested t :=
  ⟨by omega, by omega, by omega, by omega, h⟩

/-- A term that binds like a choice with `&&`. -/
lemma ofBoth (hs : t.strength = 1) (h : ReadsJoined "&&" .both (readSame nested) 2 t) :
    Reads nested t :=
  ⟨by omega, by omega, by omega, fun _ => h, (h.readsBack (by omega) (by decide)).joined⟩

/-- A term that binds like a comparison. -/
lemma ofSame (hs : t.strength = 2) (h : ReadsJoined "===" .same (readUnary nested) 3 t) :
    Reads nested t := by
  have hboth : ReadsJoined "&&" .both (readSame nested) 2 t :=
    (h.readsBack (by omega) (by decide)).joined
  exact ⟨by omega, by omega, fun _ => h, fun _ => hboth,
    (hboth.readsBack (by omega) (by decide)).joined⟩

/-- A term without an operator between two others. -/
lemma ofUnary (hsuffixes : t.strength = 5 → ∀ cs, EndsWord cs → ∃ n, cs.length < n ∧
      readPlace nested (t.text.toList ++ cs) = readSuffixes nested n t cs)
    (h : ReadsBack (readUnary nested) 3 t) : Reads nested t := by
  have hsame : ReadsJoined "===" .same (readUnary nested) 3 t := h.joined
  have hboth : ReadsJoined "&&" .both (readSame nested) 2 t :=
    (hsame.readsBack (by omega) (by decide)).joined
  exact ⟨hsuffixes, fun _ => h, fun _ => hsame, fun _ => hboth,
    (hboth.readsBack (by omega) (by decide)).joined⟩

/-- A term before other terms is read back as one. -/
lemma readsBack (h : Reads nested t) : ReadsBack (readEither nested) 0 t :=
  h.either.readsBack (by omega) (by decide)

end Reads

/-- What ends a term of the highest strength is no property and no call. -/
lemma Ends.readSuffix?_eq {cs : List Char} (h : Ends 3 cs) (t : Term) :
    readSuffix? nested t cs = none := by
  have hdot := h.marks "." (by decide)
  have hbracket := h.marks "[" (by decide)
  have hparenthesis := h.marks "(" (by decide)
  unfold skipMark? at hdot hbracket hparenthesis
  unfold readSuffix?
  split
  · next m rest hnext =>
    simp only [hnext, ite_eq_right_iff, reduceCtorEq, imp_false] at hdot hbracket hparenthesis
    simp only [if_neg hdot, if_neg hbracket, if_neg hparenthesis]
  · rfl

/-- A term with no properties and calls behind it. -/
lemma Reads.ofPrimary (hs : t.strength ≠ 5)
    (h : ∀ cs, Stops cs → readPrimary nested (t.text.toList ++ cs) = some (t, cs)) :
    Reads nested t := by
  refine .ofUnary (fun h5 => absurd h5 hs) fun cs hcs => ?_
  simp [readUnary, readPlace, h cs hcs.stops, readSuffixes, hcs.readSuffix?_eq]

/-- A term that properties and calls may stand behind. -/
lemma Reads.ofSuffixes (h : ∀ cs, EndsWord cs → ∃ n, cs.length < n ∧
      readPlace nested (t.text.toList ++ cs) = readSuffixes nested n t cs) : Reads nested t := by
  refine .ofUnary (fun _ => h) fun cs hcs => ?_
  obtain ⟨n, hn, hread⟩ := h cs hcs.stops.endsWord
  obtain ⟨n, rfl⟩ := Nat.exists_eq_add_one_of_ne_zero (Nat.ne_zero_of_lt hn)
  simp only [readUnary, hread, readSuffixes, hcs.readSuffix?_eq]

/-- A term that properties and calls may stand behind, and nothing else does yet. -/
lemma Reads.ofRoot
    (h : ∀ cs, EndsWord cs → readPrimary nested (t.text.toList ++ cs) = some (t, cs)) :
    Reads nested t :=
  .ofSuffixes fun cs hcs => ⟨cs.length + 1, Nat.lt_succ_self _, by simp [readPlace, h cs hcs]⟩

/-- One more property or call behind a term. -/
lemma Reads.suffix (h : Reads nested t) (ht : t.strength = 5) {t' : Term} {s : List Char}
    (htext : t'.text.toList = t.text.toList ++ s) (hs : ∀ cs, EndsWord (s ++ cs)) (hne : s ≠ [])
    (hsuffix : ∀ cs, EndsWord cs → readSuffix? nested t (s ++ cs) = some (t', cs)) :
    Reads nested t' := by
  refine .ofSuffixes fun cs hcs => ?_
  obtain ⟨n, hn, hread⟩ := h.suffixes ht (s ++ cs) (hs cs)
  have hpos : 0 < s.length := List.length_pos_of_ne_nil hne
  rw [List.length_append] at hn
  obtain ⟨n, rfl⟩ := Nat.exists_eq_add_one_of_ne_zero (Nat.ne_zero_of_lt hn)
  refine ⟨n, by omega, ?_⟩
  rw [htext, List.append_assoc, hread, readSuffixes, hsuffix cs hcs]

/-- A word is read as the term that it is. -/
lemma readPrimary_word {w : String} (hw : IsWord w) (ht : wordTerm? w = some t) {cs : List Char}
    (hcs : EndsWord cs) : readPrimary nested (w.toList ++ cs) = some (t, cs) := by
  simp only [readPrimary, next?_word hw hcs, ht, Option.map_some]

/-- The type of a variable is read back. -/
lemma readUnary_typeOf {x : String} (hx : IsVariable x) {cs : List Char} (hcs : EndsWord cs) :
    readUnary nested ((Term.typeOf x).text.toList ++ cs) = some (.typeOf x, cs) := by
  have hchars : (Term.typeOf x).text.toList ++ cs = "typeof".toList ++ ' ' :: (x.toList ++ cs) := by
    simp
  have hends : EndsWord (' ' :: (x.toList ++ cs)) := (stops_space _).endsWord
  have hnext := next?_word (w := "typeof") (by decide) hends
  have hterm : wordTerm? "typeof" = none := by decide
  have hplace : readPlace nested ("typeof".toList ++ ' ' :: (x.toList ++ cs)) = none := by
    unfold readPlace readPrimary
    rw [hnext]
    simp only [hterm, Option.map_none, Option.bind_eq_bind, Option.bind_none]
  have hword := skipWord?_word (w := "typeof") (by decide) hends
  rw [hchars, readUnary, hplace]
  simp only [readSigned?, hword, readVariable?_space, readVariable?_text hx hcs, Option.map_some]

/-- A numeral with a sign is read back.

**Proof sketch.** The sign is a token of its own, so there is no place to be read and no `typeof`,
and the numeral stands behind it. -/
lemma readUnary_negated (n : ℕ) {cs : List Char} (hcs : Stops cs) :
    readUnary nested ((Term.negated (.numeral n)).text.toList ++ cs) =
      some (.negated (.numeral n), cs) := by
  have hchars : (Term.negated (.numeral n)).text.toList ++ cs =
      '-' :: ((toString n).toList ++ cs) := by
    rw [Term.text, String.toList_append, Term.text]
    rfl
  have hnext := next?_minus_numeral n cs
  have hplace : readPlace nested ('-' :: ((toString n).toList ++ cs)) = none := by
    unfold readPlace readPrimary
    rw [hnext]
    rfl
  have hword : skipWord? "typeof" ('-' :: ((toString n).toList ++ cs)) = none := by
    rw [skipWord?, hnext]
  have hmark : skipMark? "-" ('-' :: ((toString n).toList ++ cs)) =
      some ((toString n).toList ++ cs) := by
    rw [skipMark?, hnext]
    rfl
  rw [hchars, readUnary, hplace]
  simp only [readSigned?, hword, hmark, Option.bind_eq_bind, Option.bind_some,
    readNumeral?_text n hcs, Option.map_some]

/-! ### Operators between terms -/

/-- A choice with `||` is found. -/
lemma reads_either {a b : Term} (ha : Reads nested a) (hb : Reads nested b)
    (hstrength : 1 ≤ b.strength) : Reads nested (.either a b) := by
  have hpart : ReadsBack (readBoth nested) 1 b :=
    (hb.both hstrength).readsBack (by omega) (by decide)
  refine .ofEither rfl (ha.either.step hpart (readBoth_space nested) (by simp) (fun cs => ?_)
    fun _ => rfl)
  exact ends_of_next? (stops_space _) rfl (by decide)

/-- A choice with `&&` is found. -/
lemma reads_both {a b : Term} (ha : Reads nested a) (hb : Reads nested b)
    (hleft : 1 ≤ a.strength) (hright : 2 ≤ b.strength) : Reads nested (.both a b) := by
  have hpart : ReadsBack (readSame nested) 2 b := (hb.same hright).readsBack (by omega) (by decide)
  refine .ofBoth rfl ((ha.both hleft).step hpart (readSame_space nested) (by simp) (fun cs => ?_)
    fun _ => rfl)
  exact ends_of_next? (stops_space _) rfl (by decide)

/-- A comparison is found. -/
lemma reads_same {a b : Term} (ha : Reads nested a) (hb : Reads nested b)
    (hleft : 2 ≤ a.strength) (hright : 3 ≤ b.strength) : Reads nested (.same a b) := by
  refine .ofSame rfl ((ha.same hleft).step (hb.unary hright) (readUnary_space nested) (by simp)
    (fun cs => ?_) fun _ => rfl)
  exact ends_of_next? (stops_space _) rfl (by decide)

/-! ### Brackets and properties -/

/-- A term in parentheses is found. -/
lemma reads_group {t : Term} (h : ReadsBack nested 0 t) : Reads nested (.group t) := by
  refine .ofRoot fun cs _ => ?_
  have hchars : (Term.group t).text.toList ++ cs = '(' :: (t.text.toList ++ ')' :: cs) := by simp
  have hopen : ∀ r : List Char, next? ('(' :: r) = some (.punct "(", r) := fun _ => rfl
  have hclose : skipMark? ")" (')' :: cs) = some cs := rfl
  rw [hchars, readPrimary, hopen]
  simp [h _ (ends_parenthesis cs), hclose]

/-- A property with a fixed name is found. -/
lemma reads_member {t : Term} {x : String} (h : Reads nested t) (ht : t.strength = 5)
    (hx : IsWord x) : Reads nested (.member t x) := by
  refine h.suffix ht (s := '.' :: x.toList) (by simp) (fun cs => endsWord_cons (by decide) _)
    (by simp) fun cs hcs => ?_
  have hword : readWord? (x.toList ++ cs) = some (x, cs) := readWord?_text hx hcs
  rw [List.cons_append, readSuffix?, next?_dot_word hx]
  simp [hword]

/-- A property whose key is a value is found. -/
lemma reads_index {t k : Term} (h : Reads nested t) (ht : t.strength = 5)
    (hk : ReadsBack nested 0 k) : Reads nested (.index t k) := by
  refine h.suffix ht (s := '[' :: (k.text.toList ++ [']'])) (by simp)
    (fun cs => endsWord_cons (by decide) _) (by simp) fun cs hcs => ?_
  have hopen : ∀ r : List Char, next? ('[' :: r) = some (.punct "[", r) := fun _ => rfl
  have hclose : skipMark? "]" (']' :: cs) = some cs := rfl
  have hchars : '[' :: (k.text.toList ++ [']']) ++ cs = '[' :: (k.text.toList ++ ']' :: cs) := by
    simp
  rw [hchars, readSuffix?, hopen]
  simp [hk _ (ends_bracket cs), hclose]

/-- A call with one argument is found. -/
lemma reads_call {f a : Term} (h : Reads nested f) (hf : f.strength = 5)
    (ha : ReadsBack nested 0 a) : Reads nested (.call f a) := by
  refine h.suffix hf (s := '(' :: (a.text.toList ++ [')'])) (by simp)
    (fun cs => endsWord_cons (by decide) _) (by simp) fun cs hcs => ?_
  have hopen : ∀ r : List Char, next? ('(' :: r) = some (.punct "(", r) := fun _ => rfl
  have hclose : skipMark? ")" (')' :: cs) = some cs := rfl
  have hchars : '(' :: (a.text.toList ++ [')']) ++ cs = '(' :: (a.text.toList ++ ')' :: cs) := by
    simp
  rw [hchars, readSuffix?, hopen]
  simp [readArguments?, ha _ (ends_parenthesis cs), hclose]

/-- A call with two arguments is found. -/
lemma reads_call₂ {f a b : Term} (h : Reads nested f) (hf : f.strength = 5)
    (ha : ReadsBack nested 0 a) (hb : ReadsBack nested 0 b)
    (hspace : ∀ cs, nested (' ' :: cs) = nested cs) : Reads nested (.call₂ f a b) := by
  refine h.suffix hf (s := '(' :: (a.text.toList ++ ',' :: ' ' :: (b.text.toList ++ [')'])))
    (by simp) (fun cs => endsWord_cons (by decide) _) (by simp) fun cs hcs => ?_
  have hopen : ∀ r : List Char, next? ('(' :: r) = some (.punct "(", r) := fun _ => rfl
  have hclose : skipMark? ")" (')' :: cs) = some cs := rfl
  have hnoclose : ∀ r : List Char, skipMark? ")" (',' :: r) = none := fun _ => rfl
  have hcomma : ∀ r : List Char, skipMark? "," (',' :: r) = some r := fun _ => rfl
  have hchars : '(' :: (a.text.toList ++ ',' :: ' ' :: (b.text.toList ++ [')'])) ++ cs =
      '(' :: (a.text.toList ++ ',' :: ' ' :: (b.text.toList ++ ')' :: cs)) := by simp
  rw [hchars, readSuffix?, hopen]
  simp [readArguments?, ha _ (ends_comma _), hnoclose, hcomma, hspace, hb _ (ends_parenthesis cs),
    hclose]

/-! ### Object literals -/

variable (nested) in
/-- **The entries of an object literal are read back**, up to its closing brace. -/
def ReadsEntries (entries : Entries) : Prop :=
  ∀ (cs : List Char) (n : ℕ), (Text.join ", " entries.texts).toList.length < n →
    readEntries nested n ((Text.join ", " entries.texts).toList ++ ' ' :: '\x7d' :: cs) =
      some (entries, cs)

/-- An object literal is found. -/
lemma reads_object {entries : Entries} (h : ReadsEntries nested entries) :
    Reads nested (.object entries) := by
  refine .ofPrimary (by simp [Term.strength]) fun cs _ => ?_
  have hchars : (Term.object entries).text.toList ++ cs =
      '\x7b' :: ' ' :: ((Text.join ", " entries.texts).toList ++ ' ' :: '\x7d' :: cs) := by
    simp [braced]
  have hopen : ∀ r : List Char, next? ('\x7b' :: r) = some (.punct "\x7b", r) := fun _ => rfl
  rw [hchars, readPrimary, hopen]
  simp only [if_true, readEntries_space]
  rw [h cs _ (by simp; omega), Option.map_some]

/-- **One more entry is read back.**

**Proof sketch.** The entry is read first. If none follows, a blank and the closing brace do; if one
follows, a comma does, and the rest is read with one unit of fuel less. -/
lemma ReadsEntries.step {s : String} {add : Entries → Entries} {rest : Entries}
    (hclose : ∀ cs, Ends 0 cs → skipMark? "\x7d" (s.toList ++ cs) = none)
    (hentry : ∀ cs, Ends 0 cs → readProperty? nested (s.toList ++ cs) = some (add, cs))
    (htexts : (add rest).texts = s :: rest.texts) (hrest : ReadsEntries nested rest) :
    ReadsEntries nested (add rest) := by
  intro cs n hn
  rw [htexts] at hn ⊢
  obtain ⟨n, rfl⟩ := Nat.exists_eq_add_one_of_ne_zero (Nat.ne_zero_of_lt hn)
  have hmore := hrest cs n
  cases htail : rest.texts with
  | nil =>
    obtain rfl : rest = .nil := by cases rest <;> simp_all
    have hbrace : skipMark? "\x7d" (' ' :: '\x7d' :: cs) = some cs := rfl
    simp [Text.join, readEntries, hclose _ (ends_brace cs), hentry _ (ends_brace cs), hbrace]
  | cons u us =>
    rw [htail] at hmore hn
    have hchars : (Text.join ", " (s :: u :: us)).toList =
        s.toList ++ ',' :: ' ' :: (Text.join ", " (u :: us)).toList := by simp [Text.join]
    rw [hchars] at hn ⊢
    simp only [List.length_append, List.length_cons] at hn
    have hends : ∀ r : List Char, Ends 0 (',' :: ' ' :: r) := fun r => ends_comma _
    have hbrace : ∀ r : List Char, skipMark? "\x7d" (',' :: ' ' :: r) = none := fun _ => rfl
    have hcomma : ∀ r : List Char, skipMark? "," (',' :: ' ' :: r) = some (' ' :: r) := fun _ => rfl
    simp [readEntries, hclose _ (hends _), hentry _ (hends _), hbrace, hcomma, hmore (by omega)]

/-- Parts of a joined text are no longer than it. -/
lemma length_le_length_join (s : String) (l : List String) :
    s.toList.length ≤ (Text.join ", " (s :: l)).toList.length ∧
      (Text.join ", " l).toList.length ≤ (Text.join ", " (s :: l)).toList.length := by
  cases l with
  | nil => simp [Text.join]
  | cons u us =>
    simp [Text.join]
    omega

/-- An entry with a name is read back. -/
lemma readProperty?_cons {label : Label} (hlabel : label.IsReadable) {value : Term}
    (hvalue : ReadsBack nested 0 value) (hspace : ∀ cs, nested (' ' :: cs) = nested cs)
    {cs : List Char} (hcs : Ends 0 cs) :
    readProperty? nested ((label.text ++ ": " ++ value.text).toList ++ cs) =
      some (.cons label value, cs) := by
  have hchars : (label.text ++ ": " ++ value.text).toList ++ cs =
      label.text.toList ++ ':' :: ' ' :: (value.text.toList ++ cs) := by simp
  have hcolon : ∀ r : List Char, skipMark? ":" (':' :: r) = some r := fun _ => rfl
  rw [hchars]
  simp only [readProperty?, skipMark?_label hlabel, readLabel?_text hlabel, hcolon, hspace,
    hvalue cs hcs, Option.bind_eq_bind, Option.bind_some, Option.map_some]

/-- All entries of a value are read back. -/
lemma readProperty?_spread {value : Term} (hvalue : ReadsBack nested 0 value) {cs : List Char}
    (hcs : Ends 0 cs) :
    readProperty? nested (("..." ++ value.text).toList ++ cs) = some (.spread value, cs) := by
  have hchars : ("..." ++ value.text).toList ++ cs =
      '.' :: '.' :: '.' :: (value.text.toList ++ cs) := by
    simp
  have hdots : ∀ r : List Char, skipMark? "..." ('.' :: '.' :: '.' :: r) = some r := fun _ => rfl
  rw [hchars]
  simp only [readProperty?, hdots, hvalue cs hcs, Option.map_some]

end Reads

mutual

/-- **What the readers find in the text of a term**, where the fuel is enough for its brackets.

**Proof sketch.** Induction on the term. Operators join the operands that the readers of higher
strengths find; what stands in brackets is read with the fuel that is left, up to the closing
bracket. -/
theorem reads_of_isReadable : ∀ (t : Term), t.IsReadable → ∀ {fuel : ℕ},
    t.text.toList.length ≤ fuel → Reads (readTerm fuel) t
  | .null, _, _ => fun _ => .ofPrimary (by decide) fun _ hcs =>
    readPrimary_word (w := "null") (by decide) rfl hcs.endsWord
  | .bool true, _, _ => fun _ => .ofPrimary (by simp [Term.strength]) fun _ hcs =>
    readPrimary_word (w := "true") (by decide) rfl hcs.endsWord
  | .bool false, _, _ => fun _ => .ofPrimary (by simp [Term.strength]) fun _ hcs =>
    readPrimary_word (w := "false") (by decide) rfl hcs.endsWord
  | .numeral n, _, _ => fun _ => .ofPrimary (by simp [Term.strength]) fun cs hcs => by
    simp only [Term.text, readPrimary, next?_numeral n hcs, readNumeral?_text n hcs]
  | .negated (.numeral n), _, _ => fun _ => .ofUnary (by simp [Term.strength]) fun _ hcs =>
    readUnary_negated n hcs.stops
  | .quoted s, _, _ => fun _ => .ofPrimary (by simp [Term.strength]) fun cs _ => by
    simp only [Term.text, readPrimary, next?_scriptQuote]
  | .name x, hx, _ => fun _ => .ofRoot fun _ hcs =>
    readPrimary_word hx.1 (wordTerm?_of_isVariable hx) hcs
  | .typeOf x, hx, _ => fun _ => .ofUnary (by simp [Term.strength]) fun _ hcs =>
    readUnary_typeOf hx hcs.stops.endsWord
  | .either a b, ⟨ha, hb, hright⟩, _ => fun hfuel => by
    simp at hfuel
    exact reads_either (reads_of_isReadable a ha (by omega)) (reads_of_isReadable b hb (by omega))
      hright
  | .both a b, ⟨ha, hb, hleft, hright⟩, _ => fun hfuel => by
    simp at hfuel
    exact reads_both (reads_of_isReadable a ha (by omega)) (reads_of_isReadable b hb (by omega))
      hleft hright
  | .same a b, ⟨ha, hb, hleft, hright⟩, _ => fun hfuel => by
    simp at hfuel
    exact reads_same (reads_of_isReadable a ha (by omega)) (reads_of_isReadable b hb (by omega))
      hleft hright
  | .group t, ht, fuel => fun hfuel => by
    simp at hfuel
    obtain ⟨fuel, rfl⟩ := Nat.exists_eq_add_one_of_ne_zero (show fuel ≠ 0 by omega)
    exact reads_group (reads_of_isReadable t ht (by omega)).readsBack
  | .member t x, ⟨ht, hplace, hx⟩, _ => fun hfuel => by
    simp at hfuel
    exact reads_member (reads_of_isReadable t ht (by omega)) hplace hx
  | .index t k, ⟨ht, hplace, hk⟩, fuel => fun hfuel => by
    simp at hfuel
    obtain ⟨fuel, rfl⟩ := Nat.exists_eq_add_one_of_ne_zero (show fuel ≠ 0 by omega)
    exact reads_index (reads_of_isReadable t ht (by omega)) hplace
      (reads_of_isReadable k hk (by omega)).readsBack
  | .call f a, ⟨hf, hplace, ha⟩, fuel => fun hfuel => by
    simp at hfuel
    obtain ⟨fuel, rfl⟩ := Nat.exists_eq_add_one_of_ne_zero (show fuel ≠ 0 by omega)
    exact reads_call (reads_of_isReadable f hf (by omega)) hplace
      (reads_of_isReadable a ha (by omega)).readsBack
  | .call₂ f a b, ⟨hf, hplace, ha, hb⟩, fuel => fun hfuel => by
    simp at hfuel
    obtain ⟨fuel, rfl⟩ := Nat.exists_eq_add_one_of_ne_zero (show fuel ≠ 0 by omega)
    exact reads_call₂ (reads_of_isReadable f hf (by omega)) hplace
      (reads_of_isReadable a ha (by omega)).readsBack
      (reads_of_isReadable b hb (by omega)).readsBack (readTerm_space _)
  | .object entries, hentries, fuel => fun hfuel => by
    simp [braced] at hfuel
    obtain ⟨fuel, rfl⟩ := Nat.exists_eq_add_one_of_ne_zero (show fuel ≠ 0 by omega)
    exact reads_object (readsEntries_of_areReadable entries hentries (by omega))

/-- The entries of an object literal are read back, where the fuel is enough for their values.

**Proof sketch.** Recursion on the entries, together with that on terms. The text of a value is
shorter than that of the object, so the fuel is enough for it. -/
theorem readsEntries_of_areReadable : ∀ (entries : Entries), entries.AreReadable → ∀ {fuel : ℕ},
    (Text.join ", " entries.texts).toList.length ≤ fuel →
      ReadsEntries (readTerm (fuel + 1)) entries
  | .nil, _, _, _ => fun cs n hn => by
    obtain ⟨n, rfl⟩ := Nat.exists_eq_add_one_of_ne_zero (Nat.ne_zero_of_lt hn)
    rfl
  | .cons label value rest, ⟨hlabel, hvalue, hrest⟩, fuel, hfuel => by
    have hlengths := length_le_length_join (label.text ++ ": " ++ value.text) rest.texts
    simp only [Entries.texts] at hfuel
    have hvaluelength : value.text.toList.length ≤ fuel := by
      simp only [String.toList_append, List.length_append] at hlengths
      omega
    have hread : ReadsBack (readTerm (fuel + 1)) 0 value :=
      (reads_of_isReadable value hvalue hvaluelength).readsBack
    refine .step (fun cs _ => ?_)
      (fun cs hcs => readProperty?_cons hlabel hread (readTerm_space _) hcs) rfl
      (readsEntries_of_areReadable rest hrest (by omega))
    simpa using skipMark?_label hlabel "\x7d" (' ' :: (value.text.toList ++ cs))
  | .spread value rest, ⟨hvalue, hrest⟩, fuel, hfuel => by
    have hlengths := length_le_length_join ("..." ++ value.text) rest.texts
    simp only [Entries.texts] at hfuel
    have hvaluelength : value.text.toList.length ≤ fuel := by
      simp only [String.toList_append, List.length_append] at hlengths
      omega
    have hread : ReadsBack (readTerm (fuel + 1)) 0 value :=
      (reads_of_isReadable value hvalue hvaluelength).readsBack
    refine .step (fun cs _ => ?_) (fun cs hcs => readProperty?_spread hread hcs) rfl
      (readsEntries_of_areReadable rest hrest (by omega))
    rw [String.toList_append, List.append_assoc]
    rfl

end

/-- **Terms are read back**, whatever follows, as long as it does not go on with them. -/
theorem readTerm_text {t : Term} (ht : t.IsReadable) {cs : List Char} (hcs : Ends 0 cs) {fuel : ℕ}
    (hfuel : t.text.toList.length < fuel) : readTerm fuel (t.text.toList ++ cs) = some (t, cs) := by
  obtain ⟨fuel, rfl⟩ := Nat.exists_eq_add_one_of_ne_zero (Nat.ne_zero_of_lt hfuel)
  exact (reads_of_isReadable t ht (Nat.le_of_lt_succ hfuel)).readsBack cs hcs

/-- A term without operators, properties and calls is a term. -/
lemma readTerm_of_readPrimary {chars cs : List Char} {t : Term} {fuel : ℕ}
    (h : readPrimary (readTerm fuel) chars = some (t, cs)) (hcs : Ends 0 cs) :
    readTerm (fuel + 1) chars = some (t, cs) := by
  have hmarks : ∀ m ∈ ["===", "&&", "||"], skipMark? m cs = none := fun m hm =>
    hcs.marks m (by simp at hm; rcases hm with rfl | rfl | rfl <;> decide)
  have hunary : readUnary (readTerm fuel) chars = some (t, cs) := by
    simp [readUnary, readPlace, h, readSuffixes, (hcs.mono (Nat.zero_le 3)).readSuffix?_eq]
  simp [readTerm, readEither, readBoth, readSame, readJoined, readMore, hunary,
    hmarks "===" (by decide), hmarks "&&" (by decide), hmarks "||" (by decide)]

/-- **A comma behind the last entry adds none.**

**Proof sketch.** The one entry is read, then the comma, and behind it the closing brace stands
where the next entry would start. -/
lemma readTerm_comma {label : Label} {value : Term} (hlabel : label.IsReadable)
    (hvalue : value.IsReadable) {cs : List Char} (hcs : Ends 0 cs) {fuel : ℕ}
    (hfuel : (braced (label.text ++ ": " ++ value.text ++ ", ")).toList.length < fuel) :
    readTerm fuel ((braced (label.text ++ ": " ++ value.text ++ ", ")).toList ++ cs) =
      some (.object (.cons label value .nil), cs) := by
  obtain ⟨fuel, rfl⟩ := Nat.exists_eq_add_one_of_ne_zero (Nat.ne_zero_of_lt hfuel)
  have hchars : (braced (label.text ++ ": " ++ value.text ++ ", ")).toList ++ cs =
      '\x7b' :: ' ' :: ((label.text ++ ": " ++ value.text).toList ++
        ',' :: ' ' :: ' ' :: '\x7d' :: cs) := by
    simp [braced]
  have hlength : value.text.toList.length < fuel := by
    simp [braced] at hfuel
    omega
  obtain ⟨fuel, rfl⟩ := Nat.exists_eq_add_one_of_ne_zero (Nat.ne_zero_of_lt hlength)
  have hread : ReadsBack (readTerm (fuel + 1)) 0 value :=
    fun r hr => readTerm_text hvalue hr hlength
  have hentry := readProperty?_cons hlabel hread (readTerm_space _)
    (ends_comma (' ' :: ' ' :: '\x7d' :: cs))
  have hclose : skipMark? "\x7d" ((label.text ++ ": " ++ value.text).toList ++
      ',' :: ' ' :: ' ' :: '\x7d' :: cs) = none := by
    simpa using skipMark?_label hlabel "\x7d" (' ' :: (value.text.toList ++ _))
  have hopen : ∀ r : List Char, next? ('\x7b' :: r) = some (.punct "\x7b", r) := fun _ => rfl
  have hbrace : skipMark? "\x7d" (',' :: ' ' :: ' ' :: '\x7d' :: cs) = none := rfl
  have hcomma : skipMark? "," (',' :: ' ' :: ' ' :: '\x7d' :: cs) =
      some (' ' :: ' ' :: '\x7d' :: cs) := rfl
  have hend : skipMark? "\x7d" ('\x7d' :: cs) = some cs := rfl
  rw [hchars]
  refine readTerm_of_readPrimary ?_ hcs
  rw [readPrimary, hopen]
  simp only [if_true, readEntries_space]
  simp [-String.toList_append, readEntries, hclose, hentry, hbrace, hcomma, hend]

end StyleExtract.Script
