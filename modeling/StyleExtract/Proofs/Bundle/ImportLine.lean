import StyleExtract.Proofs.Bundle.Recognition
import StyleExtract.Proofs.Registry.Id
import StyleExtract.Proofs.Script.Quoting
import StyleExtract.Transform

/-!
# The written import of a virtual module

Transformed files import their virtual modules, one on a line, and bundled code is searched for
these lines. The writer escapes what cannot stand in a quoted text, but what reads the lines knows
no escapes and ends an id at the first quote of either kind. This file says how much of a written
line is recognized.

## Main definitions

* `VirtualImport.line` — the line that imports a virtual module.
* `VirtualImport.quotedPath` — what stands in it between the start of every id and the closing
  quote.

## Main results

* `VirtualImport.line_erased_iff` — a line is taken as a whole exactly if the path of its file has
  no quotes, and otherwise its rest stays where it was.
-/

namespace StyleExtract.VirtualImport

/-! ## Escaped characters -/

/-- The hexadecimal digits can stand in the path of an id. -/
lemma isPathChar_hexDigit (n : ℕ) : isPathChar (Text.hexDigit (n % 16)) = true := by
  have hdigits : ∀ k < 16, isPathChar (Text.hexDigit k) = true := by decide
  exact hdigits _ (Nat.mod_lt _ (by decide))

/-- Escapes by digits can stand in the path of an id. -/
lemma isPathChar_of_mem_hexEscape {n : ℕ} {d : Char} (h : d ∈ Text.hexEscape n) :
    isPathChar d = true := by
  simp only [Text.hexEscape, List.mem_cons, List.not_mem_nil, or_false] at h
  rcases h with rfl | rfl | rfl | rfl | rfl | rfl
  · decide
  · decide
  all_goals exact isPathChar_hexDigit _

/-- What is written for a character other than a quote can stand in the path of an id. -/
lemma isPathChar_of_mem_scriptEscape {c d : Char} (hc : isQuote c = false)
    (h : d ∈ Text.scriptEscape c) : isPathChar d = true := by
  unfold Text.scriptEscape at h
  split at h
  · exact isPathChar_of_mem_hexEscape h
  · unfold Text.jsonEscape at h
    split at h
    case h_8 hfeed _ _ =>
      split at h
      · exact isPathChar_of_mem_hexEscape h
      · obtain rfl := List.mem_singleton.mp h
        simpa [isPathChar, hc] using hfeed
    case h_1 => cases hc
    all_goals
      simp only [List.mem_cons, List.not_mem_nil, or_false] at h
      rcases h with rfl | rfl <;> decide

/-- A quote stands at the end of what is written for it. -/
lemma scriptEscape_of_isQuote {q : Char} (hq : isQuote q = true) :
    ∃ a, Text.scriptEscape q = a ++ [q] ∧ ∀ c ∈ a, isPathChar c = true := by
  rcases isQuote_iff.mp hq with rfl | rfl
  · exact ⟨['\\'], rfl, by simp [isPathChar, isQuote]⟩
  · exact ⟨[], rfl, by simp⟩

/-- A written text has no line feeds. -/
lemma not_mem_flatMap_scriptEscape (cs : List Char) : '\n' ∉ cs.flatMap Text.scriptEscape := by
  intro h
  obtain ⟨c, -, hc⟩ := List.mem_flatMap.mp h
  exact absurd (Script.visible_of_mem_scriptEscape hc).2 (by decide)

/-- **A written text up to its first quote**: without quotes all of it can stand in the path of an
id, and otherwise what it has before its first quote.

**Proof sketch.** Induction on the text. A character that is no quote is written with characters
that may stand in a path. A quote is written as itself or with a backslash before it, so the first
quote of the written text is that of the first quote. -/
lemma flatMap_scriptEscape_cases (cs : List Char) :
    ((∀ c ∈ cs, isQuote c = false) ∧ ∀ d ∈ cs.flatMap Text.scriptEscape, isPathChar d = true) ∨
    ((¬ ∀ c ∈ cs, isQuote c = false) ∧ ∃ a q b, cs.flatMap Text.scriptEscape = a ++ q :: b ∧
      (∀ c ∈ a, isPathChar c = true) ∧ isQuote q = true) := by
  induction cs with
  | nil => exact .inl ⟨by simp, by simp⟩
  | cons c cs ih =>
    rw [List.flatMap_cons]
    cases hq : isQuote c with
    | true =>
      obtain ⟨a, ha, hpath⟩ := scriptEscape_of_isQuote hq
      refine .inr ⟨fun h => ?_, a, c, cs.flatMap Text.scriptEscape, ?_, hpath, hq⟩
      · rw [h c List.mem_cons_self] at hq
        cases hq
      · rw [ha, List.append_assoc, List.singleton_append]
    | false =>
      have hc : ∀ d ∈ Text.scriptEscape c, isPathChar d = true := fun d hd =>
        isPathChar_of_mem_scriptEscape hq hd
      rcases ih with ⟨hcs, hpath⟩ | ⟨hcs, a, q, b, heq, hpath, hq'⟩
      · refine .inl ⟨List.forall_mem_cons.mpr ⟨hq, hcs⟩, fun d hd => ?_⟩
        exact (List.mem_append.mp hd).elim (hc d) (hpath d)
      · refine .inr ⟨fun h => hcs (List.forall_mem_cons.mp h).2, Text.scriptEscape c ++ a, q, b, ?_,
          fun d hd => (List.mem_append.mp hd).elim (hc d) (hpath d), hq'⟩
        rw [heq, List.append_assoc]

/-! ## The line -/

/-- The line that imports the virtual module with a number in a file. -/
def line (file : String) (index : ℕ) : String := importLine (VirtualId.ofFile file index) ++ "\n"

/-- What is written of an id behind the start of every id. -/
def quotedPath (file : String) (index : ℕ) : List Char :=
  ((VirtualId.path file).toList ++ ('/' :: (toString index).toList ++ ".css".toList)).flatMap
    Text.scriptEscape

/-- The characters of the line. -/
lemma toList_line (file : String) (index : ℕ) :
    (line file index).toList = "import \"".toList ++ (VirtualId.start.toList ++
      (quotedPath file index ++ "\";\n".toList)) := by
  have hstart : VirtualId.start.toList.flatMap Text.scriptEscape = VirtualId.start.toList := by
    decide
  have hid : (VirtualId.ofFile file index).toList.flatMap Text.scriptEscape =
      VirtualId.start.toList ++ quotedPath file index := by
    rw [VirtualId.toList_ofFile, quotedPath, List.append_assoc, List.flatMap_append, hstart]
    simp only [List.append_assoc, List.cons_append]
  simp only [line, importLine, Text.scriptQuote, Text.quoteList, String.toList_append,
    String.toList_ofList, hid]
  simp

/-- The written path of an id has quotes exactly if the path of the file has: its number and its
ending have none.

**Proof sketch.** Digits are no quotes, and neither are the slash and the characters of the
ending. -/
lemma forall_mem_path_append_iff (file : String) (index : ℕ) :
    (∀ c ∈ (VirtualId.path file).toList ++ ('/' :: (toString index).toList ++ ".css".toList),
        isQuote c = false) ↔
      ∀ c ∈ (VirtualId.path file).toList, isQuote c = false := by
  have hdigits : ∀ c ∈ (toString index).toList, isQuote c = false := by
    intro c hc
    cases hq : isQuote c with
    | false => rfl
    | true =>
      rcases isQuote_iff.mp hq with rfl | rfl
      all_goals exact absurd (Text.isDigit_of_mem_toString index hc) (by decide)
  have hend : ∀ c ∈ '/' :: (toString index).toList ++ ".css".toList, isQuote c = false := by
    rw [List.cons_append, List.forall_mem_cons, List.forall_mem_append]
    exact ⟨rfl, hdigits, by simp [isQuote]⟩
  rw [List.forall_mem_append]
  exact and_iff_left hend

/-- **The head of the line**: it ends at the closing quote if the path of the file has no quotes,
and before that otherwise.

**Proof sketch.** The head starts with the word and the quote that the line has. It ends at the
first quote behind them, which is the closing quote of the line exactly if the path has none. -/
lemma line_cases (file : String) (index : ℕ) :
    ((∀ c ∈ (VirtualId.path file).toList, isQuote c = false) ∧
      ∃ head, IsHead head ∧ (line file index).toList = head ++ ";\n".toList) ∨
    ((¬ ∀ c ∈ (VirtualId.path file).toList, isQuote c = false) ∧
      ∃ head b, IsHead head ∧ '\n' ∉ head ++ b ∧ '\x22' ∈ b ∧
        (line file index).toList = head ++ (b ++ ['\n'])) := by
  have hhead {path : List Char} {q : Char} (hpath : ∀ c ∈ path, isPathChar c = true)
      (hq : isQuote q = true) :
      IsHead ("import \"".toList ++ (VirtualId.start.toList ++ (path ++ [q]))) :=
    ⟨[], [' '], _, rfl, by simp, by simp [show Text.isBlank ' ' = true by decide], '\x22', [], path,
      q, rfl, rfl, by decide, hpath, hq⟩
  have hfeed : '\n' ∉ quotedPath file index := not_mem_flatMap_scriptEscape _
  rw [toList_line, ← forall_mem_path_append_iff file index]
  rcases flatMap_scriptEscape_cases ((VirtualId.path file).toList ++
    ('/' :: (toString index).toList ++ ".css".toList)) with
    ⟨h, hpath⟩ | ⟨h, a, q, b, heq, hpath, hq⟩
  · exact .inl ⟨h, _, hhead hpath (q := '\x22') rfl, by simp [quotedPath]⟩
  · refine .inr ⟨h, _, b ++ "\";".toList, hhead hpath hq, ?_, by simp, ?_⟩
    · have hstart : '\n' ∉ "import \"".toList ++ VirtualId.start.toList := by decide
      have hend : '\n' ∉ "\";".toList := by decide
      rw [quotedPath, heq] at hfeed
      simp only [List.mem_append, List.mem_cons, List.not_mem_nil, or_false, not_or]
        at hfeed hstart ⊢
      exact ⟨⟨hstart.1, hstart.2, hfeed.1, hfeed.2.1⟩, hfeed.2.2, hend⟩
    · rw [quotedPath, heq]
      simp

/-! ## The line in a text -/

/-- A line that starts with an import: what is left of it follows as characters.

**Proof sketch.** The import is the first part, since the line starts with it. What is left of the
line starts no line, so its characters are parts by themselves up to the line feed, and behind this
the next text is divided as it would be alone. -/
lemma parts_of_match? {s found rest : List Char} (hs : s = found ++ rest)
    (hmatch : ∀ post, match? (s ++ post) = some found)
    (hrest : (rest = [] ∧ lineStart true found = true) ∨
      ∃ r, rest = r ++ ['\n'] ∧ '\n' ∉ found ++ r) (post : List Char) :
    parts (s ++ post) = .import found :: (rest.map .char ++ parts post) := by
  obtain ⟨htext, hdiv⟩ := parts_eq_iff.mp (Eq.refl (parts post))
  have hbehind : Divides (lineStart true found) (rest.map .char ++ parts post) := by
    rcases hrest with ⟨rfl, hfound⟩ | ⟨r, rfl, hfeed⟩
    · rw [hfound]
      exact hdiv
    · rw [List.mem_append, not_or] at hfeed
      have hne := (exists_of_match?_eq_some (hmatch [])).1
      have hline : lineStart true found = false := by
        by_contra h
        exact hne (eq_nil_of_lineStart (by simpa using h) hfeed.1)
      rw [hline, List.map_append, List.append_assoc]
      exact .chars hfeed.2 hdiv
  have hboth : textOf (.import found :: (rest.map .char ++ parts post)) = s ++ post := by
    simp [htext, hs]
  rw [parts_eq_iff]
  refine ⟨hboth, .import ?_ hbehind⟩
  rw [← textOf_import, hboth]
  exact hmatch post

/-- **What is recognized of the line**, and what is left of it.

**Proof sketch.** If the head ends at the closing quote (`line_cases`), the semicolon and the line
feed go with it and nothing is left. Otherwise the closing quote is behind the head, where no import
goes on, so at least this quote is left. -/
lemma exists_parts_line (file : String) (index : ℕ) :
    ∃ found rest, (line file index).toList = found ++ rest ∧
      (rest = [] ↔ ∀ c ∈ (VirtualId.path file).toList, isQuote c = false) ∧
      (∀ post, match? ((line file index).toList ++ post) = some found) ∧
      ∀ post, parts ((line file index).toList ++ post) =
        .import found :: (rest.map .char ++ parts post) := by
  rcases line_cases file index with ⟨hquotes, head, hhead, heq⟩ | ⟨hquotes, head, b, hhead, hfeed,
    hquote, heq⟩
  · -- the semicolon and the line end go with the head
    have hmatch (post) :
        match? ((line file index).toList ++ post) = some (line file index).toList := by
      rw [match?_eq_some_iff, heq]
      refine ⟨head, _, hhead, List.append_assoc _ _ _, ?_⟩
      rw [lineRest_append (by decide)]
      rfl
    refine ⟨_, [], (List.append_nil _).symm, by simpa using hquotes, hmatch,
      parts_of_match? (List.append_nil _).symm hmatch (.inl ⟨rfl, ?_⟩)⟩
    rw [heq, lineStart_append, hhead.lineStart]
    rfl
  · -- the closing quote of the line is left
    obtain ⟨⟨rest, hrest⟩, hline⟩ := lineRest_spec (b ++ ['\n'])
    have hleft : '\x22' ∈ rest := by
      have hmem : '\x22' ∈ lineRest (b ++ ['\n']) ++ rest := hrest ▸ List.mem_append_left _ hquote
      refine (List.mem_append.mp hmem).resolve_left fun h => ?_
      exact absurd (hline _ h) (by decide)
    obtain rfl | ⟨r, x, rfl⟩ := rest.eq_nil_or_concat
    · cases hleft
    rw [List.concat_eq_append, ← List.append_assoc] at hrest
    obtain ⟨hb, hx⟩ := List.append_inj' hrest rfl
    obtain rfl : '\n' = x := List.singleton_inj.mp hx
    have hmatch (post) : match? ((line file index).toList ++ post) =
        some (head ++ lineRest (b ++ ['\n'])) := by
      rw [match?_eq_some_iff, heq]
      refine ⟨head, _, hhead, List.append_assoc _ _ _, ?_⟩
      rw [lineRest_append (r := b ++ ['\n']) (by simp)]
    have hs : (line file index).toList = head ++ lineRest (b ++ ['\n']) ++ (r ++ ['\n']) := by
      rw [heq, List.append_assoc, ← List.append_assoc (lineRest _), ← hb]
    refine ⟨_, r ++ ['\n'], hs, by simpa using hquotes, hmatch,
      parts_of_match? hs hmatch (.inr ⟨r, rfl, ?_⟩)⟩
    rwa [List.append_assoc, ← hb]

/-- **A written import is taken out of a text as a whole** exactly if the path of its file has no
quotes. Otherwise what follows the first of them is left at its place, whether the import is erased
or another line is put there.

**Proof sketch.** A text that starts a line in front of the written one, and the one behind it, are
divided separately. So the parts of the whole are those of the three texts, and of the written one
they are what is recognized and what is left (`exists_parts_line`). -/
theorem line_erased_iff (file : String) (index : ℕ) :
    ∃ found rest : String, line file index = found ++ rest ∧
      (rest = "" ↔ ∀ c ∈ (VirtualId.path file).toList, isQuote c = false) ∧
      ∀ pre post : String, lineStart true pre.toList = true →
        match? (line file index ++ post).toList = some found.toList ∧
        erase (pre ++ line file index ++ post) = erase pre ++ rest ++ erase post ∧
        (HasImport pre.toList → ∀ new,
          redirect new (pre ++ line file index ++ post) = redirect new pre ++ rest ++ erase post) ∧
        (¬ HasImport pre.toList → ∀ new,
          redirect new (pre ++ line file index ++ post) = pre ++ new ++ rest ++ erase post) := by
  obtain ⟨found, rest, hline, hquotes, hmatch, hparts⟩ := exists_parts_line file index
  refine ⟨.ofList found, .ofList rest, ?_, ?_, fun pre post hpre => ⟨?_, ?_⟩⟩
  · apply String.toList_injective
    rw [hline, String.toList_append, String.toList_ofList, String.toList_ofList]
  · rw [← hquotes, ← String.toList_inj, String.toList_ofList]
    rfl
  · rw [String.toList_append, String.toList_ofList]
    exact hmatch _
  · have hparts : parts (pre ++ line file index ++ post).toList =
        parts pre.toList ++ .import found :: (rest.map .char ++ parts post.toList) := by
      have hhead : ∀ c ∈ ((line file index).toList ++ post.toList).head?,
          Text.isBlank c = false ∧ isQuote c = false := by
        intro c hc
        rw [toList_line] at hc
        obtain rfl : 'i' = c := by simpa using hc
        decide
      rw [← hparts, ← parts_append hpre hhead]
      simp only [String.toList_append, List.append_assoc]
    refine ⟨?_, fun himport new => ?_, fun himport new => ?_⟩ <;> apply String.toList_injective
    · rw [toList_erase, hparts]
      simp [toList_erase]
    · rcases eq_chars_or_import (parts pre.toList) with hchars | ⟨cs, t, ps, hpre'⟩
      · rw [(parts_eq_iff.mp rfl).1] at hchars
        exact absurd himport (parts_eq_chars_iff.mp hchars)
      · rw [hpre', List.append_assoc, List.cons_append] at hparts
        rw [toList_redirect hparts]
        simp [toList_redirect hpre', toList_erase]
    · rw [parts_eq_chars_iff.mpr himport] at hparts
      rw [toList_redirect hparts]
      simp [toList_erase]

/-- The import of a file without quotes in its path, between two lines. -/
theorem line_erased_sample :
    line "a\\b.js" 1 = "import \"virtual:styled-static/a/b.js/1.css\";\n" ∧
    lineStart true "x\n".toList = true ∧
    erase ("x\n" ++ line "a\\b.js" 1 ++ "y") = "x\ny" ∧
    redirect "z\n" ("x\n" ++ line "a\\b.js" 1 ++ "y") = "x\nz\ny" := by
  obtain ⟨found, rest, -, hrest, h⟩ := line_erased_iff "a\\b.js" 1
  have hpath : ((VirtualId.path "a\\b.js").toList.all fun c => !isQuote c) = true := by decide
  obtain rfl : rest = "" := hrest.mpr (by simpa using hpath)
  obtain ⟨-, herase, -, hredirect⟩ := h "x\n" "y" (by decide)
  have hpre : ¬ HasImport "x\n".toList := parts_eq_chars_iff.mp (by decide)
  refine ⟨by decide, by decide, ?_, ?_⟩
  · rw [herase]
    decide
  · rw [hredirect hpre]
    decide

/-- The import of a file with an apostrophe in its name is recognized and erased only up to it. -/
theorem line_fragment_left :
    line "a'b.js" 0 = "import \"virtual:styled-static/a'b.js/0.css\";\n" ∧
    match? (line "a'b.js" 0).toList = some "import \"virtual:styled-static/a'".toList ∧
    erase (line "a'b.js" 0) = "b.js/0.css\";\n" := by
  decide

end StyleExtract.VirtualImport
