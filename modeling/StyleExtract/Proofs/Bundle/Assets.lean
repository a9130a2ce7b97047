import Mathlib.Data.List.Nodup
import Mathlib.Tactic.Common
import StyleExtract.Bundle.Basic
import StyleExtract.Proofs.Registry.ReadBack

/-!
# The style sheets of a bundle

Each chunk that owns styles gets a style sheet. Its file is beside the file of the chunk and has the
same name up to the ending, so two chunks whose names differ in their endings alone get the same
file, and the style sheet of one is written over that of the other. This file says when that
happens, and how a chunk reaches its style sheet from its own directory.

## Main definitions

* `Chunk.ownsStyles`, `Chunk.sheet` — the chunks with style sheets, and these.
* `IsDirectory` — what a file name has up to its last slash.
* `HasFront`, `SameFront` — what a file name has before its ending.
* `resolveFrom?` — where a relative path leads from the directory of a file.

## Main results

* `toList_assetName` — the file of a style sheet.
* `assetName_eq_iff` — which chunks get the same one.
* `resolveFrom?_assetName` — it is found from the directory of its chunk.
* `assets_distinct_iff` — when the style sheets of a bundle are different files.
* `sheet_overwritten` — a bundle in which they are not.

## Design

A file name is taken apart once, at its last slash (`exists_directory`). Everything that is said
about endings and relative paths is said about the two parts.
-/

namespace StyleExtract

open Text (piecesList)

/-! ## Directories -/

/-- **What a file name has up to its last slash**: nothing, or a text that ends with a slash. -/
def IsDirectory (dir : List Char) : Prop := dir = [] ∨ ∃ up, dir = up ++ ['/']

/-- Every file name is a directory and a name without slashes. -/
lemma exists_directory (cs : List Char) :
    ∃ dir base, cs = dir ++ base ∧ IsDirectory dir ∧ '/' ∉ base := by
  by_cases h : '/' ∈ cs
  · obtain ⟨up, base, rfl, hbase⟩ := Text.exists_eq_append_of_mem h
    exact ⟨up ++ ['/'], base, by simp, .inr ⟨up, rfl⟩, hbase⟩
  · exact ⟨[], cs, rfl, .inl rfl, h⟩

/-- What a file name ends with, if it has no slashes, is an end of the name in its directory. -/
lemma IsDirectory.suffix_base {dir base front back : List Char} (hdir : IsDirectory dir)
    (heq : dir ++ base = front ++ back) (hback : '/' ∉ back) : back <:+ base := by
  rcases hdir with rfl | ⟨up, rfl⟩
  · exact ⟨front, heq.symm⟩
  · obtain ⟨rest, -, rfl⟩ | ⟨rest, hrest, rfl⟩ := List.append_eq_append_iff.mp heq
    · exact List.suffix_append _ _
    · -- a longer end would have the last slash in it
      obtain rfl | ⟨rest, x, rfl⟩ := rest.eq_nil_or_concat
      · exact List.suffix_refl _
      · rw [List.concat_eq_append, ← List.append_assoc] at hrest
        obtain ⟨-, hx⟩ := List.append_inj' hrest rfl
        obtain rfl : '/' = x := List.singleton_inj.mp hx
        exact absurd (by simp) hback

/-- The name in a directory is what stands behind the last slash. -/
lemma baseName_eq {s : String} {dir base : List Char} (hs : s.toList = dir ++ base)
    (hdir : IsDirectory dir) (hbase : '/' ∉ base) : baseName s = .ofList base := by
  unfold baseName Text.splitLast?
  rcases hdir with rfl | ⟨up, rfl⟩
  · rw [hs, List.nil_append, Text.splitLastList?_of_notMem base hbase, ← List.nil_append base,
      ← hs, String.ofList_toList]
    rfl
  · rw [hs, List.append_assoc, List.singleton_append, Text.splitLastList?_append hbase]
    rfl

/-! ## File names without their endings -/

/-- **What a file name has before its ending.** The ending is what stands behind its last dot, if
that stands behind its last slash; a name without such a dot has none. -/
inductive HasFront : List Char → List Char → Prop
  /-- A name with an ending. -/
  | ended (front : List Char) {ending : List Char} (hdot : '.' ∉ ending) (hslash : '/' ∉ ending) :
    HasFront (front ++ '.' :: ending) front
  /-- A name without one. -/
  | plain {name : List Char}
    (hplain : ∀ front back, name = front ++ back → '/' ∉ back → '.' ∉ back) : HasFront name name

/-- **Two file names are the same up to their endings.** -/
def SameFront (f g : String) : Prop := ∃ front, HasFront f.toList front ∧ HasFront g.toList front

/-- A file name has only one ending.

**Proof sketch.** Two ways to end a name at a dot end it at the last dot. A name without an ending
has no dot behind its last slash, so it cannot have one as well. -/
lemma HasFront.unique {name a b : List Char} (ha : HasFront name a) (hb : HasFront name b) :
    a = b := by
  have hclash : ∀ {front ending : List Char}, '/' ∉ ending →
      ¬ ∀ f b, front ++ '.' :: ending = f ++ b → '/' ∉ b → '.' ∉ b := by
    intro front ending hslash hplain
    exact hplain front ('.' :: ending) rfl (by simpa using hslash) List.mem_cons_self
  generalize hname : name = name' at hb
  cases ha with
  | ended _ hdot hslash =>
    cases hb with
    | ended _ hdot' _ =>
      have hsplit := congrArg (Text.splitLastList? '.') hname
      rw [Text.splitLastList?_append hdot, Text.splitLastList?_append hdot'] at hsplit
      exact (Prod.mk.inj (Option.some.inj hsplit)).1
    | plain hplain =>
      subst hname
      exact absurd hplain (hclash hslash)
  | plain hplain =>
    cases hb with
    | ended _ _ hslash' =>
      subst hname
      exact absurd hplain (hclash hslash')
    | plain _ => exact hname

/-- The stem of a name without slashes is what it has before its ending, in every directory. -/
lemma IsDirectory.hasFront_stem {dir base : List Char} (hdir : IsDirectory dir)
    (hbase : '/' ∉ base) : HasFront (dir ++ base) (dir ++ (stem (.ofList base)).toList) := by
  unfold stem Text.splitLast?
  rw [String.toList_ofList]
  by_cases hdot : '.' ∈ base
  · obtain ⟨front, ending, rfl, hending⟩ := Text.exists_eq_append_of_mem hdot
    rw [Text.splitLastList?_append hending, ← List.append_assoc]
    simp only [List.mem_append, List.mem_cons, not_or] at hbase
    simpa using HasFront.ended (dir ++ front) hending hbase.2.2
  · rw [Text.splitLastList?_of_notMem base hdot]
    simp only [Option.map_none, String.toList_ofList]
    refine .plain fun front back heq hback hmem => hdot ?_
    exact (hdir.suffix_base heq hback).subset hmem

/-- The stem of a name has no slashes if the name has none. -/
lemma notMem_stem {base : List Char} (hbase : '/' ∉ base) :
    '/' ∉ (stem (.ofList base)).toList := by
  unfold stem Text.splitLast?
  rw [String.toList_ofList]
  by_cases hdot : '.' ∈ base
  · obtain ⟨front, ending, rfl, hending⟩ := Text.exists_eq_append_of_mem hdot
    rw [Text.splitLastList?_append hending]
    simp only [List.mem_append, not_or] at hbase
    simpa using hbase.1
  · rw [Text.splitLastList?_of_notMem base hdot]
    simpa using hbase

/-- **The file of a style sheet** is in the directory of its chunk, and has the stem of its name. -/
theorem toList_assetName {name : String} {dir base : List Char} (hname : name.toList = dir ++ base)
    (hdir : IsDirectory dir) (hbase : '/' ∉ base) :
    (assetName name).toList = dir ++ ((stem (.ofList base)).toList ++ ".css".toList) := by
  unfold assetName Text.splitLast?
  rcases hdir with rfl | ⟨up, rfl⟩
  · rw [hname, List.nil_append, Text.splitLastList?_of_notMem base hbase]
    rw [List.nil_append] at hname
    simp [← hname]
  · rw [hname, List.append_assoc, List.singleton_append, Text.splitLastList?_append hbase]
    simp

/-- The file of a style sheet is what the name of its chunk has before its ending, with another
ending. -/
lemma exists_hasFront (name : String) :
    ∃ front, HasFront name.toList front ∧ (assetName name).toList = front ++ ".css".toList := by
  obtain ⟨dir, base, hname, hdir, hbase⟩ := exists_directory name.toList
  refine ⟨dir ++ (stem (.ofList base)).toList, ?_, ?_⟩
  · rw [hname]
    exact hdir.hasFront_stem hbase
  · rw [toList_assetName hname hdir hbase, List.append_assoc]

/-- **Two chunks get the same file for their style sheets** exactly if their names are the same up
to their endings. -/
theorem assetName_eq_iff {f g : String} : assetName f = assetName g ↔ SameFront f g := by
  obtain ⟨a, ha, hf⟩ := exists_hasFront f
  obtain ⟨b, hb, hg⟩ := exists_hasFront g
  rw [← String.toList_inj, hf, hg, List.append_left_inj]
  constructor
  · rintro rfl
    exact ⟨a, ha, hb⟩
  · rintro ⟨front, hfront, hfront'⟩
    exact (ha.unique hfront).trans (hfront'.unique hb)

/-! ## Relative paths -/

/-- The directories that the steps of a path lead to: a dot stays, two dots go up, and any other
step goes down. -/
def walk (dirs : List (List Char)) : List (List Char) → List (List Char)
  | [] => dirs
  | step :: steps =>
    if step = ['.'] then walk dirs steps
    else if step = ['.', '.'] then walk dirs.dropLast steps
    else walk (dirs ++ [step]) steps

/-- **Where a relative path leads from the directory of a file**; nowhere if it does not start with
one dot or two and a slash. -/
def resolveFrom? (file path : String) : Option String :=
  if Text.startsWith "./" path || Text.startsWith "../" path then
    some (.ofList (['/'].intercalate
      (walk (piecesList '/' file.toList).dropLast (piecesList '/' path.toList))))
  else none

/-- A name behind a dot leads to the file of that name in the same directory.

**Proof sketch.** The path has two steps, of which the first stays in the directory of the file. The
directory is the file without its last piece, so putting the name behind it gives the directory with
the name. -/
lemma resolveFrom?_sibling {file : String} {dir base name : List Char}
    (hfile : file.toList = dir ++ base) (hdir : IsDirectory dir) (hbase : '/' ∉ base)
    (hname : '/' ∉ name) (hdot : name ≠ ['.']) (hdots : name ≠ ['.', '.']) :
    resolveFrom? file ("./" ++ .ofList name) = some (.ofList (dir ++ name)) := by
  have hsteps : piecesList '/' ("./" ++ String.ofList name).toList = [['.'], name] := by
    have hpieces := Text.piecesList_append (c := '/') name ['.'] (by decide)
    rw [Text.piecesList_of_notMem name hname] at hpieces
    simpa using hpieces
  have hdirs :
      ['/'].intercalate ((piecesList '/' file.toList).dropLast ++ [name]) = dir ++ name := by
    rcases hdir with rfl | ⟨up, rfl⟩
    · rw [hfile, List.nil_append, Text.piecesList_of_notMem base hbase]
      simp
    · rw [hfile, List.append_assoc, List.singleton_append, Text.piecesList_concat hbase,
        List.dropLast_concat, ← Text.piecesList_concat hname, Text.intercalate_piecesList]
      simp
  rw [resolveFrom?, Text.startsWith_append, Bool.true_or, if_pos rfl, hsteps]
  simp only [walk, if_true, if_neg hdot, if_neg hdots, hdirs]

/-- **A style sheet is found from the directory of its chunk** by its name behind a dot.

**Proof sketch.** The name of the style sheet has the directory of the chunk in front, and what
stands behind the last slash is longer than the names that stand for directories. So
`resolveFrom?_sibling` applies. -/
theorem resolveFrom?_assetName (name : String) :
    resolveFrom? name ("./" ++ baseName (assetName name)) = some (assetName name) := by
  obtain ⟨dir, base, hname, hdir, hbase⟩ := exists_directory name.toList
  have hasset := toList_assetName hname hdir hbase
  have hslash : '/' ∉ (stem (.ofList base)).toList ++ ".css".toList := by
    rw [List.mem_append, not_or]
    exact ⟨notMem_stem hbase, by decide⟩
  -- the name of a style sheet is longer than one dot or two
  have hlong : 4 ≤ ((stem (.ofList base)).toList ++ ".css".toList).length := by simp
  have hdot : ∀ dots : List Char, dots.length < 4 →
      (stem (.ofList base)).toList ++ ".css".toList ≠ dots := by
    rintro dots hdots rfl
    omega
  rw [baseName_eq hasset hdir hslash,
    resolveFrom?_sibling hname hdir hbase hslash (hdot _ (by decide)) (hdot _ (by decide)),
    ← hasset, String.ofList_toList]

/-! ## The style sheets of a bundle -/

/-- Whether a chunk owns styles. -/
def Chunk.ownsStyles (registry : Registry) (c : Chunk) : Bool :=
  registry.aggregate c.moduleIds ≠ ""

/-- The style sheet of a chunk. -/
def Chunk.sheet (registry : Registry) (c : Chunk) : Asset :=
  ⟨assetName c.fileName, registry.aggregate c.moduleIds⟩

/-- **The style sheets of a bundle** are those of the chunks that own styles, in their order.

**Proof sketch.** A chunk gives a style sheet exactly if it owns styles, so leaving out what is none
is filtering the chunks first. -/
theorem assets_finishBundle (registry : Registry) (chunks : List Chunk) :
    (finishBundle registry chunks).result.2 =
      (chunks.filter (Chunk.ownsStyles registry)).map (Chunk.sheet registry) := by
  have hchunk : ∀ c, (Prod.snd ∘ finishChunk registry) c =
      if c.ownsStyles registry then some (c.sheet registry) else none := by
    intro c
    unfold finishChunk Chunk.ownsStyles
    by_cases h : registry.aggregate c.moduleIds = "" <;> simp [h, Chunk.sheet]
  show (chunks.map (finishChunk registry)).filterMap Prod.snd = _
  rw [List.filterMap_map]
  induction chunks with
  | nil => rfl
  | cons c chunks ih =>
    by_cases h : c.ownsStyles registry = true
    · rw [List.filterMap_cons_some ((hchunk c).trans (if_pos h)), List.filter_cons_of_pos h, ih,
        List.map_cons]
    · rw [List.filterMap_cons_none ((hchunk c).trans (if_neg h)), List.filter_cons_of_neg h, ih]

/-- The style sheets are different files exactly if no two chunks that own styles have the same name
up to their endings. -/
lemma nodup_assets_iff (registry : Registry) (chunks : List Chunk) :
    ((finishBundle registry chunks).result.2.map Asset.fileName).Nodup ↔
      (chunks.filter (Chunk.ownsStyles registry)).Pairwise fun c d =>
        ¬ SameFront c.fileName d.fileName := by
  rw [assets_finishBundle, List.map_map, List.Nodup, List.pairwise_map]
  exact List.Pairwise.iff fun _ _ => not_congr assetName_eq_iff

/-- Names with the same ending are the same if they are the same up to it. -/
lemma SameFront.eq {f g : String} {ending : List Char} (hdot : '.' ∉ ending) (hslash : '/' ∉ ending)
    (hf : ∃ front, f.toList = front ++ '.' :: ending)
    (hg : ∃ front, g.toList = front ++ '.' :: ending) (h : SameFront f g) : f = g := by
  obtain ⟨a, ha⟩ := hf
  obtain ⟨b, hb⟩ := hg
  obtain ⟨front, hfront, hfront'⟩ := h
  rw [ha] at hfront
  rw [hb] at hfront'
  obtain rfl := hfront.unique (.ended a hdot hslash)
  obtain rfl := hfront'.unique (.ended b hdot hslash)
  rw [← String.toList_inj, ha, hb]

/-- **When no style sheet is written over another**: exactly if no two chunks that own styles have
the same name up to their endings. So none is if the chunks have different names with one and the
same ending.

**Proof sketch.** A style sheet is named after what its chunk's name has before the ending
(`nodup_assets_iff`). Names with one and the same ending that agree before it are the same name. -/
theorem assets_distinct_iff (registry : Registry) (chunks : List Chunk) :
    (((finishBundle registry chunks).result.2.map Asset.fileName).Nodup ↔
      (chunks.filter (Chunk.ownsStyles registry)).Pairwise fun c d =>
        ¬ SameFront c.fileName d.fileName) ∧
    ∀ ending : List Char, '.' ∉ ending → '/' ∉ ending →
      (∀ c ∈ chunks, ∃ front, c.fileName.toList = front ++ '.' :: ending) →
      (chunks.map Chunk.fileName).Nodup →
      ((finishBundle registry chunks).result.2.map Asset.fileName).Nodup := by
  refine ⟨nodup_assets_iff registry chunks, fun ending hdot hslash hending hnames => ?_⟩
  rw [nodup_assets_iff]
  rw [List.Nodup, List.pairwise_map] at hnames
  refine List.Pairwise.imp_of_mem ?_ (hnames.filter _)
  intro c d hc hd hne hsame
  exact hne (hsame.eq hdot hslash (hending c (List.mem_of_mem_filter hc))
    (hending d (List.mem_of_mem_filter hd)))

/-- Three chunks with one ending, and more than one dot and slash in their names. -/
theorem assets_distinct_sample :
    let r := Registry.run [.replaceFile "s.ts" ["x"]]
    let chunks : List Chunk := [⟨"assets/a.client.js", ["s.ts"], ""⟩,
      ⟨"assets/a.server.js", ["s.ts"], ""⟩, ⟨"assets.d/a.js", ["s.ts"], ""⟩]
    (chunks.map Chunk.fileName).Nodup ∧
    ((finishBundle r chunks).result.2.map Asset.fileName).Nodup := by
  intro r chunks
  have hnames : (chunks.map Chunk.fileName).Nodup := by decide
  have hending : ∀ c ∈ chunks, ∃ front, c.fileName.toList = front ++ '.' :: ['j', 's'] := by
    simp only [chunks, List.forall_mem_cons, List.not_mem_nil, false_implies, implies_true,
      and_true]
    exact ⟨⟨"assets/a.client".toList, rfl⟩, ⟨"assets/a.server".toList, rfl⟩,
      ⟨"assets.d/a".toList, rfl⟩⟩
  obtain ⟨-, hdistinct⟩ := assets_distinct_iff r chunks
  exact ⟨hnames, hdistinct ['j', 's'] (by decide) (by decide) hending hnames⟩

/-- The chunks `a.js` and `a.mjs` have different names, and both get the style sheet `a.css`. -/
theorem sheet_overwritten :
    ¬ ∀ (ops : List Registry.Operation) (chunks : List Chunk),
      (chunks.map Chunk.fileName).Nodup →
      ((finishBundle (Registry.run ops) chunks).result.2.map Asset.fileName).Nodup := by
  intro h
  have hnodup := h [.replaceFile "s.ts" ["x"], .replaceFile "t.ts" ["y"]]
    [⟨"a.js", ["s.ts"], ""⟩, ⟨"a.mjs", ["t.ts"], ""⟩] (by decide)
  revert hnodup
  decide +kernel

end StyleExtract
