import StyleExtract.Script.Scan.Gap
import StyleExtract.Text.Quoted

/-!
# String literals, templates and regular expressions

## Main definitions

* `Script.readEscape` — an escape sequence behind its backslash.
* `Script.scanText` — a string literal behind its opening quote.
* `Script.scanChunk` — a literal part of a template.
* `Script.scanPattern` — a regular expression behind its opening slash.

## Main results

* `Script.scanText_rest_suffix`, `Script.scanChunk_rest_suffix`, `Script.scanPattern_snd_suffix` —
  what follows a literal is the end of the text.

## Design

The value of a literal is its *cooked* text. An escape that the language does not allow has no
cooked text; in a string that is a fault, and in a template only where the template has no tag.
A surrogate escape stands for no character and stays as it is written. The readers take fuel, one
unit a character, and each escape takes at least one character.
-/

namespace StyleExtract.Script

/-- An escape sequence: its cooked text, if it has one, its size in bytes and the text after it. -/
structure Escape where
  cooked : Option (List Char)
  size : Nat
  rest : List Char

/-- The hexadecimal digits at the beginning of a list. -/
def spanHex (cs : List Char) : List Char × List Char :=
  (cs.takeWhile fun c => (Text.hexValue? c).isSome, cs.dropWhile fun c => (Text.hexValue? c).isSome)

theorem spanHex_snd_suffix (cs : List Char) : (spanHex cs).2 <:+ cs := List.dropWhile_suffix _

/-- The value of a run of hexadecimal digits. -/
def hexNumber (ds : List Char) : Nat :=
  ds.foldl (fun n c => n * 16 + (Text.hexValue? c).getD 0) 0

/-- Whether a number is a code point of a character. -/
def isScalar (n : Nat) : Bool := n < 0xD800 || (0xDFFF < n && n ≤ 0x10FFFF)

/-- The escape of a code point: behind `u`, four digits or any number of them in braces. -/
def readUnicodeEscape (cs : List Char) : Escape :=
  match cs with
  | '\x7b' :: rest =>
    let (ds, after) := spanHex rest
    let n := hexNumber ds
    match ds, after with
    | _ :: _, '\x7d' :: rest' =>
      if 0x10FFFF < n then ⟨none, 1, rest⟩
      else if isScalar n then ⟨some [Char.ofNat n], ds.length + 2, rest'⟩
      else if 6 < ds.length then ⟨none, 1, rest⟩
      else ⟨some ('\\' :: 'u' :: '\x7b' :: (ds ++ ['\x7d'])), ds.length + 2, rest'⟩
    | _, _ => ⟨none, 1, rest⟩
  | a :: b :: c :: d :: rest =>
    match Text.hexFour? a b c d with
    | some n =>
      if isScalar n then ⟨some [Char.ofNat n], 4, rest⟩ else ⟨some ['\\', 'u', a, b, c, d], 4, rest⟩
    | none => ⟨none, 0, cs⟩
  | _ => ⟨none, 0, cs⟩

theorem readUnicodeEscape_rest_suffix (cs : List Char) : (readUnicodeEscape cs).rest <:+ cs := by
  unfold readUnicodeEscape
  grind [List.suffix_cons, spanHex_snd_suffix]

/-- An escape behind its backslash. A line break is left out; the digits that once named code
points are not allowed, except a zero alone; any other character stands for itself. -/
def readEscape (cs : List Char) : Escape :=
  match cs with
  | [] => ⟨none, 0, []⟩
  | '\r' :: '\n' :: rest => ⟨some [], 2, rest⟩
  | 'n' :: rest => ⟨some ['\n'], 1, rest⟩
  | 't' :: rest => ⟨some ['\t'], 1, rest⟩
  | 'r' :: rest => ⟨some ['\r'], 1, rest⟩
  | 'b' :: rest => ⟨some ['\x08'], 1, rest⟩
  | 'v' :: rest => ⟨some ['\x0b'], 1, rest⟩
  | 'f' :: rest => ⟨some ['\x0c'], 1, rest⟩
  | 'x' :: rest =>
    match rest with
    | a :: b :: rest' =>
      match Text.hexFour? '0' '0' a b with
      | some n => ⟨some [Char.ofNat n], 3, rest'⟩
      | none => ⟨none, 1, rest⟩
    | _ => ⟨none, 1, rest⟩
  | 'u' :: rest => let e := readUnicodeEscape rest; { e with size := e.size + 1 }
  | c :: rest =>
    if isLineBreak c then ⟨some [], c.utf8Size, rest⟩
    else if c = '0' then
      match rest with
      | d :: _ => if '0' ≤ d ∧ d ≤ '7' then ⟨none, 1, rest⟩ else ⟨some ['\x00'], 1, rest⟩
      | [] => ⟨some ['\x00'], 1, rest⟩
    else if '1' ≤ c ∧ c ≤ '7' then ⟨none, 1, rest⟩
    else ⟨some [c], c.utf8Size, rest⟩

theorem readEscape_rest_suffix (cs : List Char) : (readEscape cs).rest <:+ cs := by
  unfold readEscape
  grind [List.suffix_cons, readUnicodeEscape_rest_suffix]

/-- A literal: its cooked text, its size in bytes and the text after it. -/
structure Scanned where
  cooked : List Char
  size : Nat
  rest : List Char

/-- The literal with more text at its beginning. -/
def Scanned.behind (cooked : List Char) (size : Nat) (s : Scanned) : Scanned :=
  { s with cooked := cooked ++ s.cooked, size := s.size + size }

@[simp] theorem Scanned.rest_behind (cooked : List Char) (size : Nat) (s : Scanned) :
    (s.behind cooked size).rest = s.rest := rfl

/-- A string literal behind its opening quote. Line feeds and carriage returns end no string. -/
def scanText (quote : Char) : Nat → List Char → Option Scanned
  | 0, _ | _, [] => none
  | fuel + 1, c :: cs =>
    if c = quote then some ⟨[], c.utf8Size, cs⟩
    else if c = '\\' then
      let e := readEscape cs
      match e.cooked with
      | some cooked => (scanText quote fuel e.rest).map (·.behind cooked (e.size + 1))
      | none => none
    else if c = '\n' ∨ c = '\r' then none
    else (scanText quote fuel cs).map (·.behind [c] c.utf8Size)

/-- What follows a string literal is the end of the text. -/
theorem scanText_rest_suffix {quote : Char} {fuel : Nat} {cs : List Char} {s : Scanned}
    (h : scanText quote fuel cs = some s) : s.rest <:+ cs := by
  fun_induction scanText quote fuel cs generalizing s <;>
    grind [Option.map_eq_some_iff, Scanned.rest_behind, List.suffix_cons, readEscape_rest_suffix]

/-- A literal part of a template. -/
structure Chunk where
  /-- Its cooked text, if all its escapes have one. -/
  cooked : Option (List Char)
  /-- Whether a hole follows it. -/
  hole : Bool
  /-- The number of bytes, up to and with what ends it. -/
  size : Nat
  /-- The text after that. -/
  rest : List Char

/-- The part with more text at its beginning. -/
def Chunk.behind (cooked : Option (List Char)) (size : Nat) (k : Chunk) : Chunk :=
  { k with
    cooked := match cooked, k.cooked with
      | some a, some b => some (a ++ b)
      | _, _ => none
    size := k.size + size }

@[simp] theorem Chunk.rest_behind (cooked : Option (List Char)) (size : Nat) (k : Chunk) :
    (k.behind cooked size).rest = k.rest := rfl

/-- A literal part of a template, up to a backtick or the beginning of a hole. A carriage return
counts as a line feed, alone or together with one. -/
def scanChunk : Nat → List Char → Option Chunk
  | 0, _ | _, [] => none
  | _, '\x60' :: cs => some ⟨some [], false, 1, cs⟩
  | _, '$' :: '\x7b' :: cs => some ⟨some [], true, 2, cs⟩
  | fuel + 1, '\r' :: '\n' :: cs => (scanChunk fuel cs).map (·.behind (some ['\n']) 2)
  | fuel + 1, '\r' :: cs => (scanChunk fuel cs).map (·.behind (some ['\n']) 1)
  | fuel + 1, '\\' :: cs =>
    let e := readEscape cs
    (scanChunk fuel e.rest).map (·.behind e.cooked (e.size + 1))
  | fuel + 1, c :: cs => (scanChunk fuel cs).map (·.behind (some [c]) c.utf8Size)

/-- What follows a literal part is the end of the text. -/
theorem scanChunk_rest_suffix {fuel : Nat} {cs : List Char} {k : Chunk}
    (h : scanChunk fuel cs = some k) : k.rest <:+ cs := by
  fun_induction scanChunk fuel cs generalizing k <;>
    grind [Option.map_eq_some_iff, Chunk.rest_behind, List.suffix_cons, readEscape_rest_suffix]

/-- The body of a regular expression behind its opening slash: its size, up to and with the
closing slash, and the text after it. A slash in a class ends nothing. -/
def scanPattern : (inClass : Bool) → List Char → Option (Nat × List Char)
  | _, [] => none
  | false, '/' :: cs => some (1, cs)
  | inClass, '\\' :: c :: cs =>
    if isLineBreak c then none
    else (scanPattern inClass cs).map fun (n, r) => (n + 1 + c.utf8Size, r)
  | inClass, c :: cs =>
    if isLineBreak c then none
    else
      let inClass := if c = '[' then true else if c = ']' then false else inClass
      (scanPattern inClass cs).map fun (n, r) => (n + c.utf8Size, r)

/-- What follows a regular expression is the end of the text. -/
theorem scanPattern_snd_suffix {inClass : Bool} {cs rest : List Char} {n : Nat}
    (h : scanPattern inClass cs = some (n, rest)) : rest <:+ cs := by
  fun_induction scanPattern inClass cs generalizing n rest <;>
    grind [Option.map_eq_some_iff, List.suffix_cons]

end StyleExtract.Script
