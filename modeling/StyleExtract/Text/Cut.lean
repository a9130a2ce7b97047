/-!
# Cutting and joining texts

File ids, import sources and class names are taken apart at single characters and put
together again. Every operation here is a function on the list of characters of a text, so
that its effect can be read off the list.

## Main definitions

* `Text.before` — the part of a text before the first occurrence of a character.
* `Text.splitLast?` — the two parts around the last occurrence of a character.
* `Text.dropLeading` — a text without the leading run of one character.
* `Text.stripStart?` — what follows a given beginning.
* `Text.occursIn` — whether one text stands somewhere inside another.
-/

namespace StyleExtract.Text

/-- The characters before the first `c`; all of them if there is none. -/
def before (c : Char) (s : String) : String :=
  String.ofList (s.toList.takeWhile (· != c))

/-- The text without the run of `c` that it starts with. -/
def dropLeading (c : Char) (s : String) : String :=
  String.ofList (s.toList.dropWhile (· == c))

/-- The characters of `s`, with `new` in the place of every `old`. -/
def replaceChar (old new : Char) (s : String) : String :=
  String.ofList (s.toList.map fun c => if c = old then new else c)

/-- What follows `p` in `s`, if `s` begins with `p`. -/
def stripList? : List Char → List Char → Option (List Char)
  | [], s => some s
  | _ :: _, [] => none
  | p :: ps, c :: cs => if p = c then stripList? ps cs else none

/-- What follows the text `p`, if `s` begins with it. -/
def stripStart? (p s : String) : Option String :=
  (stripList? p.toList s.toList).map String.ofList

/-- Whether `s` begins with `p`. -/
def startsWith (p s : String) : Bool :=
  (stripList? p.toList s.toList).isSome

/-- Whether `s` ends with `p`. -/
def endsWith (p s : String) : Bool :=
  (stripList? p.toList.reverse s.toList.reverse).isSome

/-- Whether the list `p` stands at some place of the list `s`. -/
def occursInList (p : List Char) : List Char → Bool
  | [] => (stripList? p []).isSome
  | c :: cs => (stripList? p (c :: cs)).isSome || occursInList p cs

/-- Whether the text `p` stands somewhere inside `s`; the empty text stands in every text. -/
def occursIn (p s : String) : Bool :=
  occursInList p.toList s.toList

/-- The parts of a list around the last `c`. -/
def splitLastList? (c : Char) : List Char → Option (List Char × List Char)
  | [] => none
  | x :: xs =>
    match splitLastList? c xs with
    | some (l, r) => some (x :: l, r)
    | none => if x = c then some ([], xs) else none

/-- The parts of a text around its last `c`; nothing if there is no `c`. -/
def splitLast? (c : Char) (s : String) : Option (String × String) :=
  (splitLastList? c s.toList).map fun (l, r) => (String.ofList l, String.ofList r)

/-- The pieces of a list between the occurrences of `c`: one more than there are of them. -/
def piecesList (c : Char) : List Char → List (List Char)
  | [] => [[]]
  | x :: xs =>
    if x = c then [] :: piecesList c xs
    else
      match piecesList c xs with
      | [] => [[x]]
      | p :: ps => (x :: p) :: ps

/-- The texts one after the other with `sep` between neighbours. -/
def join (sep : String) : List String → String
  | [] => ""
  | [s] => s
  | s :: rest => s ++ sep ++ join sep rest

/-- The texts one after the other. -/
def concat : List String → String
  | [] => ""
  | s :: rest => s ++ concat rest

end StyleExtract.Text
