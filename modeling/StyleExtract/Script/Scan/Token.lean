import StyleExtract.Script.Scan.Literal
import StyleExtract.Script.Scan.Number
import StyleExtract.Text.Identifier

/-!
# Tokens

The next token of a text, read without regard to the place where it stands: a slash is a
punctuator, and so is a backtick, and the angle brackets are single characters. What follows from
the place (regular expressions, template parts, shift operators, markup) is read again from the
same text by those who know the place.

## Main definitions

* `Script.Token` — a token.
* `Script.Lexeme` — a token with its size and the text after it.
* `Script.scanToken` — the token at the beginning of a text.

## Main results

* `Script.scanToken_rest_suffix` — what follows a token is the end of the text.
-/

namespace StyleExtract.Script

/-- A token. -/
inductive Token where
  /-- A name or keyword; one with escapes is never a keyword. -/
  | word (name : String) (escaped : Bool)
  /-- A private name. -/
  | privateName (name : String)
  /-- A punctuator. -/
  | punct (mark : String)
  /-- A number. -/
  | number (value : NumberToken)
  /-- A string literal with its value. -/
  | text (value : String)
  /-- The end of the text. -/
  | finish
  /-- What is no token. -/
  | invalid

/-- A token with its size in bytes and the text after it. -/
structure Lexeme where
  token : Token
  size : Nat
  rest : List Char

/-- A name, part by part: its characters, whether one was escaped, its size and the text after
it. -/
structure WordScan where
  chars : List Char
  escaped : Bool
  size : Nat
  rest : List Char

/-- The characters of a name. Escaped characters have to be characters of names, too. -/
def scanWord : (first : Bool) → Nat → List Char → Option WordScan
  | _, 0, cs => some ⟨[], false, 0, cs⟩
  | _, _, [] => some ⟨[], false, 0, []⟩
  | first, fuel + 1, c :: cs =>
    let allowed (x : Char) := if first then Text.isIdentifierStart x else Text.isIdentifierPart x
    if c = '\\' then
      match cs with
      | 'u' :: rest =>
        let e := readUnicodeEscape rest
        match e.cooked with
        | some [x] =>
          if allowed x then
            (scanWord false fuel e.rest).map fun w =>
              ⟨x :: w.chars, true, w.size + e.size + 2, w.rest⟩
          else none
        | _ => none
      | _ => none
    else if allowed c then
      (scanWord false fuel cs).map fun w => ⟨c :: w.chars, w.escaped, w.size + c.utf8Size, w.rest⟩
    else some ⟨[], false, 0, c :: cs⟩

theorem scanWord_rest_suffix {first : Bool} {fuel : Nat} {cs : List Char} {w : WordScan}
    (h : scanWord first fuel cs = some w) : w.rest <:+ cs := by
  fun_induction scanWord first fuel cs generalizing w <;>
    grind [Option.map_eq_some_iff, List.suffix_cons, readUnicodeEscape_rest_suffix]

/-- The punctuators, longer ones before their beginnings. Angle brackets are left single. -/
def punctuators : List (List Char × String) :=
  ["...", "===", "!==", "**=", "&&=", "||=", "??=",
    "=>", "==", "!=", "++", "--", "+=", "-=", "*=", "/=", "%=", "&=", "|=", "^=", "&&", "||",
    "??", "**", "?.",
    "(", ")", "[", "]", "\x7b", "\x7d", ";", ",", ":", "?", ".", "=", "!", "+", "-", "*", "/",
    "%", "&", "|", "^", "~", "<", ">", "@", "\x60"].map fun s => (s.toList, s)

/-- A punctuator at the beginning of a text. An optional access is none before a digit, and the
beginning of an old-style comment is none at all. -/
def scanPunctuator (cs : List Char) : Lexeme :=
  match cs with
  | '<' :: '!' :: '-' :: '-' :: _ => ⟨.invalid, 0, []⟩
  | '?' :: '.' :: d :: _ =>
    if isDigit d then ⟨.punct "?", 1, cs.drop 1⟩ else ⟨.punct "?.", 2, cs.drop 2⟩
  | _ =>
    match punctuators.find? fun (p, _) => p.isPrefixOf cs with
    | some (p, s) => ⟨.punct s, p.length, cs.drop p.length⟩
    | none => ⟨.invalid, 0, []⟩

theorem scanPunctuator_rest_suffix (cs : List Char) : (scanPunctuator cs).rest <:+ cs := by
  unfold scanPunctuator
  grind [List.drop_suffix]

/-- A number that no name follows directly. -/
def scanNumberToken (cs : List Char) : Lexeme :=
  match scanNumber cs with
  | some (value, size, rest) =>
    match rest with
    | c :: _ =>
      if Text.isIdentifierStart c || isDigit c || c == '\\' then ⟨.invalid, 0, []⟩
      else ⟨.number value, size, rest⟩
    | [] => ⟨.number value, size, rest⟩
  | none => ⟨.invalid, 0, []⟩

theorem scanNumberToken_rest_suffix (cs : List Char) : (scanNumberToken cs).rest <:+ cs := by
  unfold scanNumberToken
  split
  · next value size rest h =>
    have hrest := scanNumber_rest_suffix h
    grind
  · exact List.nil_suffix

/-- The token at the beginning of a text. -/
def scanToken (fuel : Nat) (cs : List Char) : Lexeme :=
  match cs with
  | [] => ⟨.finish, 0, []⟩
  | c :: rest =>
    if Text.isIdentifierStart c || c == '\\' then
      match scanWord true fuel cs with
      | some w => ⟨.word (String.ofList w.chars) w.escaped, w.size, w.rest⟩
      | none => ⟨.invalid, 0, []⟩
    else if isDigit c then scanNumberToken cs
    else if c = '.' then
      match rest with
      | d :: _ => if isDigit d then scanNumberToken cs else scanPunctuator cs
      | [] => scanPunctuator cs
    else if c = '\x22' ∨ c = '\x27' then
      match scanText c fuel rest with
      | some s => ⟨.text (String.ofList s.cooked), s.size + 1, s.rest⟩
      | none => ⟨.invalid, 0, []⟩
    else if c = '#' then
      match scanWord true fuel rest with
      | some w =>
        if w.chars.isEmpty then ⟨.invalid, 0, []⟩
        else ⟨.privateName (String.ofList w.chars), w.size + 1, w.rest⟩
      | none => ⟨.invalid, 0, []⟩
    else scanPunctuator cs

/-- What follows a token is the end of the text. -/
theorem scanToken_rest_suffix (fuel : Nat) (cs : List Char) : (scanToken fuel cs).rest <:+ cs := by
  unfold scanToken
  split
  · exact List.suffix_rfl
  · next c rest =>
    have hword := @scanWord_rest_suffix true fuel
    have htext := @scanText_rest_suffix c fuel rest
    grind [List.suffix_cons, scanNumberToken_rest_suffix,
      scanPunctuator_rest_suffix]

end StyleExtract.Script
