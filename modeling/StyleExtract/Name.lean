import StyleExtract.Text.Cut

/-!
# Names that may stand in generated code

Tags, identifiers, variant dimensions, variant values and class prefixes are written into
generated scripts and style sheets without quoting, so each kind has a rule on its characters.
A `Name kind` carries the proof that its text obeys the rule of its kind.

## Main definitions

* `NameKind` — what a name is used for.
* `NameKind.accepts` — the rule of a kind.
* `Name` — a text that obeys the rule of its kind.
* `UnsafeName` — the refusal of a text, with its message.
* `Name.check` — a text as a name of a kind, or its refusal.

## Main results

* `Name.check_eq_ok_iff` — a check succeeds exactly on the texts that the rule accepts.
-/

namespace StyleExtract

/-! ## Character rules -/

/-- An ASCII letter. -/
def isLetter (c : Char) : Bool := ('a' ≤ c && c ≤ 'z') || ('A' ≤ c && c ≤ 'Z')

/-- A decimal digit. -/
def isDigit (c : Char) : Bool := '0' ≤ c && c ≤ '9'

/-- Whether the first character of a text passes `first` and all others pass `next`. -/
def headTail (first next : Char → Bool) : List Char → Bool
  | [] => false
  | c :: cs => first c && cs.all next

/-- Words that are not identifiers of strict module code. -/
def reservedWords : List String :=
  ["await", "break", "case", "catch", "class", "const", "continue", "debugger", "default",
    "delete", "do", "else", "enum", "export", "extends", "false", "finally", "for", "function",
    "if", "implements", "import", "in", "instanceof", "interface", "let", "new", "null",
    "package", "private", "protected", "public", "return", "static", "super", "switch", "this",
    "throw", "true", "try", "typeof", "var", "void", "while", "with", "yield"]

/-- An ASCII identifier of the script language that is not reserved. -/
def isIdentifier (s : String) : Bool :=
  headTail (fun c => isLetter c || c == '_' || c == '$')
    (fun c => isLetter c || isDigit c || c == '_' || c == '$') s.toList && !reservedWords.contains s

/-- A lower-case letter followed by lower-case letters and digits. -/
def isTag (s : String) : Bool :=
  headTail (fun c => 'a' ≤ c && c ≤ 'z') (fun c => ('a' ≤ c && c ≤ 'z') || isDigit c) s.toList

/-- A letter followed by letters, digits, underscores and hyphens. -/
def isStyleName (s : String) : Bool :=
  headTail isLetter (fun c => isLetter c || isDigit c || c == '_' || c == '-') s.toList

/-- Letters, digits, underscores and hyphens, at least one of them. -/
def isKey (s : String) : Bool :=
  !s.toList.isEmpty && s.toList.all fun c => isLetter c || isDigit c || c == '_' || c == '-'

/-- How every name begins that generated code declares or imports. -/
def generatedStart : String := "__ss_"

/-! ## Kinds of names -/

/-- What a name is used for. -/
inductive NameKind where
  /-- The tag of an element. -/
  | tag
  /-- A binding of the script. -/
  | binding
  /-- A dimension along which a component varies; also a parameter of generated functions. -/
  | dimension
  /-- A value of a dimension. -/
  | value
  /-- The beginning of every generated class name. -/
  | classPrefix
  deriving DecidableEq, Repr

namespace NameKind

/-- The rule of a kind. The name `__proto__` would set the prototype of a generated object, the
dimension `className` would hide the class of the caller, and generated locals start with
`__ss_`. -/
def accepts (kind : NameKind) (s : String) : Bool :=
  match kind with
  | .tag => isTag s
  | .binding => isIdentifier s && s != "__proto__"
  | .dimension =>
    isIdentifier s && s != "__proto__" && s != "className" && !Text.startsWith generatedStart s
  | .value => isKey s && s != "__proto__"
  | .classPrefix => isStyleName s

/-- The kind in words. -/
def describe : NameKind → String
  | .tag => "HTML tag"
  | .binding => "identifier"
  | .dimension => "variant dimension"
  | .value => "variant value"
  | .classPrefix => "class prefix"

end NameKind

/-- A text that obeys the rule of its kind. -/
structure Name (kind : NameKind) where
  /-- The text. -/
  text : String
  /-- It obeys the rule. -/
  valid : kind.accepts text = true
  deriving DecidableEq

/-- The tag of an element. -/
abbrev Tag := Name .tag
/-- An identifier of the script. -/
abbrev Binding := Name .binding
/-- A variant dimension. -/
abbrev Dimension := Name .dimension
/-- A variant value. -/
abbrev Value := Name .value

/-- The refusal of a text as a name. -/
structure UnsafeName where
  /-- The file in which the text stands. -/
  file : String
  /-- The text. -/
  text : String
  /-- What it was to be used for. -/
  kind : NameKind
  deriving DecidableEq, Repr

/-- The refusal in words. -/
def UnsafeName.message (e : UnsafeName) : String :=
  e.file ++ ": unsafe " ++ e.kind.describe ++ " `" ++ e.text ++ "` cannot be used in generated code"

namespace Name

/-- A text as a name of a kind, or its refusal. -/
def check (file : String) (kind : NameKind) (s : String) : Except UnsafeName (Name kind) :=
  if h : kind.accepts s = true then .ok ⟨s, h⟩ else .error ⟨file, s, kind⟩

/-- A check succeeds exactly on the texts that the rule accepts, and keeps the text. -/
theorem check_eq_ok_iff {file : String} {kind : NameKind} {s : String} {n : Name kind} :
    check file kind s = .ok n ↔ kind.accepts s = true ∧ n.text = s := by
  unfold check
  split
  · next h =>
    constructor
    · intro e
      cases e
      exact ⟨h, rfl⟩
    · rintro ⟨_, rfl⟩
      rfl
  · next h => simp [h]

end Name

end StyleExtract
