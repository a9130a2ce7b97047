import StyleExtract.Script.Grammar.Types

/-!
# Elements in markup

Markup has a syntax of its own for names, strings and text, so it is read from the characters
behind the current token and not from tokens.

## Main definitions

* `Script.element` — an element or fragment, up to its last bracket, which stays the current
  token.
-/

namespace StyleExtract.Script

/-- The characters of a name in markup, which may have hyphens. -/
def isMarkupPart (c : Char) : Bool := Text.isIdentifierPart c || c == '-'

/-- A name in markup. -/
def markupWord : Rule String := do
  if !(← cursor).here.head?.any Text.isIdentifierStart then fail
  let name ← resume fun c =>
    let name := c.here.takeWhile isMarkupPart
    some (name, Text.bytes name, ⟨c.here.dropWhile isMarkupPart, List.dropWhile_suffix _⟩)
  return String.ofList name

/-- The name of an element: with a namespace, with members, or plain. -/
def elementName : Rule String := do
  let first ← markupWord
  if ← eat ":" then return first ++ ":" ++ (← markupWord)
  iterate first fun name => do
    if ← eat "." then
      let part ← markupWord
      return .inl (name ++ "." ++ part)
    return .inr name

/-- The string that is the value of an attribute: up to the next quote of its kind. -/
def attributeText (quote : Char) : Rule Unit :=
  resume fun c =>
    let body := c.here.drop 1
    match h : body.dropWhile (· != quote) with
    | [] => none
    | q :: rest => some ((), Text.bytes (body.takeWhile (· != quote)) + 2, ⟨rest,
        (List.suffix_cons q rest).trans
          (h ▸ (List.dropWhile_suffix _).trans (List.drop_suffix 1 c.here))⟩)

/-- The value of an attribute: a string, an expression in braces, or an element. -/
def attributeValue (r : Rules) : Rule Unit := do
  match (← cursor).here with
  | '\x22' :: _ => attributeText '\x22'
  | '\x27' :: _ => attributeText '\x27'
  | '\x7b' :: _ =>
    advance
    let _ ← within (fun c => { c with allowIn := true, colonAhead := false }) r.expression
    expect "\x7d"
  | '<' :: _ =>
    r.element
    advance
  | _ => fail

/-- The attributes of an element, up to the slash or bracket that ends its tag. -/
def attributes (r : Rules) : Rule Unit :=
  iterate () fun _ => do
    if (← atPunct ">") || (← atPunct "/") then return .inr ()
    if ← eat "\x7b" then
      expect "..."
      let _ ← within (fun c => { c with allowIn := true, colonAhead := false }) r.value
      expect "\x7d"
      return .inl ()
    let _ ← markupWord
    if ← eat ":" then
      let _ ← markupWord
    if ← eat "=" then attributeValue r
    return .inl ()

/-- The characters of a text between elements. -/
def isMarkupText (c : Char) : Bool := c != '<' && c != '\x7b'

/-- What stands between elements, behind a bracket or brace that is the current token: text, up to
the brace or bracket that then is the current token. -/
def markupText : Rule Unit := do
  let text ← resume fun c =>
    let text := c.rest.takeWhile isMarkupText
    some (text, c.stop - c.start + Text.bytes text,
      ⟨c.rest.dropWhile isMarkupText, (List.dropWhile_suffix _).trans c.rest_suffix⟩)
  earlyErrorIf (text.any fun x => x == '>' || x == '\x7d')

/-- The children of an element with a name, and its closing tag, whose last bracket stays the
current token. -/
def children (r : Rules) (name : String) : Rule Unit :=
  iterate () fun _ => do
    markupText
    if ← atPunct "\x7b" then
      advance
      if !(← atPunct "\x7d") then
        let _ ← eat "..."
        let _ ← within (fun c => { c with allowIn := true, colonAhead := false }) r.expression
      if !(← atPunct "\x7d") then fail
      return .inl ()
    if !(← atPunct "<") then fail
    if ← aheadPunct "/" then
      advance
      advance
      let closing ← if ← atPunct ">" then pure "" else elementName
      if closing != name || !(← atPunct ">") then fail
      return .inr ()
    r.element
    return .inl ()

/-- An element or fragment. Its last bracket stays the current token, because what follows it may
be text. -/
def element (r : Rules) : Rule Unit := do
  expect "<"
  if ← atPunct ">" then children r ""
  else
    let name ← elementName
    if (← isTyped) && (← atPunct "<") then typeArguments r
    attributes r
    if ← eat "/" then
      if !(← atPunct ">") then fail
    else children r name

end StyleExtract.Script
