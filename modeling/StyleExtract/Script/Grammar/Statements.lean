import StyleExtract.Script.Grammar.Expressions

/-!
# Statements

## Main definitions

* `Script.variableDeclaration` — variables and their initializers.
* `Script.typedDeclaration` — the declarations that only typed files have.
* `Script.statement` — any statement.

## Design

Declarations stand in blocks and at the top, but not as the body of a loop or condition; the rule
for statements is told whether one may stand here.
-/

namespace StyleExtract.Script

/-! ## Variables -/

/-- The words that declare variables. -/
inductive VariableKind where
  /-- Visible in the whole function. -/
  | functionWide
  /-- Visible in its block. -/
  | blockWide
  /-- Visible in its block and never assigned again. -/
  | constant
  deriving DecidableEq, Repr

/-- One variable of a declaration, and whether it has a type. -/
structure VariableDraft where
  decl : Declarator
  annotated : Bool

/-- One variable with its type and initializer. In the head of a loop the initializer is missing
before `in` and `of`; elsewhere constants and patterns have one, unless they are only declared. -/
def variableDraft (r : Rules) (kind : VariableKind) (loopHead : Bool) : Rule VariableDraft := do
  let name ← r.pattern
  let typed ← isTyped
  if typed && name.isSome then
    let _ ← eat "!"
  let annotated := typed && (← atPunct ":")
  annotation r
  if loopHead && (← atOneOf ["in", "of"]) then return ⟨⟨name, none⟩, annotated⟩
  if ← eat "=" then
    let init ← r.value
    return ⟨⟨name, some init⟩, annotated⟩
  if !(← read).ambient then
    earlyErrorIf (kind == .constant)
    if name.isNone then fail
  return ⟨⟨name, none⟩, annotated⟩

/-- The variables of a declaration behind its word, without its end. -/
def variableDrafts (r : Rules) (kind : VariableKind) (loopHead : Bool) :
    Rule (List VariableDraft) := do
  let allowIn := kind != .functionWide || !loopHead
  within (fun c => { c with allowIn := c.allowIn || allowIn }) do
    iterate ([] : List VariableDraft) fun drafts => do
      let draft ← variableDraft r kind loopHead
      if ← eat "," then return .inl (draft :: drafts)
      return .inr (draft :: drafts).reverse

/-- Reads a word that declares variables. -/
def variableKind? : Rule (Option VariableKind) := do
  if ← eatWord "var" then return some .functionWide
  if ← eatWord "let" then return some .blockWide
  if ← eatWord "const" then return some .constant
  return none

/-- A declaration of variables behind its word. -/
def variableDeclaration (r : Rules) (start : Nat) (kind : VariableKind) : Rule Item := do
  let drafts ← variableDrafts r kind false
  semicolon
  return .variables (← spanFrom start) (← read).ambient (drafts.map (·.decl))

/-! ## Functions and classes -/

/-- A function behind its keyword. -/
def functionDeclaration (r : Rules) (isAsync : Bool) : Rule Unit := do
  let isGenerator ← eat "*"
  let _ ← bindingName
  let _ ← functionRest r { isAsync, isGenerator } false

/-- A class behind its keyword. -/
def classDeclaration (r : Rules) (isAbstract : Bool) : Rule Unit := do
  let _ ← bindingName
  classTail r isAbstract

/-- Whether an asynchronous function stands here. -/
def atAsyncFunction : Rule Bool := do
  let next ← ahead
  return (← atWord "async") && next.token.isWord "function" && !next.lineBreak

/-! ## Declarations of typed files -/

/-- A name for a type. -/
def typeAlias (r : Rules) : Rule Unit := do
  let _ ← bindingName
  optionalTypeParameters r
  expect "="
  freely r.type
  semicolon

/-- An interface behind its keyword. -/
def interfaceDeclaration (r : Rules) : Rule Unit := do
  let _ ← bindingName
  optionalTypeParameters r
  if ← eatWord "extends" then heritageTypes r
  typeMembers r

/-- An enumeration behind its keyword. -/
def enumDeclaration (r : Rules) : Rule Unit := do
  let _ ← bindingName
  expect "\x7b"
  commaList "\x7d" do
    match (← cursor).token with
    | .text _ => advance
    | .word _ _ => advance
    | _ =>
      expect "["
      let _ ← textLiteral
      expect "]"
    let _ ← defaultValue r

/-- The items of a namespace, from the opening to the closing brace. -/
def namespaceBody (r : Rules) : Rule Unit := do
  expect "\x7b"
  iterate () fun _ => do
    if ← eat "\x7d" then return .inr ()
    let _ ← r.moduleItem
    return .inl ()

/-- A namespace behind its keyword. -/
def namespaceDeclaration (r : Rules) : Rule Unit := do
  let _ ← bindingName
  iterate () fun _ => do
    if ← eat "." then
      let _ ← propertyName
      return .inl ()
    return .inr ()
  namespaceBody r

/-- The shape of a module elsewhere, behind its keyword: a body, or nothing. -/
def foreignModule (r : Rules) : Rule Unit := do
  let _ ← textLiteral
  if ← atPunct "\x7b" then namespaceBody r else semicolon

/-- A declaration of typed files that starts with a word that is no keyword, if one stands
here. -/
def wordDeclaration? (r : Rules) : Rule (Option Unit) := do
  let next ← ahead
  let named := next.token.isBindable && !next.lineBreak
  if (← atWord "type") && named then
    advance
    return some (← typeAlias r)
  if (← atWord "interface") && named then
    advance
    return some (← interfaceDeclaration r)
  if (← atWord "enum") && next.token.isBindable then
    advance
    return some (← enumDeclaration r)
  if (← atWord "namespace") && named then
    advance
    return some (← namespaceDeclaration r)
  if (← atWord "module") && named then
    advance
    return some (← namespaceDeclaration r)
  if (← atWord "module") && next.token.isText && !next.lineBreak then
    advance
    return some (← foreignModule r)
  if (← atWord "global") && next.token.isPunct "\x7b" then
    advance
    return some (← namespaceBody r)
  if (← atWord "abstract") && next.token.isWord "class" && !next.lineBreak then
    advance
    advance
    return some (← classDeclaration r true)
  return none

/-- An enumeration whose values are known before the program runs, if one stands here. -/
def constEnum? (r : Rules) : Rule (Option Unit) := do
  if (← isTyped) && (← atWord "const") && (← aheadWord "enum") then
    advance
    advance
    return some (← enumDeclaration r)
  return none

/-- What stands behind `declare`: something that is defined elsewhere. -/
def ambientDeclaration? (r : Rules) (start : Nat) : Rule (Option Item) :=
  within (fun c => { c with ambient := true }) do
    if ← eatWord "function" then
      functionDeclaration r false
      return some (.other (← spanFrom start))
    if ← atAsyncFunction then
      advance
      advance
      functionDeclaration r true
      return some (.other (← spanFrom start))
    if ← eatWord "class" then
      classDeclaration r false
      return some (.other (← spanFrom start))
    if (← constEnum? r).isSome then return some (.other (← spanFrom start))
    match ← variableKind? with
    | some kind => return some (← variableDeclaration r start kind)
    | none =>
      if (← wordDeclaration? r).isSome then return some (.other (← spanFrom start))
      return none

/-- Whether `declare` stands here as the start of a declaration. -/
def atDeclare : Rule Bool := do
  let next ← ahead
  return (← isTyped) && (← atWord "declare") && !next.lineBreak && next.token.isName

/-- A declaration that only typed files have, if one stands here. -/
def typedDeclaration? (r : Rules) (start : Nat) : Rule (Option Item) := do
  if !(← isTyped) then return none
  if ← atDeclare then
    earlyErrorIf (← read).ambient
    advance
    match ← ambientDeclaration? r start with
    | some item => return some item
    | none => fail
  if (← constEnum? r).isSome then return some (.other (← spanFrom start))
  if (← wordDeclaration? r).isSome then return some (.other (← spanFrom start))
  return none

/-! ## Loops -/

/-- Reads the body of a loop. -/
def loopBody (r : Rules) : Rule Unit := do
  let _ ← within (fun c => { c with breakable := true, continuable := true }) (r.statement false)

/-- An expression in parentheses. -/
def condition (r : Rules) : Rule Unit := do
  expect "("
  let _ ← r.expression
  expect ")"

/-- The rest of the head of a loop behind its first part: a test and a step. -/
def countingHead (r : Rules) : Rule Unit := do
  expect ";"
  if !(← atPunct ";") then
    let _ ← r.expression
  expect ";"
  if !(← atPunct ")") then
    let _ ← r.expression

/-- The rest of the head of a loop behind its variable: what the loop runs through. The result is
whether it runs through values and not through keys. -/
def eachHead (r : Rules) : Rule Bool := do
  if ← eatWord "of" then
    let _ ← r.value
    return true
  expectWord "in"
  let _ ← r.expression
  return false

/-- Whether one variable may run through something: it has neither initializer nor type. -/
def runsThrough : List VariableDraft → Bool
  | [v] => v.decl.init.isNone && !v.annotated
  | _ => false

/-- The head of a loop between its parentheses; the result is whether it runs through values. -/
def loopHead (r : Rules) : Rule Bool := do
  match ← variableKind? with
  | some kind =>
    let drafts ← within (fun c => { c with allowIn := false }) (variableDrafts r kind true)
    if ← atOneOf ["of", "in"] then
      earlyErrorIf !(runsThrough drafts)
      eachHead r
    else
      countingHead r
      return false
  | none =>
    if ← atPunct ";" then
      countingHead r
      return false
    let n ← within (fun c => { c with allowIn := false }) r.assign
    if ← atOneOf ["of", "in"] then
      if !n.target then fail
      return ← eachHead r
    let _ ← n.value
    iterate () fun _ => do
      if ← eat "," then
        let _ ← within (fun c => { c with allowIn := false }) r.value
        return .inl ()
      return .inr ()
    countingHead r
    return false

/-- A loop with a head, behind its keyword. Only one that runs through values can wait for
them. -/
def forLoop (r : Rules) : Rule Unit := do
  let waits ← eatWord "await"
  expect "("
  let values ← within (fun c => { c with allowIn := true }) (loopHead r)
  expect ")"
  if waits && !values then fail
  loopBody r

/-! ## Other statements -/

/-- A block. -/
def block (r : Rules) : Rule Unit := do
  expect "\x7b"
  statementsToBrace r

/-- A condition with its branches, behind its keyword. -/
def ifStatement (r : Rules) : Rule Unit := do
  condition r
  let _ ← r.statement false
  if ← eatWord "else" then
    let _ ← r.statement false

/-- The cases of a switch behind its keyword; at most one is the default. -/
def switchStatement (r : Rules) : Rule Unit := do
  condition r
  expect "\x7b"
  within (fun c => { c with breakable := true }) do
    iterate (false, false) fun (hasDefault, inCase) => do
      if ← eat "\x7d" then return .inr ()
      if ← eatWord "case" then
        let _ ← r.expression
        expect ":"
        return .inl (hasDefault, true)
      if ← eatWord "default" then
        earlyErrorIf hasDefault
        expect ":"
        return .inl (true, true)
      if !inCase then fail
      let _ ← r.statement true
      return .inl (hasDefault, inCase)

/-- A block with handlers, behind its keyword. -/
def tryStatement (r : Rules) : Rule Unit := do
  block r
  let caught ← eatWord "catch"
  if caught then
    if ← eat "(" then
      let _ ← r.pattern
      annotation r
      expect ")"
    block r
  if ← eatWord "finally" then block r
  else if !caught then fail

/-- A statement that leaves a loop, switch or labelled statement, behind its keyword. -/
def breakStatement : Rule Unit := do
  let ctx ← read
  if ← canEndStatement then earlyErrorIf !ctx.breakable
  else
    let label ← referenceName
    earlyErrorIf !(ctx.labels.contains label)
  semicolon

/-- A statement that goes to the next round of a loop, behind its keyword. -/
def continueStatement : Rule Unit := do
  let ctx ← read
  earlyErrorIf !ctx.continuable
  if !(← canEndStatement) then
    let label ← referenceName
    earlyErrorIf !(ctx.labels.contains label)
  semicolon

/-- A statement behind its label. -/
def labelledStatement (r : Rules) : Rule Unit := do
  let label ← referenceName
  expect ":"
  earlyErrorIf ((← read).labels.contains label)
  let _ ← within (fun c => { c with breakable := true, labels := label :: c.labels })
    (r.statement false)

/-- A statement that starts with a keyword of its own, if one stands here. -/
def keywordStatement? (r : Rules) : Rule (Option Unit) := do
  if ← eatWord "if" then return some (← ifStatement r)
  if ← eatWord "for" then return some (← forLoop r)
  if ← eatWord "while" then
    condition r
    return some (← loopBody r)
  if ← eatWord "do" then
    loopBody r
    expectWord "while"
    condition r
    let _ ← eat ";"
    return some ()
  if ← eatWord "switch" then return some (← switchStatement r)
  if ← eatWord "try" then return some (← tryStatement r)
  if ← eatWord "throw" then
    if (← cursor).lineBreak then fail
    let _ ← r.expression
    return some (← semicolon)
  if ← eatWord "return" then
    earlyErrorIf !(← read).inFunction
    if !(← canEndStatement) then
      let _ ← r.expression
    return some (← semicolon)
  if ← eatWord "break" then return some (← breakStatement)
  if ← eatWord "continue" then return some (← continueStatement)
  if ← eatWord "debugger" then return some (← semicolon)
  return none

/-- A declaration that is no variable, if one stands here. -/
def declaration? (r : Rules) (start : Nat) : Rule (Option Item) := do
  if ← eatWord "function" then
    functionDeclaration r false
    return some (.other (← spanFrom start))
  if ← atAsyncFunction then
    advance
    advance
    functionDeclaration r true
    return some (.other (← spanFrom start))
  if ← eatWord "class" then
    classDeclaration r false
    return some (.other (← spanFrom start))
  if (← isTyped) && (← atPunct "@") then
    decorators r
    let isAbstract ← eatWord "abstract"
    expectWord "class"
    classDeclaration r isAbstract
    return some (.other (← spanFrom start))
  typedDeclaration? r start

/-- Whether a resource that is released at the end of its block is declared here. -/
def atResource : Rule Bool := do
  let next ← ahead
  if !(← isTyped) then return false
  if ← atWord "using" then return next.token.isBindable && !next.lineBreak && !next.token.isWord "of"
  if ← atWord "await" then
    let name := next.next (← read).size
    return next.token.isWord "using" && !next.lineBreak && name.token.isBindable && !name.lineBreak
  return false

/-- Any statement; a declaration only where asked for. -/
def statement (r : Rules) (declarations : Bool) : Rule Item :=
  within (fun c => { c with allowIn := true, inConditional := false, colonAhead := false }) do
    let start ← position
    if ← eat ";" then return .other (← spanFrom start)
    if ← atPunct "\x7b" then
      block r
      return .other (← spanFrom start)
    if (← keywordStatement? r).isSome then return .other (← spanFrom start)
    if declarations then
      if let some item ← declaration? r start then return item
      if ← atResource then
        let _ ← eatWord "await"
        advance
        return ← variableDeclaration r start .constant
    else if (← atOneOf ["function", "class", "const", "let"]) then fail
    if let some kind ← variableKind? then return ← variableDeclaration r start kind
    if (← cursor).token.isName && (← aheadPunct ":") then
      labelledStatement r
      return .other (← spanFrom start)
    if (← atWord "import") && !((← aheadPunct "(") || (← aheadPunct ".")) then fail
    let value ← r.expression
    semicolon
    return .expression (← spanFrom start) value

end StyleExtract.Script
