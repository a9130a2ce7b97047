import StyleExtract.Extraction

/-!
# Recognizing constructs

The top-level variables of a file are compared with the authoring functions that it imports. A
construct is recognized by the shape of its initializer alone.

## Main definitions

* `SourceFile.templateKind` — what a template makes, by its tag.
* `SourceFile.classifyInit` — what an initializer is.
* `SourceFile.classify` — the constructs among the items of a module, in source order.
-/

namespace StyleExtract

open Script (Argument Declarator Expr Item MemberKey)
open Text (Span)

/-- The arguments of a call, if none is spread. -/
def plainArguments (args : List Argument) : List Expr :=
  if args.any Argument.isSpread then [] else args.map Argument.value

namespace SourceFile

/-- The tag in `styled.tag`. -/
def styledTag? (f : SourceFile) : Expr → Option String
  | .member _ (.ident _ object) (.name tag) =>
    if f.imports.isLocal .styled object then some tag else none
  | _ => none

/-- The tag in `styled.tag.attrs`. -/
def attrsTag? (f : SourceFile) : Expr → Option String
  | .member _ object (.name "attrs") => f.styledTag? object
  | _ => none

/-- Whether an expression is an object. -/
def isObject (e : Expr) : Bool :=
  match e.unwrap with
  | .object _ _ => true
  | _ => false

/-- What a template makes whose tag is a call: `styled.tag.attrs(object)` or `styled(Base)`. -/
def callKind (f : SourceFile) (callee : Expr) (args : List Expr) :
    Extract (Option ConstructKind) :=
  match callee, args with
  | .ident _ name, [.ident _ base] => do
    if f.imports.isLocal .styled name then return some (.extension (← f.name .binding base))
    return none
  | _, [arg] =>
    match f.attrsTag? callee with
    | some tag => do
      if isObject arg then return some (.attrs (← f.name .tag tag) (← f.slice arg.span))
      return none
    | none => return none
  | _, _ => return none

/-- What a template makes, by its tag. -/
def templateKind (f : SourceFile) (tag : Expr) : Extract (Option ConstructKind) :=
  match tag with
  | .member .. =>
    match f.styledTag? tag with
    | some name => return some (.element (← f.name .tag name))
    | none => return none
  | .call _ callee args => f.callKind callee (plainArguments args)
  | .ident _ name =>
    match f.imports.functionOf? name with
    | some .css => return some .scopedClass
    | some .createGlobalStyle => return some .globalStyle
    | some .keyframes => return some .keyframes
    | _ => return none
  | _ => return none

/-- A call that renders one component as another. -/
def renderAs (f : SourceFile) (varName : String) (span : Span) (args : List Expr) :
    Extract (Option Declaration) :=
  match args with
  | [target, source] =>
    match source.unwrap with
    | .ident _ name => do
      let source ← f.name .binding name
      match ← f.renderTarget target with
      | some target => return some (.renderAs { target, source, varName, span })
      | none => return none
    | _ => return none
  | _ => return none

/-- A call with a variant definition. -/
def variantCall (f : SourceFile) (kind : VariantKind) (varName : String) (span : Span)
    (args : List Expr) : Extract (Option Declaration) :=
  match args with
  | [arg] =>
    match arg.unwrap with
    | .object _ properties => do
      let variants ← f.variantDefinition kind properties
      return some (.variants { variants, varName, span })
    | _ => return none
  | _ => return none

/-- What an initializer is. A template with holes is reported and left alone. -/
def classifyInit (f : SourceFile) (varName : String) (init : Expr) :
    Extract (Option Declaration) :=
  match init with
  | .tagged span tag template holes => do
    match ← f.templateKind tag with
    | none => return none
    | some kind =>
      match ← f.templateText template holes with
      | some css => return some (.construct { kind, varName, css, span })
      | none =>
        report .warn (.interpolated f.id varName)
        return none
  | .call span (.ident _ callee) args =>
    match f.imports.functionOf? callee with
    | some .styledVariants => f.variantCall .component varName span (plainArguments args)
    | some .cssVariants => f.variantCall .className varName span (plainArguments args)
    | some .withComponent => f.renderAs varName span (plainArguments args)
    | _ => return none
  | _ => return none

/-- What a variable is, if it has a plain name and an initializer. -/
def classifyDeclarator (f : SourceFile) (d : Declarator) : Extract (Option Declaration) :=
  match d.name, d.init with
  | some name, some init => f.classifyInit name init
  | _, _ => return none

/-- The variables that an item declares and defines. -/
def definedVariables : Item → List Declarator
  | .variables _ false decls => decls
  | _ => []

/-- The constructs among the items of a module, in source order. -/
def classify (f : SourceFile) (items : List Item) : Extract (List Declaration) := do
  let found ← (items.flatMap definedVariables).mapM f.classifyDeclarator
  return found.filterMap fun x => x

end SourceFile

end StyleExtract
