import DocOutline.Signature.Render

/-!
# Headers of definitions

The header of a class or a function, rebuilt from the parts of its syntax tree.
-/

namespace DocOutline.Signature

open Syntax

/-- The name of a definition. -/
def nameOf (t : SyntaxTree) : Text := ((t.child? .name).map SyntaxTree.text).getD []

/-- The renderings, at one place, of the trees that have one, with commas between them. -/
def renderList (place : Place) (ts : List SyntaxTree) : Noted Text := do
  let texts ← Noted.collectSome (renderAt place) ts
  return Text.join ", " texts

/-! ## Classes -/

/-- The bases of a class. Arguments with a keyword are no bases. -/
def baseList (t : SyntaxTree) : Noted Text :=
  match t.child? .superclasses with
  | none => return []
  | some bases => renderList .baseClass (bases.parts.filter (·.kind ≠ .keywordArgument))

/-- The header of a class. -/
def classHeader (t : SyntaxTree) : Noted Text := do
  let bases ← baseList t
  return "class " ++ nameOf t ++ "(" ++ bases ++ "):"

/-! ## Functions -/

/-- A rendering behind a mark, or nothing if there is none. -/
def marked (mark : Text) : Option Text → Text
  | some text => mark ++ text
  | none => []

/-- The child in a role, rendered at a place behind a mark. -/
def markedChild (t : SyntaxTree) (role : Role) (place : Place) (mark : Text) : Noted Text :=
  match t.child? role with
  | none => return []
  | some c => do
    let text ← renderAt place c
    return marked mark text

/-- The type of a parameter, with the colon before it. -/
def parameterType (t : SyntaxTree) : Noted Text := markedChild t .type .parameterType ": "

/-- The default value of a parameter, with the equals sign before it. -/
def parameterValue (t : SyntaxTree) : Noted Text := markedChild t .value .defaultValue " = "

/-- A parameter. A comment is none. -/
def parameter? (t : SyntaxTree) : Noted (Option Text) :=
  match t.kind with
  | .keywordSeparator => return some "*"
  | .positionalSeparator => return some "/"
  | .typedParameter => do
    let type ← parameterType t
    return some (((t.namedChildren.head?).map SyntaxTree.text).getD [] ++ type)
  | .defaultParameter => do
    let value ← parameterValue t
    return some (nameOf t ++ value)
  | .typedDefaultParameter => do
    let type ← parameterType t
    let value ← parameterValue t
    return some (nameOf t ++ type ++ value)
  | .comment => return none
  | _ => return some t.text

/-- The parameters of a function. -/
def parameterList (t : SyntaxTree) : Noted Text :=
  match t.child? .parameters with
  | none => return []
  | some params => do
    let texts ← Noted.collectSome parameter? params.namedChildren
    return Text.join ", " texts

/-- The type of a function's result, with the arrow before it. -/
def returnPart (t : SyntaxTree) : Noted Text := markedChild t .returnType .returnType " -> "

/-- The arguments of a decorator. -/
def decoratorArguments (call : SyntaxTree) : Noted Text :=
  match call.child? .arguments with
  | none => return []
  | some args =>
    if args.kind = .argumentList then renderList .decoratorArgument args.parts else return []

/-- What stands behind the sign of a decorator: a name, or a call of one. -/
def decoratorBody (t : SyntaxTree) : Noted Text :=
  match t.parts.head? with
  | none => return []
  | some e =>
    if e.kind = .call then do
      let name ← markedChild e .function .decoratorArgument []
      let args ← decoratorArguments e
      return name ++ "(" ++ args ++ ")"
    else do
      let name ← renderAt .decoratorArgument e
      return marked [] name

/-- A decorator. -/
def decoratorLine (t : SyntaxTree) : Noted Text := do
  let text ← decoratorBody t
  return "@" ++ text

/-- Whether a function is asynchronous: its first word says so. -/
def isAsync (t : SyntaxTree) : Bool :=
  match t.children with
  | first :: _ => first.kind = .token && first.text = "async"
  | [] => false

/-- The header of a function under its qualified name, below its decorators. -/
def functionHeader (t : SyntaxTree) (qualified : Text) (decorators : List Text) : Noted Text := do
  let params ← parameterList t
  let result ← returnPart t
  let lines := decorators.flatMap (· ++ ['\n'])
  let start : Text := if isAsync t then "async def " else "def "
  return lines ++ start ++ qualified ++ "(" ++ params ++ ")" ++ result ++ ":"

end DocOutline.Signature
