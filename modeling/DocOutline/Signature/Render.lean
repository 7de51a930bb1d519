import DocOutline.Note

/-!
# Rendering expressions

An expression of a known form is written in a uniform way: one space behind each comma, none around
dots and brackets. Parts of an unknown form are left out with a note.

The rendering of a node depends on its children and their renderings only, so it is defined as one
fold over the tree (`rendered`). A wrapper around a type is looked through once.
-/

namespace DocOutline.Signature

open Syntax

/-- A tree with its renderings. -/
structure Rendered where
  tree : SyntaxTree
  /-- The rendering of the tree. -/
  text : Noted Text
  /-- The rendering of the tree if it is taken as it is, wrapper or not. -/
  bare : Noted Text
  /-- The renderings of the children. -/
  parts : Noted (List Text)

/-- The texts in a list that are not empty. -/
def nonEmpty (ts : List Text) : List Text := ts.filter (!·.isEmpty)

/-- The renderings of the children that pass a test, with their notes. -/
def renderingsOf (test : SyntaxTree → Bool) (children : List Rendered) : Noted (List Text) :=
  Noted.collect (·.text) (children.filter (test ·.tree))

/-- The first child in a role. -/
def childIn? (role : Role) (children : List Rendered) : Option Rendered :=
  children.find? (·.tree.role = role)

/-- A dotted name: all parts of a member of a type, or an object and its attribute. Nothing if the
object has no rendering. -/
def renderAttribute (t : SyntaxTree) (children : List Rendered) : Noted Text :=
  if t.kind = .memberType then do
    let parts ← renderingsOf SyntaxTree.isNamed children
    return Text.join "." parts
  else
    match childIn? .object children with
    | none => return []
    | some object => do
      let object ← object.text
      match t.child? .attribute with
      | some attr => return if object.isEmpty then [] else object ++ "." ++ attr.text
      | none => return []

/-- A head with arguments in brackets. -/
def withArguments (head : Text) (args : List Text) : Text :=
  head ++ "[" ++ Text.join ", " (nonEmpty args) ++ "]"

/-- The head and the arguments of a generic type, child by child. The last child that holds no
arguments is the head. -/
def genericParts : (head : Text) → List Rendered → Noted (Text × List Text)
  | head, [] => return (head, [])
  | head, c :: cs =>
    if c.tree.kind = .typeParameter then do
      let args ← c.parts
      let (head, more) ← genericParts head cs
      return (head, args ++ more)
    else do
      let head ← c.text
      genericParts head cs

/-- A head with arguments: a generic type, or a value with subscripts. -/
def renderSubscript (t : SyntaxTree) (children : List Rendered) : Noted Text :=
  if t.kind = .genericType then do
    let (head, args) ← genericParts [] (children.filter (·.tree.isNamed))
    return withArguments head args
  else
    match childIn? .value children with
    | none => return []
    | some value => do
      let head ← value.text
      let args ← renderingsOf (·.role = .subscript) children
      return withArguments head args

/-- The forms that a minus sign may stand before. -/
def operandForms : List Form := [.name, .constant, .attribute]

/-- A minus sign and its operand. -/
def renderNegation (t : SyntaxTree) (children : List Rendered) : Noted Text :=
  match (childIn? .argument children).filter fun arg => operandForms.contains (formOf arg.tree) with
  | some arg => do
    let operand ← arg.text
    return "-" ++ operand
  | none => do
    Noted.note (.unknownOperand t.text)
    return []

/-- The rendering of a node that is taken as it is. -/
def renderNode (t : SyntaxTree) (children : List Rendered) : Noted Text :=
  match formOf t with
  | .name | .constant => return t.text
  | .attribute => renderAttribute t children
  | .subscript => renderSubscript t children
  | .list => do
    let elements ← renderingsOf (fun c => c.isNamed && !c.isComment) children
    return withArguments [] elements
  | .negation => renderNegation t children
  | .other => do
    Noted.note (.unknownForm t.text t.kind)
    return []

/-- The rendering of a node, looking through a wrapper. -/
def renderWrapped (t : SyntaxTree) (children : List Rendered) : Noted Text :=
  if t.kind = .typeHint then
    match children.filter (·.tree.isNamed) with
    | [inner] => inner.bare
    | _ => renderNode t children
  else renderNode t children

/-- A node with its renderings, given its children with theirs. -/
def Rendered.ofChildren (t : SyntaxTree) (children : List Rendered) : Rendered where
  tree := t
  text := renderWrapped t children
  bare := renderNode t children
  parts := renderingsOf SyntaxTree.isNamed children

mutual

/-- A tree with its renderings. -/
def rendered : SyntaxTree → Rendered
  | .node kind role text children =>
    .ofChildren (.node kind role text children) (renderedAll children)

/-- Trees with their renderings. -/
def renderedAll : List SyntaxTree → List Rendered
  | [] => []
  | t :: ts => rendered t :: renderedAll ts

end

/-- The rendering of an expression. -/
def render (t : SyntaxTree) : Noted Text := (rendered t).text

/-- The rendering of an expression at a place of a signature, if the place accepts its form. What
has none of the known forms is left out with a note. -/
def renderAt (place : Place) (t : SyntaxTree) : Noted (Option Text) :=
  if place.forms.contains (formOf t) then do
    let text ← render t
    return some text
  else if formOf t = .other then do
    Noted.note (.omitted place t.text t.kind)
    return none
  else return none

end DocOutline.Signature
