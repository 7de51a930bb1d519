import DocOutline.Docstring
import DocOutline.Entry
import DocOutline.Outline.Links
import DocOutline.Syntax.Statement
import DocOutline.Text.Newline

/-!
# The outline of a source

One entry for the module, for each class and for each function, in the order in which they start.
Statements that are no definitions do not show: a definition belongs to the definition around it,
whatever else is in between.

An outline is made in two passes. The first one links the definitions to their owners, and the
second one visits the nodes in order and takes levels and qualified names from the links.
-/

namespace DocOutline

open Syntax Signature

/-- What to put into an outline. -/
structure OutlineOptions where
  /-- Start with the docstring of the module. -/
  moduleDocstring : Bool
  /-- Include functions whose name starts with two underscores. -/
  privateMembers : Bool
  /-- The layout of functions' docstrings. -/
  style : DocStyle
  deriving DecidableEq, Repr, Inhabited

namespace Outline

/-- The docstring of a definition. -/
def definitionDocstring? (t : SyntaxTree) : Option Text := (t.child? .body).bind docstring?

/-- The entry of a class at a level. -/
def classEntry (level : Nat) (t : SyntaxTree) : Noted Entry := do
  let header ← classHeader t
  return .make .classDef (nameOf t ++ "()") header (definitionDocstring? t) level

/-- The title of a function; that of a property says so. -/
def functionTitle (qualified : Text) (decorators : List Text) : Text :=
  (if decorators.contains "@property" then "@Property " else "") ++ qualified ++ "()"

/-- The entry of a function at a level, under its qualified name. -/
def functionEntry (style : DocStyle) (level : Nat) (qualified : Text)
    (decorators : List SyntaxTree) (t : SyntaxTree) : Noted Entry := do
  let lines ← Noted.collect decoratorLine decorators
  let header ← functionHeader t qualified lines
  return .make (.functionDef style) (functionTitle qualified lines) header
    (definitionDocstring? t) level

/-- Whether a function is left out. -/
def isHidden (options : OutlineOptions) (t : SyntaxTree) : Bool :=
  !options.privateMembers && ("__" : Text).isPrefixOf (nameOf t)

/-- The entries of a node itself, without those of its children. There is no result if the owners of
the node never end. -/
def ownEntries (options : OutlineOptions) (links : Links) (decorators : List SyntaxTree)
    (t : NumberedTree) : Option (Noted (List Entry)) :=
  match t.kind with
  | .sourceFile =>
    some (pure (if options.moduleDocstring then [.ofModule (docstring? t.tree)] else []))
  | .classDefinition => some do
    let entry ← classEntry (links.levelOf t) t.tree
    return [entry]
  | .functionDefinition =>
    if isHidden options t.tree then some (pure [])
    else do
      let qualified ← links.qualifiedName? t
      return do
        let entry ← functionEntry options.style (links.levelOf t) qualified decorators t.tree
        return [entry]
  | _ => some (pure [])

/-- The decorators of the definition below a node. -/
def decoratorsBelow (t : SyntaxTree) : List SyntaxTree :=
  if t.kind = .decoratedDefinition then t.namedChildren.filter (·.kind = .decorator) else []

mutual

/-- The entries of a node and everything below it. -/
def visit (options : OutlineOptions) (links : Links) (decorators : List SyntaxTree) :
    NumberedTree → Option (Noted (List Entry))
  | .node id kind role text children => do
    let t := NumberedTree.node id kind role text children
    let own ← ownEntries options links decorators t
    let inner ← visitAll options links (decoratorsBelow t.tree) children
    return own.append inner

/-- The entries of nodes side by side. -/
def visitAll (options : OutlineOptions) (links : Links) (decorators : List SyntaxTree) :
    List NumberedTree → Option (Noted (List Entry))
  | [] => some (pure [])
  | t :: ts => do
    let first ← if t.isNamed then visit options links decorators t else some (pure [])
    let rest ← visitAll options links decorators ts
    return first.append rest

end

/-- The outline of a numbered tree. There is none if the owners of some definition never end. -/
def ofNumbered? (options : OutlineOptions) (t : NumberedTree) : Option (Noted (List Entry)) :=
  visit options (linksOf t) [] t

/-- The outline of a syntax tree. Its nodes are numbered apart, so that owners always end. -/
def ofTree (options : OutlineOptions) (t : SyntaxTree) : Noted (List Entry) :=
  (ofNumbered? options t.numbered).getD (pure [])

end Outline

/-- The outline of a source. -/
def outline (options : OutlineOptions) (source : Text) : Noted (List Entry) := do
  let t := parse source.unifyNewlines
  if t.hasError then Noted.note .brokenSource
  Outline.ofTree options t

end DocOutline
