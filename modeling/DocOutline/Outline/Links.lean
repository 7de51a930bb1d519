import DocOutline.Signature.Header
import DocOutline.Syntax.Numbered

/-!
# Links between definitions

Where a definition belongs is found in a pass of its own: a table gives the level of each
definition and its owner, which is the definition around it or else the file. The qualified name
of a definition is then read off the chain of its owners.
-/

namespace DocOutline.Outline

open Syntax Signature

/-- Whether nodes of this kind are classes or functions. -/
def isDefinition (kind : Kind) : Bool := kind = .classDefinition || kind = .functionDefinition

/-- Where a node belongs. -/
structure Link where
  /-- How many definitions enclose the node, itself included. -/
  level : Nat
  /-- The definition around the node, or the file. A file has none. -/
  owner : Option NumberedTree

/-- The links of nodes by their numbers, the latest first. -/
abbrev Links := List (Nat × Link)

namespace Links

/-- The table with another link. -/
def insert (links : Links) (t : NumberedTree) (link : Link) : Links := (t.id, link) :: links

/-- The link of a node. -/
def link? (links : Links) (t : NumberedTree) : Option Link := links.lookup t.id

/-- The level of a node, or zero if the table does not have the node. -/
def levelOf (links : Links) (t : NumberedTree) : Nat := ((links.link? t).map (·.level)).getD 0

/-- The owner of a node. -/
def owner? (links : Links) (t : NumberedTree) : Option NumberedTree :=
  (links.link? t).bind (·.owner)

/-- Follows the owners from `current` on until a file or until there is none, and adds their names
to `names`. The result has the names and the place where the climb ends; a climb that does not end
within `steps` steps has no result. -/
def climb (links : Links) :
    (steps : Nat) → List Text → Option NumberedTree → Option (List Text × Option NumberedTree)
  | 0, _, _ => none
  | _ + 1, names, none => some (names, none)
  | steps + 1, names, some owner =>
    if owner.kind = .sourceFile then some (names, some owner)
    else links.climb steps (names ++ [nameOf owner.tree]) (links.owner? owner)

/-- The climb from a definition. If it goes past more nodes than the table has links, then it runs
in circles. -/
def climbFrom (links : Links) (t : NumberedTree) : Option (List Text × Option NumberedTree) :=
  links.climb (links.length + 1) [nameOf t.tree] (links.owner? t)

/-- The name of a definition with those of the definitions around it, the outermost first. -/
def qualifiedName? (links : Links) (t : NumberedTree) : Option Text := do
  let (names, _) ← links.climbFrom t
  return Text.join "." names.reverse

end Links

mutual

/-- Links a node and the definitions below it, given what is around it. -/
def linkNode (owner : NumberedTree) (level : Nat) (links : Links) : NumberedTree → Links
  | .node id kind role text children =>
    let t := NumberedTree.node id kind role text children
    if isDefinition kind then
      linkNodes t (level + 1) (links.insert t ⟨level + 1, some owner⟩) children
    else linkNodes owner level links children

/-- Links the definitions in nodes side by side. -/
def linkNodes (owner : NumberedTree) (level : Nat) (links : Links) : List NumberedTree → Links
  | [] => links
  | t :: ts =>
    linkNodes owner level (if t.isNamed then linkNode owner level links t else links) ts

end

/-- The links of a file and of all definitions in it. -/
def linksOf (root : NumberedTree) : Links :=
  linkNodes root 0 (Links.insert [] root ⟨0, none⟩) root.children

end DocOutline.Outline
