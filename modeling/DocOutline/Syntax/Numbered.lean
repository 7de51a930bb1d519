import DocOutline.Syntax.Tree

/-!
# Numbered trees

A syntax tree does not say which of its nodes is which: two nodes may look the same. In a numbered
tree every node has a number of its own, so that a table can hold what is known about each node.
-/

namespace DocOutline.Syntax

/-- A syntax tree with a number at every node. -/
inductive NumberedTree where
  | node (id : Nat) (kind : Kind) (role : Role) (text : Text) (children : List NumberedTree)
  deriving Repr, Inhabited

namespace NumberedTree

/-- The number of a node. -/
def id : NumberedTree → Nat
  | node i _ _ _ _ => i

/-- The kind of a node. -/
def kind : NumberedTree → Kind
  | node _ k _ _ _ => k

/-- The children of a node, in source order. -/
def children : NumberedTree → List NumberedTree
  | node _ _ _ _ cs => cs

/-- Whether a node counts as a child. -/
def isNamed (t : NumberedTree) : Bool := t.kind.isNamed

mutual

/-- The tree without its numbers. -/
def tree : NumberedTree → SyntaxTree
  | node _ k r t cs => .node k r t (trees cs)

/-- Trees without their numbers. -/
def trees : List NumberedTree → List SyntaxTree
  | [] => []
  | t :: ts => tree t :: trees ts

end

mutual

/-- The numbers of all nodes of a tree. -/
def ids : NumberedTree → List Nat
  | node i _ _ _ cs => i :: idsAll cs

/-- The numbers of all nodes of trees side by side. -/
def idsAll : List NumberedTree → List Nat
  | [] => []
  | t :: ts => ids t ++ idsAll ts

end

end NumberedTree

namespace SyntaxTree

mutual

/-- The tree with numbers from `next` on, in the order in which its nodes start, and the first
number behind them. -/
def numberFrom (next : Nat) : SyntaxTree → NumberedTree × Nat
  | node k r t cs =>
    let (numbered, rest) := numberAllFrom (next + 1) cs
    (.node next k r t numbered, rest)

/-- Trees side by side with numbers from `next` on, and the first number behind them. -/
def numberAllFrom (next : Nat) : List SyntaxTree → List NumberedTree × Nat
  | [] => ([], next)
  | t :: ts =>
    let (first, next) := numberFrom next t
    let (others, next) := numberAllFrom next ts
    (first :: others, next)

end

/-- The tree with a number at every node. -/
def numbered (t : SyntaxTree) : NumberedTree := (numberFrom 0 t).1

end SyntaxTree

end DocOutline.Syntax
