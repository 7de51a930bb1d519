import DocOutline.Syntax.Kind

/-!
# Syntax trees

A node has a kind, a role in its parent, the text it covers in the source, and its children in
source order. Comments are nodes too and may stand among the children of any node, and so may hidden
newlines.
-/

namespace DocOutline.Syntax

/-- The part that a node plays in its parent. -/
inductive Role where
  | plain
  | name
  | superclasses
  | body
  | parameters
  | returnType
  | type
  | value
  | function
  | arguments
  | object
  | attribute
  | subscript
  | argument
  | operator
  | definition
  deriving DecidableEq, Repr, Inhabited

/-- A syntax tree. -/
inductive SyntaxTree where
  | node (kind : Kind) (role : Role) (text : Text) (children : List SyntaxTree)
  deriving Repr, Inhabited

namespace SyntaxTree

/-- The kind of a node. -/
def kind : SyntaxTree → Kind
  | node k _ _ _ => k

/-- The part that a node plays in its parent. -/
def role : SyntaxTree → Role
  | node _ r _ _ => r

/-- The text that a node covers. -/
def text : SyntaxTree → Text
  | node _ _ t _ => t

/-- The children of a node, in source order. -/
def children : SyntaxTree → List SyntaxTree
  | node _ _ _ cs => cs

/-- A node without children. -/
def leaf (kind : Kind) (text : Text) : SyntaxTree := node kind .plain text []

/-- The node in another role. -/
def withRole (role : Role) : SyntaxTree → SyntaxTree
  | node k _ t cs => node k role t cs

/-- Whether a node counts as a child. -/
def isNamed (t : SyntaxTree) : Bool := t.kind.isNamed

/-- Whether a node is a comment. -/
def isComment (t : SyntaxTree) : Bool := t.kind = .comment

/-- The children that count. -/
def namedChildren (t : SyntaxTree) : List SyntaxTree := t.children.filter isNamed

/-- The children that count and are no comments. -/
def parts (t : SyntaxTree) : List SyntaxTree := t.namedChildren.filter (!·.isComment)

/-- The first child in a role. -/
def child? (t : SyntaxTree) (role : Role) : Option SyntaxTree := t.children.find? (·.role = role)

mutual

/-- Whether some part of the source could not be read. -/
def hasError : SyntaxTree → Bool
  | node k _ _ cs => k = .error || k = .missing || anyError cs

/-- Whether one of these trees has an error. -/
def anyError : List SyntaxTree → Bool
  | [] => false
  | t :: ts => hasError t || anyError ts

end

mutual

/-- No node of the tree is a file. -/
def IsInner : SyntaxTree → Prop
  | node k _ _ cs => k.IsInner ∧ AllInner cs

/-- No node of these trees is a file. -/
def AllInner : List SyntaxTree → Prop
  | [] => True
  | t :: ts => IsInner t ∧ AllInner ts

end

theorem isInner_iff {t : SyntaxTree} : t.IsInner ↔ t.kind.IsInner ∧ AllInner t.children := by
  cases t with
  | node k r x cs => rw [IsInner]; rfl

theorem isInner_leaf {k : Kind} (h : k.IsInner) (x : Text) : (leaf k x).IsInner :=
  isInner_iff.2 ⟨h, True.intro⟩

theorem IsInner.withRole {t : SyntaxTree} (h : t.IsInner) (role : Role) :
    (t.withRole role).IsInner := by
  cases t with
  | node k r x cs => exact h

theorem allInner_iff {ts : List SyntaxTree} : AllInner ts ↔ ∀ t ∈ ts, t.IsInner := by
  induction ts with
  | nil => simp [AllInner]
  | cons t ts ih => simp [AllInner, ih]

end SyntaxTree

end DocOutline.Syntax
