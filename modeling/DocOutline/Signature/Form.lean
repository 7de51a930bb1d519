import DocOutline.Syntax.Tree

/-!
# Forms of expressions in signatures

A signature is rebuilt from a closed set of expression forms. Each place of a signature accepts
some of them.
-/

namespace DocOutline

namespace Syntax.SyntaxTree

/-- The tree inside the wrapper that a type has in the syntax tree. -/
def unwrapped (t : SyntaxTree) : SyntaxTree :=
  if t.kind = .typeHint then
    match t.namedChildren with
    | [inner] => inner
    | _ => t
  else t

end Syntax.SyntaxTree

namespace Signature

open Syntax

/-- The form of an expression. -/
inductive Form where
  /-- A name. -/
  | name
  /-- A literal. -/
  | constant
  /-- A dotted name. -/
  | attribute
  /-- A name with arguments in brackets. -/
  | subscript
  /-- A list. -/
  | list
  /-- A minus sign and its operand. -/
  | negation
  /-- Anything else. -/
  | other
  deriving DecidableEq, Repr, Inhabited

/-- The form of a tree that is no wrapper. -/
def bareForm (t : SyntaxTree) : Form :=
  match t.kind with
  | .identifier => .name
  | .string | .concatenatedString | .integer | .float => .constant
  | .trueLiteral | .falseLiteral | .noneLiteral | .ellipsis => .constant
  | .attribute | .memberType => .attribute
  | .subscript | .genericType => .subscript
  | .list => .list
  | .unaryOperator =>
    match t.child? .operator with
    | some op => if op.text = "-" then .negation else .other
    | none => .other
  | _ => .other

/-- The form of a tree. -/
def formOf (t : SyntaxTree) : Form := bareForm t.unwrapped

/-- A place of a signature. -/
inductive Place where
  | parameterType
  | defaultValue
  | returnType
  | baseClass
  | decoratorArgument
  deriving DecidableEq, Repr, Inhabited

namespace Place

/-- The name of a place in messages. -/
def label : Place → Text
  | .parameterType => "annotation"
  | .defaultValue => "default value"
  | .returnType => "return annotation"
  | .baseClass => "base class"
  | .decoratorArgument => "decorator argument"

/-- The forms that a place accepts. -/
def forms : Place → List Form
  | .parameterType => [.name, .attribute, .subscript]
  | .defaultValue => [.constant, .name, .attribute, .negation]
  | .returnType => [.name, .constant, .attribute, .subscript]
  | .baseClass => [.name, .attribute]
  | .decoratorArgument => [.name, .attribute]

end Place

end Signature

end DocOutline
