import DocOutline.Literal
import DocOutline.Syntax.Tree
import DocOutline.Text.Margin

/-!
# Docstrings

The docstring of a block is the string that its first statement consists of.
-/

namespace DocOutline

open Syntax

namespace Docstring

/-- The text of a string, or of several strings in a row. A formatted or bytes string has none. -/
def literal? (t : SyntaxTree) : Option Text :=
  match t.kind with
  | .string => Literal.decode? t.text
  | .concatenatedString =>
    ((t.namedChildren.filter (·.kind = .string)).mapM fun part => Literal.decode? part.text).map
      List.flatten
  | _ => none

/-- The one expression that a statement consists of. -/
def soleExpression? (t : SyntaxTree) : Option SyntaxTree :=
  if t.kind = .expressionStatement then
    match t.namedChildren with
    | [e] => some e
    | _ => none
  else none

end Docstring

/-- The docstring of a block: its first statement, if it is a string, without its margin. -/
def docstring? (block : SyntaxTree) : Option Text := do
  let first ← block.parts.head?
  let e ← Docstring.soleExpression? first
  let text ← Docstring.literal? e
  return Text.clean text

end DocOutline
