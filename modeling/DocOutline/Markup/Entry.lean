import DocOutline.Entry
import DocOutline.Markup.Anchor
import DocOutline.Markup.Step

/-!
# Entries in Markdown

A heading, the definition as a code block, and the docstring in the layout of its subject.
-/

namespace DocOutline.Markup

/-- The steps that lay out a preformatted docstring: headings in it are bold. -/
def preSteps : List Step :=
  [.wrap "\n" "\n", .preformat, .retag "^" ":$" "<b>" ":</b>"]

/-- An indentation that survives in HTML. -/
def hardIndent : Text :=
  "&nbsp;&nbsp;&nbsp;&nbsp;&nbsp;&nbsp;&nbsp;&nbsp;&nbsp;&nbsp;&nbsp;&nbsp;&nbsp;&nbsp;&nbsp;  "

/-- The steps that lay out a quoted docstring: headings are bold, and every line is quoted. -/
def quoteSteps : List Step :=
  [.wrap "\n" "\n", .replace "    " hardIndent, .retag "^" ":$" "<b>" ":</b>",
    .retag "^" "$" "> " "<br />"]

/-- The steps that lay out the docstring of a class. -/
def classSteps : List Step := [.wrap "\n```\n" "\n```\n"]

/-- The steps that lay out the docstring of a module: its headings become headings. -/
def moduleSteps : List Step := [.retag "^" ":$" "# " ":", .dedent]

/-- The steps that lay out a definition. -/
def definitionSteps : List Step := [.wrap "```python\n" "\n```"]

/-- The steps for the docstring of a subject. -/
def docstringSteps : Subject → List Step
  | .moduleDoc => moduleSteps
  | .classDef => classSteps
  | .functionDef .pre => preSteps
  | .functionDef .quote => quoteSteps

end DocOutline.Markup

namespace DocOutline.Entry

open Markup

/-- The heading: two hashes for a module, and one more for each level. -/
def heading (e : Entry) : Text := List.replicate (e.level + 2) '#' ++ " " ++ e.title

/-- The definition as a code block. -/
def codeBlock (e : Entry) : Text := applyAll definitionSteps e.definition

/-- The docstring in the layout of its subject. -/
def docBlock (e : Entry) : Text := applyAll (docstringSteps e.subject) e.docstring

/-- The whole block of an entry. A module contributes its docstring only. -/
def summary (e : Entry) : Text :=
  if e.isModule then e.docBlock
  else e.heading ++ "\n" ++ e.codeBlock ++ "\n" ++ e.docBlock

/-- The anchor of the heading. -/
def anchor (e : Entry) : Text := Markup.anchor e.title

/-- The line of the table of contents, none for a module. -/
def tocLine? (e : Entry) : Option Text :=
  if e.isModule then none else some ("[" ++ e.title ++ "](#" ++ e.anchor ++ ")<br />")

end DocOutline.Entry
