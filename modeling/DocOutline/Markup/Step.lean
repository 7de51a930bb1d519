import DocOutline.Markup.Escape
import DocOutline.Text.Margin
import DocOutline.Text.Span

/-!
# Markup steps

A layout is a chain of steps, each a function on texts. The first step of a chain is applied first,
so the last one ends up outermost.
-/

namespace DocOutline.Markup

/-- The line that ends the prose of a docstring and starts its sample code. -/
def examplesLine : Text := "\nExamples:\n"

/-- A preformatted block. From the first line `Examples:` on, the block is Python code. -/
def preformatted (t : Text) : Text :=
  if Text.has examplesLine t then
    Text.replaceFirst examplesLine ("\n</pre>" ++ examplesLine ++ "```python\n")
      ("<pre>\n" ++ t ++ "\n\n```")
  else "<pre>\n" ++ t ++ "\n</pre>"

/-- The text with the marks of its spans replaced by tags; unchanged if the marks make no
pattern. -/
def retagSpans (opening closing openTag closeTag t : Text) : Text :=
  match SpanPattern.ofMarks? opening closing with
  | some p => p.retag openTag closeTag t
  | none => t

/-- One step of a layout. -/
inductive Step where
  /-- Puts a text before and one behind. -/
  | wrap (before behind : Text)
  /-- Replaces every occurrence of `old`. -/
  | replace (old new : Text)
  /-- Replaces the marks around each span by tags. -/
  | retag (opening closing openTag closeTag : Text)
  /-- Takes off the shared indentation. -/
  | dedent
  /-- Writes characters with a meaning in HTML as entities. -/
  | escape
  /-- Makes a preformatted block with sample code. -/
  | preformat
  deriving DecidableEq, Repr

/-- What a step makes of a text. -/
def Step.apply : Step → Text → Text
  | .wrap before behind, t => before ++ t ++ behind
  | .replace old new, t => Text.replaceAll old new t
  | .retag opening closing openTag closeTag, t => retagSpans opening closing openTag closeTag t
  | .dedent, t => Text.dedent t
  | .escape, t => Markup.escape t
  | .preformat, t => preformatted t

/-- What a chain of steps makes of a text, the first step first. -/
def applyAll (steps : List Step) (t : Text) : Text := steps.foldl (fun acc s => s.apply acc) t

end DocOutline.Markup
