import DocOutline.Text.Space

/-!
# Margins

Two ways to take the common indentation off the lines of a text. `clean` is for a docstring: the
text of its first line starts behind the opening quotes, so that line is treated by itself, and
the others lose the least indentation found among them. `dedent` is for a text whose lines all
start at the margin: they lose the white space that all of them start with.
-/

namespace DocOutline.Text

/-- The distance between two tab stops. -/
def tabStop : Nat := 8

/-- A line that starts in column `column`, with every tab replaced by spaces up to the next stop. -/
def expandTabsFrom (column : Nat) : Text → Text
  | [] => []
  | c :: cs =>
    if c = '\t' then
      let width := tabStop - column % tabStop
      List.replicate width ' ' ++ expandTabsFrom (column + width) cs
    else c :: expandTabsFrom (column + 1) cs

/-- A line with every tab replaced by spaces up to the next stop. -/
def expandTabs (line : Text) : Text := expandTabsFrom 0 line

/-- The least indentation of the lines that are not blank, zero if there is none. -/
def margin (ls : List Text) : Nat :=
  ((ls.filter (!·.isBlank)).map (·.indent.length)).min?.getD 0

/-- The lines without their indentation: the first loses all of it, the others the margin that
they share. -/
def shiftLines : List Text → List Text
  | [] => []
  | first :: rest => first.trimStart :: rest.map (·.drop (margin rest))

/-- The lines without the empty ones at both ends. -/
def dropEmptyEnds (ls : List Text) : List Text :=
  ((ls.reverse.dropWhile List.isEmpty).reverse).dropWhile List.isEmpty

/-- The text of a docstring without tabs, indentation and empty lines at its ends. -/
def clean (t : Text) : Text := unlines (dropEmptyEnds (shiftLines (t.lines.map expandTabs)))

/-- What two texts have in common at their start. -/
def commonStart : Text → Text → Text
  | a :: as, b :: bs => if a = b then a :: commonStart as bs else []
  | _, _ => []

/-- The white space that all the lines that are not blank start with. -/
def sharedIndent (ls : List Text) : Text :=
  match (ls.filter (!·.isBlank)).map indent with
  | [] => []
  | i :: is => is.foldl commonStart i

/-- The text with its blank lines emptied and the shared indentation taken off the others. -/
def dedent (t : Text) : Text :=
  let shared := sharedIndent t.lines
  unlines (t.lines.map fun line =>
    if line.isBlank then [] else (after? shared line).getD line)

end DocOutline.Text
