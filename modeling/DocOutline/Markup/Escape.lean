import DocOutline.Text.Basic

/-!
# Character entities

The five characters with a meaning in HTML are written as entities.
-/

namespace DocOutline.Markup

/-- How a character is written in HTML text. -/
def entity (c : Char) : Text :=
  if c = '&' then "&amp;"
  else if c = '<' then "&lt;"
  else if c = '>' then "&gt;"
  else if c = '"' then "&quot;"
  else if c = '\'' then "&#x27;"
  else [c]

/-- The text as HTML shows it verbatim. -/
def escape (t : Text) : Text := t.flatMap entity

end DocOutline.Markup
