import DocOutline.Text.Basic

/-!
# Line ends

A line may end with a line feed, a carriage return, or the pair of both.
-/

namespace DocOutline.Text

/-- The text with every line end written as one line feed. -/
def unifyNewlines (t : Text) : Text :=
  if t.contains '\r' then replaceAll ['\r'] ['\n'] (replaceAll ['\r', '\n'] ['\n'] t) else t

end DocOutline.Text
