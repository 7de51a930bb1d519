import DocOutline.Text.Basic
import DocOutline.Text.Ranges

/-!
# White space

Which characters count as white space, and what is left of a text without the white space it starts
with.
-/

namespace DocOutline

/-- The code points with the Unicode property `White_Space`. -/
def spaceRanges : Ranges :=
  [(0x9, 0xD), (0x20, 0x20), (0x85, 0x85), (0xA0, 0xA0), (0x1680, 0x1680), (0x2000, 0x200A),
  (0x2028, 0x2029), (0x202F, 0x202F), (0x205F, 0x205F), (0x3000, 0x3000)]

/-- Whether a character is white space. -/
def isSpace (c : Char) : Bool := spaceRanges.holds c.toNat

namespace Text

/-- The text without the white space it starts with. -/
def trimStart (t : Text) : Text := t.dropWhile isSpace

/-- The white space a text starts with. -/
def indent (t : Text) : Text := t.takeWhile isSpace

/-- Whether a text is empty or holds only white space. -/
def isBlank (t : Text) : Bool := t.all isSpace

end Text

end DocOutline
