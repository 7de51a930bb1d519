import DocOutline.Text.LowerCase
import DocOutline.Text.Word

/-!
# Anchors

The name under which a heading can be linked to. It is made of word characters and hyphens.
-/

namespace DocOutline.Markup

/-- Whether a character can stand in a name between double underscores. -/
def isDunderChar (c : Char) : Bool :=
  ('a' ≤ c && c ≤ 'z') || ('A' ≤ c && c ≤ 'Z') || c == '_'

/-- Reads `__name__(` at the start of a text: the name, and what follows the parenthesis. -/
def dunderCall? (t : Text) : Option (Text × Text) :=
  match Text.after? "__" t with
  | none => none
  | some inner =>
    match inner.dropWhile isDunderChar, (inner.takeWhile isDunderChar).reverse with
    | '(' :: rest, '_' :: '_' :: name => some (name.reverse, rest)
    | _, _ => none

/-- The title with the first call of the form `__name__(` written as `name(`. -/
def stripDunder : Text → Text
  | [] => []
  | c :: cs =>
    match dunderCall? (c :: cs) with
    | some (name, rest) => name ++ '(' :: rest
    | none => c :: stripDunder cs

/-- Whether a character stays in an anchor. -/
def isAnchorChar (c : Char) : Bool := isWord c || c == '-' || c == ' '

/-- The anchor of a heading. -/
def anchor (title : Text) : Text :=
  (Text.lower (Text.replaceAll [' '] ['-'] (stripDunder title))).filter isAnchorChar

end DocOutline.Markup
