/-!
# Text

A text is the list of its characters, so that every rule of the library is a function on lists.
String literals stand for their characters wherever a text is expected.
-/

namespace DocOutline

/-- A text: its characters in order. -/
abbrev Text := List Char

instance : Coe String Text := ⟨String.toList⟩

namespace Text

/-- The pieces of a text between the occurrences of `sep`: `n` separators make `n + 1` pieces. -/
def pieces (sep : Char) : Text → List Text
  | [] => [[]]
  | c :: cs =>
    if c = sep then [] :: pieces sep cs
    else
      match pieces sep cs with
      | [] => [[c]]
      | p :: ps => (c :: p) :: ps

/-- The lines of a text: the pieces between its newlines. -/
def lines (t : Text) : List Text := pieces '\n' t

/-- The texts of a list with `sep` between them. -/
def join (sep : Text) (ts : List Text) : Text := sep.intercalate ts

/-- The text with these lines. -/
def unlines (ls : List Text) : Text := join ['\n'] ls

/-- What follows `start` in a text that begins with it. -/
def after? : (start : Text) → Text → Option Text
  | [], t => some t
  | _ :: _, [] => none
  | p :: ps, c :: cs => if p = c then after? ps cs else none

/-- The parts of a text before and after the first occurrence of `part`. -/
def splitFirst? (part : Text) : Text → Option (Text × Text)
  | [] => (after? part []).map ([], ·)
  | c :: cs =>
    match after? part (c :: cs) with
    | some rest => some ([], rest)
    | none => (splitFirst? part cs).map fun (before, rest) => (c :: before, rest)

/-- Whether `part` occurs in a text. -/
def has (part t : Text) : Bool := (splitFirst? part t).isSome

/-- The text with the first occurrence of `old` replaced by `new`. -/
def replaceFirst (old new t : Text) : Text :=
  match splitFirst? old t with
  | some (before, rest) => before ++ new ++ rest
  | none => t

/-- One left-to-right pass that replaces the occurrences of `old`; the first `skip` characters
belong to an occurrence that is already replaced. -/
def replaceFrom (old new : Text) (skip : Nat) : Text → Text
  | [] => []
  | c :: cs =>
    match skip with
    | n + 1 => replaceFrom old new n cs
    | 0 =>
      if old.isPrefixOf (c :: cs) then new ++ replaceFrom old new (old.length - 1) cs
      else c :: replaceFrom old new 0 cs

/-- The text with every occurrence of `old`, from left to right and without overlap, replaced by
`new`. There is nothing to replace when `old` is empty. -/
def replaceAll (old new t : Text) : Text :=
  if old = [] then t else replaceFrom old new 0 t

/-- The number of bytes of a text in UTF-8. -/
def byteSize (t : Text) : Nat := t.foldr (fun c n => c.utf8Size + n) 0

/-- The ASCII lower-case form of a text. -/
def asciiLower (t : Text) : Text := t.map Char.toLower

/-- The decimal digits of a number. -/
def ofNat (n : Nat) : Text := Nat.toDigits 10 n

end Text

end DocOutline
