import DocOutline.Text.Basic

/-!
# String literals

The text that a Python string literal denotes. Formatted and bytes literals denote no fixed text.
A raw literal denotes its body; in any other, a backslash starts an escape, and one that starts no
known escape stands for itself.
-/

namespace DocOutline.Literal

/-- Whether a character is an octal digit. -/
def isOctDigit (c : Char) : Bool := '0' ≤ c && c ≤ '7'

/-- The value of a hexadecimal digit. -/
def hexDigit? (c : Char) : Option Nat :=
  if '0' ≤ c ∧ c ≤ '9' then some (c.toNat - 48)
  else if 'a' ≤ c ∧ c ≤ 'f' then some (c.toNat - 87)
  else if 'A' ≤ c ∧ c ≤ 'F' then some (c.toNat - 55)
  else none

/-- The number that a row of octal digits spells. -/
def octValue (ds : Text) : Nat := ds.foldl (fun n d => 8 * n + (d.toNat - 48)) 0

/-- The number that a row of hexadecimal digits spells. -/
def hexValue? (ds : Text) : Option Nat :=
  ds.foldlM (fun n d => (hexDigit? d).map (16 * n + ·)) 0

/-- The character that a one-letter escape stands for. -/
def simpleEscape? (c : Char) : Option Char :=
  if c = '\\' then some '\\'
  else if c = '\'' then some '\''
  else if c = '"' then some '"'
  else if c = 'n' then some '\n'
  else if c = 't' then some '\t'
  else if c = 'r' then some '\r'
  else if c = 'a' then some '\x07'
  else if c = 'b' then some '\x08'
  else if c = 'f' then some '\x0c'
  else if c = 'v' then some '\x0b'
  else none

/-- The number of hexadecimal digits in an escape by code point. -/
def codeWidth? (c : Char) : Option Nat :=
  if c = 'x' then some 2 else if c = 'u' then some 4 else if c = 'U' then some 8 else none

/-- The character named by exactly `width` hexadecimal digits at the start of a text. -/
def codePoint? (width : Nat) (t : Text) : Option Char :=
  if t.length < width then none
  else
    (hexValue? (t.take width)).bind fun n => if n.isValidChar then some (Char.ofNat n) else none

/-- What a backslash before `c` and `rest` stands for, and how many characters of `rest` belong to
the escape. -/
def escapeValue (c : Char) (rest : Text) : Text × Nat :=
  if c = '\n' then ([], 0)
  else
    match simpleEscape? c with
    | some d => ([d], 0)
    | none =>
      if isOctDigit c then
        let more := (rest.take 2).takeWhile isOctDigit
        ([Char.ofNat (octValue (c :: more))], more.length)
      else
        match codeWidth? c with
        | none => (['\\', c], 0)
        | some width =>
          match codePoint? width rest with
          | some d => ([d], width)
          | none => (['\\', c], 0)

/-- The text that a literal's body denotes. The first `skip` characters belong to an escape that is
already read. -/
def unescapeFrom (skip : Nat) : Text → Text
  | [] => []
  | c :: cs =>
    match skip with
    | n + 1 => unescapeFrom n cs
    | 0 =>
      if c = '\\' then
        match cs with
        | [] => ['\\']
        | d :: rest =>
          let (value, used) := escapeValue d rest
          value ++ unescapeFrom (used + 1) cs
      else c :: unescapeFrom 0 cs

/-- The text that a literal's body denotes. -/
def unescape (body : Text) : Text := unescapeFrom 0 body

/-- Whether a character opens a literal. -/
def isQuote (c : Char) : Bool := c == '\'' || c == '"'

/-- The number of quotes on each side of a quoted text: three or one. -/
def quoteWidth : Text → Nat
  | '"' :: '"' :: '"' :: _ => 3
  | '\'' :: '\'' :: '\'' :: _ => 3
  | _ => 1

/-- The text without the characters that start in its last `n` bytes; the text is given from its
end. -/
def dropBytes : (n : Nat) → Text → Text
  | 0, t => t
  | _, [] => []
  | n + 1, c :: cs => dropBytes (n + 1 - c.utf8Size) cs

/-- The text between the quotes. Nothing if there is no room for the quotes. -/
def body? (quoted : Text) : Option Text :=
  let width := quoteWidth quoted
  if Text.byteSize quoted < 2 * width then none
  else some (dropBytes width (quoted.drop width).reverse).reverse

/-- The text that a literal denotes, nothing for a formatted or bytes literal. -/
def decode? (token : Text) : Option Text :=
  let letters := Text.asciiLower (token.takeWhile (!isQuote ·))
  let quoted := token.dropWhile (!isQuote ·)
  if quoted.isEmpty || letters.contains 'f' || letters.contains 'b' then none
  else (body? quoted).map fun body => if letters.contains 'r' then body else unescape body

end DocOutline.Literal
