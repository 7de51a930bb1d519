import DocOutline.Literal

/-!
# TOML strings

Strings in double quotes have escapes, strings in single quotes have none. Three quotes on each side
make a string of several lines.
-/

namespace DocOutline.Toml

/-- Whether a character cannot stand in a string or a comment. -/
def isControl (c : Char) : Bool := (c.toNat < 0x20 && c != '\t') || c.toNat = 0x7F

/-- Whether a character is a blank inside a line. -/
def isBlank (c : Char) : Bool := c == ' ' || c == '\t'

/-- What a backslash before `c` and `rest` stands for, and how many characters of `rest` belong to
the escape. -/
def escape? (c : Char) (rest : Text) : Option (Char × Nat) :=
  if c = 'b' then some ('\x08', 0)
  else if c = 't' then some ('\t', 0)
  else if c = 'n' then some ('\n', 0)
  else if c = 'f' then some ('\x0c', 0)
  else if c = 'r' then some ('\r', 0)
  else if c = '"' then some ('"', 0)
  else if c = '\\' then some ('\\', 0)
  else if c = 'u' then (Literal.codePoint? 4 rest).map (·, 4)
  else if c = 'U' then (Literal.codePoint? 8 rest).map (·, 8)
  else none

/-- The end of a line at the start of a text: its length. -/
def lineEndLength : Text → Nat
  | '\n' :: _ => 1
  | '\r' :: '\n' :: _ => 2
  | _ => 0

/-- Reads a string in double quotes behind its opening quote. The first `skip` characters belong to
an escape that is already read. -/
def basicFrom (skip : Nat) : Text → Option (Text × Text)
  | [] => none
  | c :: cs =>
    match skip with
    | n + 1 => basicFrom n cs
    | 0 =>
      if c = '"' then some ([], cs)
      else if c = '\\' then
        match cs with
        | [] => none
        | d :: rest =>
          (escape? d rest).bind fun (value, used) =>
            (basicFrom (used + 1) cs).map fun (t, after) => (value :: t, after)
      else if isControl c then none
      else (basicFrom 0 cs).map fun (t, after) => (c :: t, after)

/-- The number of quotes at the start of a text. -/
def quoteRun (quote : Char) (t : Text) : Nat := (t.takeWhile (· = quote)).length

/-- The blanks and line ends that a backslash at the end of a line takes away, if one is there. -/
def foldedLength (t : Text) : Option Nat :=
  let rest := t.dropWhile isBlank
  if lineEndLength rest = 0 then none
  else some (t.takeWhile fun c => isBlank c || c = '\n' || c = '\r').length

/-- Reads a string of several lines in double quotes behind its opening quotes. -/
def basicLinesFrom (skip : Nat) : Text → Option (Text × Text)
  | [] => none
  | c :: cs =>
    match skip with
    | n + 1 => basicLinesFrom n cs
    | 0 =>
      if c = '"' then
        let run := quoteRun '"' (c :: cs)
        if run < 3 then (basicLinesFrom 0 cs).map fun (t, after) => (c :: t, after)
        else if run ≤ 5 then some (List.replicate (run - 3) '"', (c :: cs).drop run)
        else none
      else if c = '\\' then
        match foldedLength cs with
        | some n => basicLinesFrom n cs
        | none =>
          match cs with
          | [] => none
          | d :: rest =>
            (escape? d rest).bind fun (value, used) =>
              (basicLinesFrom (used + 1) cs).map fun (t, after) => (value :: t, after)
      else if c = '\n' then (basicLinesFrom 0 cs).map fun (t, after) => ('\n' :: t, after)
      else if c = '\r' && cs.head? = some '\n' then basicLinesFrom 0 cs
      else if isControl c then none
      else (basicLinesFrom 0 cs).map fun (t, after) => (c :: t, after)

/-- Reads a string in single quotes behind its opening quote. -/
def literalFrom : Text → Option (Text × Text)
  | [] => none
  | c :: cs =>
    if c = '\'' then some ([], cs)
    else if isControl c then none
    else (literalFrom cs).map fun (t, after) => (c :: t, after)

/-- Reads a string of several lines in single quotes behind its opening quotes. -/
def literalLinesFrom : Text → Option (Text × Text)
  | [] => none
  | c :: cs =>
    if c = '\'' then
      let run := quoteRun '\'' (c :: cs)
      if run < 3 then (literalLinesFrom cs).map fun (t, after) => (c :: t, after)
      else if run ≤ 5 then some (List.replicate (run - 3) '\'', (c :: cs).drop run)
      else none
    else if c = '\r' && cs.head? = some '\n' then literalLinesFrom cs
    else if isControl c && c != '\n' then none
    else (literalLinesFrom cs).map fun (t, after) => (c :: t, after)

/-- The text without the line end it starts with. -/
def dropLineEnd (t : Text) : Text := t.drop (lineEndLength t)

/-- Reads a string of one line, as a key may be. -/
def lineString? : Text → Option (Text × Text)
  | '"' :: t => basicFrom 0 t
  | '\'' :: t => literalFrom t
  | _ => none

/-- Reads a string. -/
def string? (t : Text) : Option (Text × Text) :=
  match Text.after? "\"\"\"" t with
  | some inner => basicLinesFrom 0 (dropLineEnd inner)
  | none =>
    match Text.after? ['\'', '\'', '\''] t with
    | some inner => literalLinesFrom (dropLineEnd inner)
    | none => lineString? t

end DocOutline.Toml
