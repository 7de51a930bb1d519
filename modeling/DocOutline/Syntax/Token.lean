import DocOutline.Text.Basic
import DocOutline.Text.Identifier

/-!
# Tokens

The words of a Python source. A token keeps what stands before it (blanks, comments and newlines
that a backslash hides) and the indentation of its line if it is the first token on it. Whether a
line ends a statement is for the grammar to say: inside brackets it does not.

A formatted string is one token. Its replacement fields may hold strings of their own, so the end of
the token is found with a stack of the constructs that are open.
-/

namespace DocOutline.Syntax

/-- The class of a token. -/
inductive Lexeme where
  | name
  | integer
  | float
  | string
  | symbol
  /-- A character that starts no token. -/
  | stray
  /-- The end of the source. -/
  | finish
  deriving DecidableEq, Repr, Inhabited

/-- A token. -/
structure Token where
  lexeme : Lexeme
  text : Text
  /-- The comments and hidden newlines before the token, each with the blanks before it. -/
  extras : List (Text × Text)
  /-- The blanks directly before the token. -/
  gap : Text
  /-- The indentation of the line, for the first token of a line. -/
  line : Option Nat
  deriving DecidableEq, Repr, Inhabited

namespace Token

/-- Whether a token is this keyword or symbol. -/
def spells (t : Token) (w : String) : Bool :=
  (t.lexeme = .name || t.lexeme = .symbol) && t.text = w.toList

/-! ## Blanks and comments -/

/-- Whether a character separates tokens without an influence on indentation. -/
def isFiller (c : Char) : Bool :=
  c.toNat = 0xB || c.toNat = 0xFEFF || c.toNat = 0x2060 || c.toNat = 0x200B

/-- The blanks at the start of a text, the indentation after them, and what follows. A newline
starts a line. -/
def blanks (line : Option Nat) : Text → Text × Option Nat × Text
  | [] => ([], line, [])
  | c :: cs =>
    let next :=
      if c = '\n' then some (some 0)
      else if c = ' ' then some (line.map (· + 1))
      else if c = '\t' then some (line.map (· + 8))
      else if c = '\r' || c = '\x0c' then some (line.map fun _ => 0)
      else if isFiller c then some line
      else none
    match next with
    | none => ([], line, c :: cs)
    | some line =>
      let (gap, line, rest) := blanks line cs
      (c :: gap, line, rest)

/-- A comment or a hidden newline at the start of a text, and what follows. A newline behind a
backslash starts no line. -/
def extra? : Text → Option (Text × Text)
  | '#' :: cs => some ('#' :: cs.takeWhile (· != '\n'), cs.dropWhile (· != '\n'))
  | '\\' :: '\r' :: '\n' :: cs => some (['\\', '\r', '\n'], cs)
  | '\\' :: '\n' :: cs => some (['\\', '\n'], cs)
  | _ => none

/-- The comments, hidden newlines and blanks at the start of a text: each comment or hidden newline
with the blanks before it, the blanks behind the last one, the indentation, and what follows. -/
def margins : (fuel : Nat) → Option Nat → Text → List (Text × Text) × Text × Option Nat × Text
  | 0, line, t => ([], [], line, t)
  | fuel + 1, line, t =>
    match blanks line t with
    | (gap, line, rest) =>
      match extra? rest with
      | some (extra, rest) =>
        let (more, last, line, rest) := margins fuel line rest
        ((gap, extra) :: more, last, line, rest)
      | none => ([], gap, line, rest)

/-- Whether the text of an extra is that of a comment. -/
def isCommentText (t : Text) : Bool := t.head? = some '#'

/-- What stands before a string, with the blanks behind it: hidden newlines directly before the
string are blanks, too. -/
def extrasBeforeString (extras : List (Text × Text)) (gap : Text) : List (Text × Text) × Text :=
  let (hidden, others) := extras.reverse.span fun e => !isCommentText e.2
  (others.reverse, hidden.reverse.flatMap (fun e => e.1 ++ e.2) ++ gap)

/-! ## Numbers -/

/-- The longest run of digits at the start of a text, in groups with one underscore between or
behind them; `afterDigit` says that an underscore may come first. -/
def digitsFrom (isDigit : Char → Bool) (afterDigit : Bool) : Text → Text × Text
  | [] => ([], [])
  | c :: cs =>
    if isDigit c || (afterDigit && c == '_') then
      let (more, rest) := digitsFrom isDigit (isDigit c) cs
      (c :: more, rest)
    else ([], c :: cs)

/-- The longest run of digits at the start of a text. -/
def digits (isDigit : Char → Bool) (t : Text) : Text × Text := digitsFrom isDigit false t

/-- Whether a character is a decimal digit. -/
def isDecimal (c : Char) : Bool := '0' ≤ c && c ≤ '9'

/-- Whether a character is a hexadecimal digit. -/
def isHex (c : Char) : Bool := isDecimal c || ('a' ≤ c && c ≤ 'f') || ('A' ≤ c && c ≤ 'F')

/-- The digits that a base letter behind a zero admits. -/
def baseDigits? (c : Char) : Option (Char → Bool) :=
  if c = 'x' || c = 'X' then some isHex
  else if c = 'o' || c = 'O' then some fun d => '0' ≤ d && d ≤ '7'
  else if c = 'b' || c = 'B' then some fun d => d == '0' || d == '1'
  else none

/-- A letter that may end a number. -/
def suffixLetter (isLetter : Char → Bool) : Text → Text × Text
  | [] => ([], [])
  | c :: cs => if isLetter c then ([c], cs) else ([], c :: cs)

/-- Whether a letter marks an imaginary number. -/
def isImaginary (c : Char) : Bool := c == 'j' || c == 'J'

/-- Whether a letter may end an integer. -/
def isIntegerEnd (c : Char) : Bool := isImaginary c || c == 'l' || c == 'L'

/-- An exponent at the start of a text. -/
def exponent? : Text → Option (Text × Text)
  | e :: cs =>
    if e = 'e' || e = 'E' then
      let (sign, cs) :=
        match cs with
        | s :: rest => if s = '+' || s = '-' then ([s], rest) else ([], s :: rest)
        | [] => ([], [])
      match digits isDecimal cs with
      | ([], _) => none
      | (ds, rest) => some (e :: sign ++ ds, rest)
    else none
  | [] => none

/-- What may follow the digits of a floating-point number: an exponent and a letter. -/
def floatEnd (t : Text) : Text × Text :=
  let (exp, rest) := (exponent? t).getD ([], t)
  let (letter, rest) := suffixLetter isImaginary rest
  (exp ++ letter, rest)

/-- An integer with a base letter. -/
def baseInteger? : Text → Option (Text × Text)
  | '0' :: b :: cs =>
    match baseDigits? b with
    | none => none
    | some isDigit =>
      let (under, cs) :=
        match cs with
        | '_' :: rest => (['_'], rest)
        | _ => ([], cs)
      match digits isDigit cs with
      | ([], _) => none
      | (ds, rest) =>
        let (letter, rest) := suffixLetter isIntegerEnd rest
        some ('0' :: b :: under ++ ds ++ letter, rest)
  | _ => none

/-- A number at the start of a text: its class, its text and what follows. -/
def number? (t : Text) : Option (Lexeme × Text × Text) :=
  match baseInteger? t with
  | some (n, rest) => some (.integer, n, rest)
  | none =>
    match digits isDecimal t with
    | ([], '.' :: rest) =>
      match digits isDecimal rest with
      | ([], _) => none
      | (fraction, rest) =>
        let (tail, rest) := floatEnd rest
        some (.float, '.' :: fraction ++ tail, rest)
    | ([], _) => none
    | (whole, '.' :: rest) =>
      let (fraction, rest) := digits isDecimal rest
      let (tail, rest) := floatEnd rest
      some (.float, whole ++ '.' :: fraction ++ tail, rest)
    | (whole, rest) =>
      match exponent? rest with
      | some _ =>
        let (tail, rest) := floatEnd rest
        some (.float, whole ++ tail, rest)
      | none =>
        let (letter, rest) := suffixLetter isIntegerEnd rest
        some (.integer, whole ++ letter, rest)

/-! ## Strings -/

/-- A construct that is open while a string is read. -/
inductive Frame where
  /-- A string up to its closing quotes. -/
  | quoted (quote : Char) (triple raw formatted : Bool)
  /-- A replacement field. -/
  | field
  /-- A bracket inside a replacement field. -/
  | bracket
  /-- The format of a replacement field. -/
  | format
  deriving DecidableEq, Repr

/-- Whether a letter may stand before the quotes of a string. -/
def isStringLetter (c : Char) : Bool := ("fFrRbBuU" : Text).contains c

/-- Whether a character is a quote. -/
def isQuoteMark (c : Char) : Bool := c == '\'' || c == '"' || c == '\x60'

/-- The string that `letters` and `quote` open; `rest` follows the quote. -/
def Frame.opened (letters : Text) (quote : Char) (rest : Text) : Frame :=
  let triple := quote != '\x60' && [quote, quote].isPrefixOf rest
  let has (c d : Char) := letters.contains c || letters.contains d
  .quoted quote triple (has 'r' 'R') (has 'f' 'F')

/-- The quotes that follow the first one of an opening or closing row. -/
def Frame.moreQuotes : Frame → Nat
  | .quoted _ true _ _ => 2
  | _ => 0

/-- What one character does to the open constructs while a string is read: the constructs that
stay open and the number of further characters that belong to the same step, or nothing if the
string cannot go on. `word` is the word that ends before the character, from its end. -/
def Frame.step (word : Text) (c : Char) (rest : Text) : List Frame → Option (List Frame × Nat)
  | [] => none
  | frame :: outer =>
    let opens := if isQuoteMark c then
        let inner := Frame.opened (if word.all isStringLetter then word else []) c rest
        some (inner :: frame :: outer, inner.moreQuotes)
      else none
    match frame with
    | .quoted quote triple raw formatted =>
      if c = '\\' then
        match rest with
        | '{' :: _ => some (frame :: outer, if formatted then 0 else 1)
        | 'N' :: '{' :: name =>
          if formatted && !raw then some (frame :: outer, (name.takeWhile (· != '}')).length + 3)
          else some (frame :: outer, 1)
        | _ => some (frame :: outer, 1)
      else if c = quote then
        if !triple then some (outer, 0)
        else if [quote, quote].isPrefixOf rest then some (outer, 2)
        else some (frame :: outer, 0)
      else if c = '\n' && !triple then none
      else if formatted && c = '{' then
        if rest.head? = some '{' then some (frame :: outer, 1)
        else some (.field :: frame :: outer, 0)
      else some (frame :: outer, 0)
    | .field =>
      if c = '}' then some (outer, 0)
      else if c = ':' then some (.format :: outer, 0)
      else if c = '(' || c = '[' || c = '{' then some (.bracket :: frame :: outer, 0)
      else opens.orElse fun _ => some (frame :: outer, 0)
    | .bracket =>
      if c = ')' || c = ']' || c = '}' then some (outer, 0)
      else if c = '(' || c = '[' || c = '{' then some (.bracket :: frame :: outer, 0)
      else opens.orElse fun _ => some (frame :: outer, 0)
    | .format =>
      if c = '}' then some (outer, 0)
      else if c = '{' then some (.field :: frame :: outer, 0)
      else some (frame :: outer, 0)

/-- Reads up to the end of the outermost construct. The first `skip` characters belong to a step
that is already done, and `word` is the word that ends here, from its end. -/
def closeFrames (frames : List Frame) (skip : Nat) (word : Text) : Text → Option (Text × Text)
  | [] => if frames.isEmpty && skip = 0 then some ([], []) else none
  | c :: cs =>
    match skip with
    | n + 1 => (closeFrames frames n [] cs).map fun (t, rest) => (c :: t, rest)
    | 0 =>
      if frames.isEmpty then some ([], c :: cs)
      else
        match Frame.step word c cs frames with
        | none => none
        | some (frames, used) =>
          let word := if isIdentifierPart c then c :: word else []
          (closeFrames frames used word cs).map fun (t, rest) => (c :: t, rest)

/-- A string at the start of a text, with the letters before its quotes. -/
def string? (t : Text) : Option (Text × Text) :=
  let letters := t.takeWhile isStringLetter
  match t.dropWhile isStringLetter with
  | q :: rest =>
    if isQuoteMark q then
      let frame := Frame.opened letters q rest
      (closeFrames [frame] frame.moreQuotes [] rest).map fun (body, rest) =>
        (letters ++ q :: body, rest)
    else none
  | [] => none

/-! ## Symbols -/

/-- The operators and brackets, longer ones before their beginnings. -/
def symbols : List Text :=
  (["**=", "//=", ">>=", "<<=", "...", "->", ":=", "+=", "-=", "*=", "/=", "@=", "%=", "&=", "|=",
    "^=", "==", "!=", "<=", ">=", "<>", "<<", ">>", "**", "//", "(", ")", "[", "]", "\x7b", "\x7d",
    ",", ":", ".", ";", "@", "=", "+", "-", "*", "/", "%", "&", "|", "^", "~", "<",
    ">"] : List String).map String.toList

/-- The longest symbol at the start of a text. -/
def symbol? (t : Text) : Option (Text × Text) :=
  symbols.findSome? fun s => (Text.after? s t).map (s, ·)

/-! ## The tokens of a source -/

/-- The token at the start of a text that starts with no blank: its class, its text and what
follows. -/
def next : Text → Lexeme × Text × Text
  | [] => (.finish, [], [])
  | c :: cs =>
    match string? (c :: cs) with
    | some (s, rest) => (.string, s, rest)
    | none =>
      if isIdentifierStart c then
        (.name, c :: cs.takeWhile isIdentifierPart, cs.dropWhile isIdentifierPart)
      else
        match number? (c :: cs) with
        | some token => token
        | none =>
          match symbol? (c :: cs) with
          | some (s, rest) => (.symbol, s, rest)
          | none => (.stray, [c], cs)

/-- The tokens of a text, at most `fuel` of them. -/
def scanFrom : (fuel : Nat) → Option Nat → Text → List Token
  | 0, _, _ => []
  | fuel + 1, line, t =>
    let (extras, gap, line, rest) := margins (fuel + 1) line t
    match next rest with
    | (.finish, _, _) => [⟨.finish, [], extras, gap, some 0⟩]
    | (.string, text, rest) =>
      let (extras, gap) := extrasBeforeString extras gap
      ⟨.string, text, extras, gap, line⟩ :: scanFrom fuel none rest
    | (kind, text, rest) => ⟨kind, text, extras, gap, line⟩ :: scanFrom fuel none rest

/-- The tokens of a source, with the end of the source as the last one. -/
def scan (source : Text) : List Token := scanFrom (source.length + 1) (some 0) source

end Token

end DocOutline.Syntax
