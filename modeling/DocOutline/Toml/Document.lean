import DocOutline.Toml.Quoted
import DocOutline.Toml.Scalar

/-!
# TOML documents

Lines of three kinds: a key with its value, the header of a table, and the header of an element of
an array of tables.
-/

namespace DocOutline.Toml

/-- A reader of text. -/
abbrev Scan := StateT Text Option

namespace Scan

/-- The next character. -/
def peek? : Scan (Option Char) := return (← get).head?

/-- Reads this text. -/
def literal (t : Text) : Scan Unit := do
  match Text.after? t (← get) with
  | some rest => set rest
  | none => failure

/-- Reads with a function on texts. -/
def lift {α : Type} (f : Text → Option (α × Text)) : Scan α := do
  match f (← get) with
  | some (a, rest) => set rest; return a
  | none => failure

/-- Skips blanks. -/
def blanks : Scan Unit := modify (·.dropWhile isBlank)

/-- Skips a comment, if one is there. -/
def comment : Scan Unit := do
  if (← peek?) = some '#' then
    let isInside (c : Char) := c != '\n' && c != '\r'
    let body := (← get).takeWhile isInside
    if body.any isControl then failure
    modify (·.dropWhile isInside)

/-- Reads the end of a line, or that of the document. -/
def lineEnd : Scan Unit := do
  blanks
  comment
  let t ← get
  if t.isEmpty then return
  if lineEndLength t = 0 then failure
  set (t.drop (lineEndLength t))

/-- Skips blanks, comments and the ends of lines, at most `fuel` of them. -/
def gapsUpTo : (fuel : Nat) → Scan Unit
  | 0 => return
  | fuel + 1 => do
    blanks
    comment
    let t ← get
    if lineEndLength t ≠ 0 then
      set (t.drop (lineEndLength t))
      gapsUpTo fuel

/-- Skips blanks, comments and the ends of lines. -/
def gaps : Scan Unit := do gapsUpTo ((← get).length + 1)

/-! ## Keys -/

/-- Whether a character can stand in a key without quotes. -/
def isKeyChar (c : Char) : Bool :=
  isDigit c || ('a' ≤ c && c ≤ 'z') || ('A' ≤ c && c ≤ 'Z') || c == '_' || c == '-'

/-- A key without dots. -/
def simpleKey : Scan Text := do
  let t ← get
  match t.head? with
  | some '"' | some '\'' => lift lineString?
  | _ =>
    let key := t.takeWhile isKeyChar
    if key.isEmpty then failure
    set (t.dropWhile isKeyChar)
    return key

/-- Further parts of a key, each behind a dot. -/
def moreKeys : (fuel : Nat) → Scan (List Text)
  | 0 => return []
  | fuel + 1 => do
    blanks
    if (← peek?) = some '.' then
      literal ['.']
      blanks
      let key ← simpleKey
      return key :: (← moreKeys fuel)
    else return []

/-- A key, perhaps with dots. -/
def keys : Scan (List Text) := do
  let first ← simpleKey
  return first :: (← moreKeys (← get).length)

/-! ## Values -/

/-- Elements of an array behind its opening bracket, up to the closing one. -/
def elements (value : Scan Value) : (fuel : Nat) → Scan (List Value)
  | 0 => failure
  | fuel + 1 => do
    gaps
    if (← peek?) = some ']' then
      literal [']']
      return []
    let first ← value
    gaps
    if (← peek?) = some ',' then
      literal [',']
      return first :: (← elements value fuel)
    literal [']']
    return [first]

/-- A key and its value. -/
def assignment (value : Scan Value) : Scan (List Text × Value) := do
  let path ← keys
  blanks
  literal ['=']
  blanks
  return (path, ← value)

/-- Entries of an inline table up to the closing brace. -/
def inlineEntries (value : Scan Value) (es : Entries) : (fuel : Nat) → Scan Entries
  | 0 => failure
  | fuel + 1 => do
    blanks
    let (path, v) ← assignment value
    match es.insert path v with
    | none => failure
    | some es =>
      blanks
      if (← peek?) = some ',' then
        literal [',']
        inlineEntries value es fuel
      else
        literal ['}']
        return es

/-- An inline table. -/
def inlineTable (value : Scan Value) : Scan Value := do
  literal ['{']
  blanks
  if (← peek?) = some '}' then
    literal ['}']
    return .table .inline []
  return .table .inline (← inlineEntries value [] (← get).length)

/-- A value, with at most `fuel` values inside each other. -/
def value : (fuel : Nat) → Scan Value
  | 0 => failure
  | fuel + 1 => do
    match ← peek? with
    | some '"' | some '\'' => return .string (← lift string?)
    | some '[' =>
      literal ['[']
      return .array false (← elements (value fuel) ((← get).length + 1))
    | some '{' => inlineTable (value fuel)
    | _ => lift fun t => (scalar? (scalarRun t).1).map (·, (scalarRun t).2)

/-! ## Lines -/

/-- The path in a header between its brackets. -/
def header (opening closing : Text) : Scan (List Text) := do
  literal opening
  blanks
  let path ← keys
  blanks
  literal closing
  return path

/-- The lines of a document, with the table that keys belong to. -/
def lines (here : List Text) (es : Entries) : (fuel : Nat) → Scan Entries
  | 0 => return es
  | fuel + 1 => do
    gaps
    let t ← get
    if t.isEmpty then return es
    else if ("[[" : Text).isPrefixOf t then
      let path ← header "[[" "]]"
      lineEnd
      match es.openElement path with
      | none => failure
      | some es => lines path es fuel
    else if t.head? = some '[' then
      let path ← header "[" "]"
      lineEnd
      match es.openTable path with
      | none => failure
      | some es => lines path es fuel
    else
      let (path, v) ← assignment (value (t.length + 1))
      lineEnd
      match es.atHeader (Entries.insert path v) here with
      | none => failure
      | some es => lines here es fuel

end Scan

/-- The entries of a document. A mark for the order of bytes may stand at its start. -/
def parse? (t : Text) : Option Entries :=
  let t := (Text.after? [Char.ofNat 0xFEFF] t).getD t
  match Scan.lines [] [] (t.length + 1) t with
  | some (es, _) => some es
  | none => none

end DocOutline.Toml
