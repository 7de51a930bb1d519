import DocOutline.Text.Basic

/-!
# TOML values

A TOML document is a table. A table remembers how it came about, because that decides whether it
may be extended later on: by a header, as a part of a longer header, by a dotted key, or inline.
-/

namespace DocOutline.Toml

/-- How a table came about. -/
inductive Origin where
  /-- It has a header of its own. -/
  | header
  /-- It stands on the way in a longer header. -/
  | implied
  /-- It stands on the way in a dotted key. -/
  | dotted
  /-- It is written in braces and complete. -/
  | inline
  deriving DecidableEq, Repr, Inhabited

/-- A TOML value. Numbers other than integers, and dates and times, are kept as they are
spelled. -/
inductive Value where
  | string (t : Text)
  | integer (i : Int)
  | float (spelling : Text)
  | boolean (b : Bool)
  | datetime (spelling : Text)
  /-- An array; one that is made by headers is `growing`. -/
  | array (growing : Bool) (elements : List Value)
  | table (origin : Origin) (entries : List (Text × Value))
  deriving Repr, Inhabited

/-- The entries of a table, in the order in which they came. -/
abbrev Entries := List (Text × Value)

namespace Entries

/-- The value of a key. -/
def get? (es : Entries) (key : Text) : Option Value := es.lookup key

/-- Changes or adds the value of a key. -/
def alter (key : Text) (f : Option Value → Option Value) : Entries → Option Entries
  | [] => (f none).map fun v => [(key, v)]
  | (k, v) :: es =>
    if k = key then (f (some v)).map fun w => (k, w) :: es
    else (alter key f es).map ((k, v) :: ·)

/-- Adds a key that has no value yet. -/
def add (key : Text) (v : Value) (es : Entries) : Option Entries :=
  es.alter key fun
    | none => some v
    | some _ => none

/-- Changes the last element of an array of tables. -/
def changeLast (f : Entries → Option Entries) : List Value → Option (List Value)
  | [] => none
  | [.table origin es] => (f es).map fun es => [.table origin es]
  | [_] => none
  | v :: vs => (changeLast f vs).map (v :: ·)

/-- Changes the table that a header leads to. Tables that are not there yet are implied; of an array
of tables the last one is meant. -/
def atHeader (f : Entries → Option Entries) : List Text → Entries → Option Entries
  | [], es => f es
  | k :: ks, es =>
    es.alter k fun
      | none => (atHeader f ks []).map (.table .implied)
      | some (.table .inline _) => none
      | some (.table origin inner) => (atHeader f ks inner).map (.table origin)
      | some (.array true elements) => (changeLast (atHeader f ks) elements).map (.array true)
      | some _ => none

/-- Changes the table that the first keys of a dotted key lead to. A table with a header of its own
cannot be reached like that, and the last table has to be made by dotted keys alone. -/
def atDotted (f : Entries → Option Entries) : List Text → Entries → Option Entries
  | [], es => f es
  | k :: ks, es =>
    es.alter k fun
      | none => (atDotted f ks []).map (.table .dotted)
      | some (.table .dotted inner) => (atDotted f ks inner).map (.table .dotted)
      | some (.table .implied inner) =>
        if ks.isEmpty then none else (atDotted f ks inner).map (.table .implied)
      | some (.array true elements) =>
        if ks.isEmpty then none
        else (changeLast (atDotted f ks) elements).map (.array true)
      | some _ => none

/-- Adds the value of a dotted key. -/
def insert (keys : List Text) (v : Value) (es : Entries) : Option Entries :=
  match keys.getLast? with
  | none => none
  | some last => es.atDotted (add last v) keys.dropLast

/-- Gives a table its header. -/
def openTable (path : List Text) (es : Entries) : Option Entries :=
  match path.getLast? with
  | none => none
  | some last =>
    es.atHeader (alter last fun
      | none => some (.table .header [])
      | some (.table .implied inner) => some (.table .header inner)
      | some _ => none) path.dropLast

/-- Adds a table to an array of tables. -/
def openElement (path : List Text) (es : Entries) : Option Entries :=
  match path.getLast? with
  | none => none
  | some last =>
    es.atHeader (alter last fun
      | none => some (.array true [.table .header []])
      | some (.array true elements) => some (.array true (elements ++ [.table .header []]))
      | some _ => none) path.dropLast

end Entries

end DocOutline.Toml
