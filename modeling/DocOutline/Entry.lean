import DocOutline.Text.LowerCase

/-!
# Entries

An entry documents one object of a source: its heading, its definition and its docstring.
-/

namespace DocOutline

/-- How the docstring of a function is laid out. -/
inductive DocStyle where
  /-- A preformatted block with sample code. -/
  | pre
  /-- A quotation, line by line. -/
  | quote
  deriving DecidableEq, Repr, Inhabited

namespace DocStyle

/-- The name of a style. -/
def name : DocStyle → Text
  | .pre => "pre"
  | .quote => "quote"

/-- The style with exactly this name. -/
def ofName? (t : Text) : Option DocStyle :=
  if t = name .pre then some .pre else if t = name .quote then some .quote else none

/-- The style with this name, in any case, or the reason why there is none. -/
def parse (t : Text) : Except Text DocStyle :=
  match ofName? t.lower with
  | some style => .ok style
  | none => .error ("unknown docstring style: " ++ t.lower)

end DocStyle

/-- What an entry documents. -/
inductive Subject where
  | moduleDoc
  | classDef
  | functionDef (style : DocStyle)
  deriving DecidableEq, Repr, Inhabited

/-- What stands in place of a missing docstring. -/
def missingDocstring : Text := "Docstring empty"

/-- The documentation of one object. -/
structure Entry where
  subject : Subject
  title : Text
  definition : Text
  docstring : Text
  /-- How many definitions enclose the object, itself included; zero for a module. -/
  level : Nat
  deriving DecidableEq, Repr, Inhabited

namespace Entry

/-- An entry whose docstring may be missing. -/
def make (subject : Subject) (title definition : Text) (docstring : Option Text) (level : Nat) :
    Entry :=
  ⟨subject, title, definition, docstring.getD missingDocstring, level⟩

/-- The entry of a module, which has only a docstring. -/
def ofModule (docstring : Option Text) : Entry := make .moduleDoc [] [] docstring 0

/-- Whether an entry documents a module. -/
def isModule (e : Entry) : Bool := e.subject = .moduleDoc

end Entry

end DocOutline
