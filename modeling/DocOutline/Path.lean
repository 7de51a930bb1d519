import DocOutline.Text.Basic

/-!
# Paths

A path is a text in which slashes separate the parts. Two paths may differ as texts and have the
same parts: doubled slashes, a slash at the end, and dots other than the first part do not count.
-/

namespace DocOutline

/-- The path of a file or directory. -/
structure Path where
  text : Text
  deriving DecidableEq, Repr, Inhabited

namespace Path

/-- The mark between the parts of a path. -/
def slash : Char := '/'

/-- A part of a path. -/
inductive Part where
  /-- The root directory. -/
  | root
  /-- The current directory, as the first part. -/
  | here
  /-- The parent directory. -/
  | up
  /-- A file or directory. -/
  | name (text : Text)
  deriving DecidableEq, Repr, Inhabited

/-- Whether a path starts at the root directory. -/
def isAbsolute (p : Path) : Bool := p.text.head? = some slash

/-- The texts between the slashes of a path. -/
def pieces (p : Path) : List Text := p.text.pieces slash

/-- The part that a piece behind the first one stands for. -/
def laterPart? (piece : Text) : Option Part :=
  if piece = [] || piece = "." then none
  else if piece = ".." then some .up
  else some (.name piece)

/-- The parts of a path. -/
def parts (p : Path) : List Part :=
  match p.pieces with
  | [] => []
  | first :: rest =>
    let start :=
      if p.isAbsolute then [Part.root]
      else if first = "." then [.here]
      else (laterPart? first).toList
    start ++ rest.filterMap laterPart?

/-- The name that a path ends with. -/
def name? (p : Path) : Option Text :=
  match p.parts.getLast? with
  | some (.name n) => some n
  | _ => none

/-- The parts of a name before and behind its last dot. A dot at the start does not count. -/
def splitName (n : Text) : Text × Option Text :=
  let behind := (n.reverse.takeWhile (· != '.')).reverse
  match n.reverse.dropWhile (· != '.') with
  | [] => (n, none)
  | [_] => (n, none)
  | _ :: before => (before.reverse, some behind)

/-- The name that a path ends with, without its extension. -/
def stem? (p : Path) : Option Text := p.name?.map fun n => (splitName n).1

/-- The extension of the name that a path ends with. -/
def extension? (p : Path) : Option Text := p.name?.bind fun n => (splitName n).2

/-- The name of the directory that holds what a path leads to. -/
def parentName? (p : Path) : Option Text :=
  match p.parts.reverse with
  | _ :: .name n :: _ => some n
  | _ => none

/-- A path behind another one. An absolute path stands for itself. -/
def join (base p : Path) : Path :=
  if p.isAbsolute then p
  else if base.text = [] || base.text.getLast? = some slash then ⟨base.text ++ p.text⟩
  else ⟨base.text ++ slash :: p.text⟩

/-- A name behind a path. -/
def child (base : Path) (n : Text) : Path := base.join ⟨n⟩

/-- The path of the parts of a dotted name. -/
def ofDotted (t : Text) : Path := (t.pieces '.').foldl (fun p n => p.child n) ⟨[]⟩

/-- The path with another extension. A path that ends with no name stays as it is. -/
def withExtension (p : Path) (ext : Text) : Path :=
  match p.name? with
  | none => p
  | some n =>
    let before := p.pieces.reverse.dropWhile (fun piece => piece = [] || piece = ".")
    let last := (splitName n).1 ++ "." ++ ext
    ⟨Text.join [slash] ((last :: before.drop 1).reverse)⟩

/-- Whether two paths have the same parts. -/
def same (p q : Path) : Bool := p.parts = q.parts

/-- The absolute form of a path, seen from a directory given by its names. Parent directories and a
slash at the end stay; nothing is looked up. -/
def absolute (p : Path) (here : List Text) : Path :=
  if p.text = [] then p
  else
    let names := p.pieces.filter fun piece => piece ≠ [] ∧ piece ≠ "."
    let start : Text :=
      if ("//" : Text).isPrefixOf p.text && !("///" : Text).isPrefixOf p.text then "//" else "/"
    let full := start ++ Text.join [slash] (if p.isAbsolute then names else here ++ names)
    if p.text.getLast? = some slash && full.getLast? ≠ some slash then ⟨full ++ [slash]⟩ else ⟨full⟩

/-- The name of the module in a file. The main file of a package has the name of its directory. -/
def moduleName (p : Path) : Text :=
  let stem := p.stem?.getD []
  if stem = "__init__" then p.parentName?.getD stem else stem

end Path

end DocOutline
