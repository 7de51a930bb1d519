import DocOutline.Outline
import DocOutline.Package.Finder
import DocOutline.Reading

/-!
# Reading modules and packages

A reader is a target with the options for its outline. What a package consists of is settled when
the reader is made; the files are read later.
-/

namespace DocOutline

/-- A target that can be read. -/
structure Reader where
  name : Text
  target : Target
  options : OutlineOptions
  deriving DecidableEq, Repr, Inhabited

namespace Reader

/-- A reader for what a name stands for. -/
def make (fs : FileSystem) (finder : Finder) (name : Text) (options : OutlineOptions) :
    Except Error Reader :=
  match finder.resolve fs name with
  | .error e => .error e
  | .ok target => .ok ⟨name, target, options⟩

/-- Whether the target is a single source file. -/
def isModule (r : Reader) : Bool :=
  match r.target with
  | .sourceFile _ => true
  | .package _ => false

/-- Reads the entries of a source file, with or without that of its module. -/
def ofFile (r : Reader) (moduleDocstring : Bool) (p : Path) : Reading (List Entry) := do
  let source ← Reading.file p
  Reading.ofNoted (outline { r.options with moduleDocstring } source)

/-- Reads the entries of the target in document order. A single source file starts with the entry of
its module; the files of a package have none. -/
def entries (r : Reader) : Reading (List Entry) :=
  match r.target with
  | .sourceFile p => r.ofFile true p
  | .package p => do
    let perFile ← Reading.collect (r.ofFile false) p.files
    return perFile.flatten

/-- Reads the entry of a package's main file. A single source file has none of its own. -/
def summary (r : Reader) : Reading (Option Entry) :=
  match r.target with
  | .sourceFile _ => return none
  | .package p =>
    match p.main with
    | none => return none
    | some main => do
      let entries ← r.ofFile true main
      return entries.head?.filter Entry.isModule

/-- The entries of a source file. -/
def readFile (r : Reader) (fs : FileSystem) (moduleDocstring : Bool) (p : Path) :
    Outcome (List Entry) := (r.ofFile moduleDocstring p).outcome fs

/-- The entries of the target. -/
def read (r : Reader) (fs : FileSystem) : Outcome (List Entry) := r.entries.outcome fs

/-- The entry of a package's main file. -/
def mainEntry (r : Reader) (fs : FileSystem) : Outcome (Option Entry) := r.summary.outcome fs

end Reader

end DocOutline
