import DocOutline.Error
import DocOutline.FileSystem.Access
import DocOutline.Note

/-!
# File references

A file that a run may read or write. Whether it is there is looked up once, when the reference is
made.
-/

namespace DocOutline

/-- A reference to a file, or to none. -/
structure FileRef where
  path? : Option Path
  /-- The file was there when the reference was made. -/
  existed : Bool
  deriving DecidableEq, Repr, Inhabited

namespace FileRef

/-- A reference to what a path leads to. -/
def make (fs : FileSystem) (path? : Option Path) : FileRef :=
  ⟨path?, (path?.map fs.exists?).getD false⟩

/-- The status of a reference: there is no path, no file, or nothing wrong. -/
def status (r : FileRef) : ExitStatus :=
  if r.path?.isNone then .cannotCreate else if r.existed then .success else .notFound

/-- What is read from a path, with the path in the error. -/
def contents (p : Path) : Except FileError Text → Except Error Text
  | .ok t => .ok t
  | .error e => .error (.unreadable (p.text ++ ": " ++ e.message))

/-- The text of the file, empty without a path. -/
def read (fs : FileSystem) (r : FileRef) : Except Error Text :=
  match r.path? with
  | none => .ok []
  | some p => contents p (fs.read p)

/-- Creates or empties the file and writes a text to it. What was done before a failure stays. -/
def write (fs : FileSystem) (r : FileRef) (t : Text) : FileSystem × Except Error Unit :=
  match r.path? with
  | none => (fs, .error (.cannotCreate ⟨[]⟩ "no output path"))
  | some p =>
    match fs.create p with
    | .error e => (fs, .error (.cannotCreate p e.message))
    | .ok (created, loc) =>
      match created.append loc t with
      | .error e => (created, .error (.cannotWrite p e.message))
      | .ok written => (written, .ok ())

/-- Writes a text to the file and tells the outcome as a status, with a note of a failure. -/
def deliver (fs : FileSystem) (r : FileRef) (t : Text) : FileSystem × Noted ExitStatus :=
  match r.write fs t with
  | (fs, .ok ()) => (fs, ⟨.success, []⟩)
  | (fs, .error e) => (fs, ⟨e.status, [.failed e.message]⟩)

/-- The absolute form of the path, empty without one. -/
def absolute (fs : FileSystem) (r : FileRef) : Text :=
  match r.path? with
  | none => []
  | some p => (p.absolute fs.here).text

end FileRef

end DocOutline
