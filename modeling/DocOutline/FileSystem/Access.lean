import DocOutline.FileSystem.Basic

/-!
# Reading and writing files

A file is opened for writing first, which creates it if need be and may empty it; then texts are
added at its end.
-/

namespace DocOutline.FileSystem

/-- The text that a path leads to. -/
def read (fs : FileSystem) (p : Path) : Except FileError Text :=
  match fs.status .target p with
  | .error e => .error e
  | .ok (_, .file (.text t)) => .ok t
  | .ok (_, .file (.bytes _)) => .error .invalidText
  | .ok (_, .nullDevice) | .ok (_, .fullDevice) => .ok []
  | .ok (_, .directory) => .error .isDirectory
  | .ok (_, .link _) => .error .tooManyLinks

/-- Opens a file for writing: the file system with the file in it, and its location. A file that is
there is emptied if `truncate` says so. -/
def openForWriting (fs : FileSystem) (truncate : Bool) (p : Path) :
    Except FileError (FileSystem × Location) :=
  match fs.find .writing p with
  | .error e => .error e
  | .ok ⟨loc, none⟩ => .ok (fs.set loc (.file (.text [])), loc)
  | .ok ⟨_, some .directory⟩ => .error .isDirectory
  | .ok ⟨_, some (.link _)⟩ => .error .tooManyLinks
  | .ok ⟨loc, some (.file _)⟩ =>
    .ok (if truncate then fs.set loc (.file (.text [])) else fs, loc)
  | .ok ⟨loc, some _⟩ => .ok (fs, loc)

/-- Creates a file, or empties the one that is there. -/
def create (fs : FileSystem) (p : Path) : Except FileError (FileSystem × Location) :=
  fs.openForWriting true p

/-- Adds a text at the end of an open file. -/
def append (fs : FileSystem) (loc : Location) (t : Text) : Except FileError FileSystem :=
  match fs.entry? loc with
  | some (.file content) => .ok (fs.set loc (.file (content.append t)))
  | some .fullDevice => if t.isEmpty then .ok fs else .error .noSpace
  | _ => .ok fs

/-- The file system with the directories on the way to a path, and the path itself as one. -/
def makeDirectories (fs : FileSystem) (p : Path) : FileSystem :=
  (List.range p.pieces.length).foldl (fun fs n =>
    match fs.find .target ⟨Text.join [Path.slash] (p.pieces.take (n + 1))⟩ with
    | .ok ⟨loc, none⟩ => fs.set loc .directory
    | _ => fs) fs

/-- The file system with an entry at a path, and the directories on the way to it. -/
def place (fs : FileSystem) (p : Path) (entry : FileEntry) : FileSystem :=
  let fs := fs.makeDirectories ⟨Text.join [Path.slash] p.pieces.dropLast⟩
  match fs.find (match entry with | .file _ => .target | _ => .entry) p with
  | .ok ⟨loc, _⟩ => fs.set loc entry
  | .error _ => fs

/-- The file system without what a path leads to. A symbolic link is removed itself. -/
def remove (fs : FileSystem) (p : Path) : FileSystem :=
  match fs.find .entry p with
  | .ok ⟨loc, _⟩ => fs.erase loc
  | .error _ => fs

end DocOutline.FileSystem
