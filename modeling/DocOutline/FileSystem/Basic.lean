import DocOutline.Path

/-!
# File systems

A file system is a finite list of locations with what stands there, and a current directory. A
path is looked up name by name; symbolic links on the way are followed, at most forty of them.
-/

namespace DocOutline

/-- The names on the way from the root directory to a file or directory. -/
abbrev Location := List Text

/-- What a file holds. -/
inductive Content where
  /-- A text, stored in UTF-8. -/
  | text (t : Text)
  /-- Bytes that are no text. -/
  | bytes (bs : List UInt8)
  deriving DecidableEq, Repr, Inhabited

namespace Content

/-- What a file with these bytes holds. -/
def ofBytes (bs : List UInt8) : Content :=
  match String.fromUTF8? ⟨bs.toArray⟩ with
  | some s => .text s.toList
  | none => .bytes bs

/-- The bytes of a text. -/
def encode (t : Text) : List UInt8 := (String.ofList t).toUTF8.toList

/-- The content with a text added at its end. -/
def append : Content → Text → Content
  | .text u, t => .text (u ++ t)
  | .bytes bs, t => ofBytes (bs ++ encode t)

end Content

/-- What stands at a location. -/
inductive FileEntry where
  | file (content : Content)
  | directory
  /-- A symbolic link. -/
  | link (target : Path)
  /-- A device that is always empty and takes everything. -/
  | nullDevice
  /-- A device that takes nothing. -/
  | fullDevice
  deriving DecidableEq, Repr, Inhabited

/-- Why a file cannot be used. -/
inductive FileError where
  | notFound
  | notDirectory
  | isDirectory
  | noSpace
  | nameTooLong
  | tooManyLinks
  /-- The file holds no text. -/
  | invalidText
  /-- The path holds a character that no path can hold. -/
  | invalidPath
  deriving DecidableEq, Repr, Inhabited

/-- The text of a file error. -/
def FileError.message : FileError → Text
  | .notFound => "No such file or directory (os error 2)"
  | .notDirectory => "Not a directory (os error 20)"
  | .isDirectory => "Is a directory (os error 21)"
  | .noSpace => "No space left on device (os error 28)"
  | .nameTooLong => "File name too long (os error 36)"
  | .tooManyLinks => "Too many levels of symbolic links (os error 40)"
  | .invalidText => "stream did not contain valid UTF-8"
  | .invalidPath => "file name contained an unexpected NUL byte"

/-- A file system. At most one thing stands at a location. -/
structure FileSystem where
  entries : List (Location × FileEntry)
  /-- The current directory. -/
  here : Location
  distinct : (entries.map Prod.fst).Nodup := by decide
  deriving DecidableEq, Repr

instance : Inhabited FileSystem := ⟨⟨[], [], .nil⟩⟩

/-- What a path is looked up for. -/
inductive Purpose where
  /-- What stands at the path, even if it is a symbolic link. -/
  | entry
  /-- What a symbolic link at the path leads to. -/
  | target
  /-- The same, as a file to write to: a slash behind the last name asks for a directory. -/
  | writing
  deriving DecidableEq, Repr, Inhabited

/-- Where a path leads. The last name may be free. -/
structure Found where
  location : Location
  entry : Option FileEntry
  deriving DecidableEq, Repr

namespace FileSystem

/-- What stands at a location. The root directory is always there. -/
def entry? (fs : FileSystem) (loc : Location) : Option FileEntry :=
  if loc = [] then some .directory else fs.entries.lookup loc

/-- What stands elsewhere than at a location. -/
def elsewhere (fs : FileSystem) (loc : Location) : List (Location × FileEntry) :=
  fs.entries.filter (·.1 ≠ loc)

theorem nodup_elsewhere (fs : FileSystem) (loc : Location) :
    ((fs.elsewhere loc).map Prod.fst).Nodup :=
  fs.distinct.sublist (List.filter_sublist.map Prod.fst)

theorem not_mem_elsewhere (fs : FileSystem) (loc : Location) :
    loc ∉ (fs.elsewhere loc).map Prod.fst := by
  intro hmem
  obtain ⟨e, he, rfl⟩ := List.mem_map.1 hmem
  exact absurd rfl (of_decide_eq_true (List.mem_filter.1 he).2)

/-- The file system with something else at a location. -/
def set (fs : FileSystem) (loc : Location) (entry : FileEntry) : FileSystem where
  entries := (loc, entry) :: fs.elsewhere loc
  here := fs.here
  distinct := List.nodup_cons.2 ⟨fs.not_mem_elsewhere loc, fs.nodup_elsewhere loc⟩

/-- The file system with nothing at a location. -/
def erase (fs : FileSystem) (loc : Location) : FileSystem where
  entries := fs.elsewhere loc
  here := fs.here
  distinct := fs.nodup_elsewhere loc

/-- The longest name, in bytes. -/
def maxName : Nat := 255

/-- The length that a path has to stay below, in bytes. -/
def maxPath : Nat := 4096

/-- The number of symbolic links that may be followed for one path. -/
def maxLinks : Nat := 40

/-- Looks up names from a directory on. `expand` goes on behind a symbolic link. -/
def walk (fs : FileSystem) (purpose : Purpose)
    (expand : Location → List Text → Except FileError Found) (dir : Location) :
    List Text → Except FileError Found
  | [] => .ok ⟨dir, some .directory⟩
  | n :: rest =>
    if n = [] || n = "." then walk fs purpose expand dir rest
    else if n = ".." then walk fs purpose expand dir.dropLast rest
    else if purpose = .writing && !rest.isEmpty && rest.all List.isEmpty then .error .isDirectory
    else if maxName < Text.byteSize n then .error .nameTooLong
    else
      let next := dir ++ [n]
      match fs.entry? next with
      | none => if rest.isEmpty then .ok ⟨next, none⟩ else .error .notFound
      | some .directory => walk fs purpose expand next rest
      | some (.link target) =>
        if rest.isEmpty && purpose = .entry then .ok ⟨next, some (.link target)⟩
        else expand (if target.isAbsolute then [] else dir) (target.pieces ++ rest)
      | some entry => if rest.isEmpty then .ok ⟨next, some entry⟩ else .error .notDirectory

/-- Looks up names from a directory on, with at most `links` symbolic links followed. -/
def walkLinks (fs : FileSystem) (purpose : Purpose) :
    (links : Nat) → Location → List Text → Except FileError Found
  | 0, dir, names => fs.walk purpose (fun _ _ => .error .tooManyLinks) dir names
  | links + 1, dir, names => fs.walk purpose (walkLinks fs purpose links) dir names

/-- Where a path leads. -/
def find (fs : FileSystem) (purpose : Purpose) (p : Path) : Except FileError Found :=
  if p.text.contains '\x00' then .error .invalidPath
  else if p.text.isEmpty then .error .notFound
  else if maxPath ≤ Text.byteSize p.text then .error .nameTooLong
  else fs.walkLinks purpose maxLinks (if p.isAbsolute then [] else fs.here) p.pieces

/-- What a path leads to, with its location. -/
def status (fs : FileSystem) (purpose : Purpose) (p : Path) :
    Except FileError (Location × FileEntry) :=
  match fs.find purpose p with
  | .error e => .error e
  | .ok ⟨_, none⟩ => .error .notFound
  | .ok ⟨loc, some entry⟩ => .ok (loc, entry)

/-- Whether a path leads to something. -/
def exists? (fs : FileSystem) (p : Path) : Bool := (fs.status .target p).isOk

/-- Whether a path leads to a file. -/
def isFile (fs : FileSystem) (p : Path) : Bool :=
  match fs.status .target p with
  | .ok (_, .file _) => true
  | _ => false

/-- Whether a path leads to a directory. -/
def isDirectory (fs : FileSystem) (p : Path) : Bool :=
  match fs.status .target p with
  | .ok (_, .directory) => true
  | _ => false

end FileSystem

end DocOutline
