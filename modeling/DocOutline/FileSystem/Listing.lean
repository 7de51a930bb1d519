import DocOutline.FileSystem.Basic
import DocOutline.Text.Order

/-!
# Listing a directory

The members of a directory, in the order of their names. Symbolic links are followed, so a link
that leads nowhere and a link back to the directory itself are errors.
-/

namespace DocOutline

/-- Why a directory cannot be listed. -/
inductive ListingError where
  /-- A path cannot be used. -/
  | unusable (p : Path) (cause : FileError)
  /-- A link leads back to the directory that it stands in. -/
  | loop (link dir : Path)
  deriving DecidableEq, Repr, Inhabited

/-- The text of a listing error. -/
def ListingError.message : ListingError → Text
  | .unusable p cause => "IO error for operation on " ++ p.text ++ ": " ++ cause.message
  | .loop link dir =>
    "File system loop found: " ++ link.text ++ " points to an ancestor " ++ dir.text

/-- A member of a directory. -/
structure Member where
  name : Text
  path : Path
  isDirectory : Bool
  deriving DecidableEq, Repr

namespace FileSystem

/-- The names in a directory, in order. -/
def names (fs : FileSystem) (dir : Location) : List Text :=
  Text.sort (fs.entries.filterMap fun (loc, _) =>
    match loc.getLast? with
    | some n => if loc = dir ++ [n] then some n else none
    | none => none)

/-- What a path leads to, or the error for listing. -/
def listedStatus (fs : FileSystem) (purpose : Purpose) (p : Path) :
    Except ListingError (Location × FileEntry) :=
  match fs.status purpose p with
  | .error e => .error (.unusable p e)
  | .ok found => .ok found

/-- One member of the directory at a location that was reached by a path. -/
def member (fs : FileSystem) (dir : Path) (loc : Location) (n : Text) :
    Except ListingError Member := do
  let p := dir.child n
  match fs.entry? (loc ++ [n]) with
  | some (.link _) =>
    let (target, entry) ← fs.listedStatus .target p
    if entry = .directory && target = loc then throw (.loop p dir)
    return ⟨n, p, entry = .directory⟩
  | some .directory =>
    let _ ← fs.listedStatus .target p
    return ⟨n, p, true⟩
  | _ => return ⟨n, p, false⟩

/-- The members of a directory. What is no directory has none. -/
def members (fs : FileSystem) (dir : Path) : Except ListingError (List Member) := do
  let _ ← fs.listedStatus .entry dir
  match ← fs.listedStatus .target dir with
  | (loc, .directory) => (fs.names loc).mapM (fs.member dir loc)
  | _ => return []

end FileSystem

end DocOutline
