import DocOutline.Error

/-!
# Finding modules and packages

A target names a source file, a directory, or a module by its dotted name. It is looked for in the
current directory first and then in further ones. A package is a directory with its source files:
the main file first, then the other modules by name, then the packages inside it by name, each in
the same order.
-/

namespace DocOutline

/-- A package: its directory, its main file if it has one, and all its source files in order. -/
structure Package where
  root : Path
  main : Option Path
  files : List Path
  deriving DecidableEq, Repr, Inhabited

/-- What a target stands for. -/
inductive Target where
  | sourceFile (p : Path)
  | package (p : Package)
  deriving DecidableEq, Repr, Inhabited

/-- Where to look for targets, and which files of a package to leave out. -/
structure Finder where
  /-- The directories to look in, in order. -/
  roots : List Path
  /-- Patterns for paths relative to the directory of the package. -/
  exclude : List Glob
  deriving DecidableEq, Repr, Inhabited

namespace Finder

/-- Reads patterns, up to the first that is none. -/
def parsePatterns : List Text → Except GlobError (List Glob)
  | [] => .ok []
  | t :: ts =>
    match Glob.parse t with
    | .error e => .error e
    | .ok g =>
      match parsePatterns ts with
      | .error e => .error e
      | .ok gs => .ok (g :: gs)

/-- A finder for the current directory and then `paths`. -/
def make (paths : List Path) (patterns : List Text) : Except Error Finder :=
  match parsePatterns patterns with
  | .error e => .error (.badPattern e)
  | .ok exclude => .ok ⟨⟨"."⟩ :: paths, exclude⟩

/-! ## The files of a package -/

/-- The name of the main file of a package. -/
def mainName : Text := "__init__.py"

/-- Whether the names on the way from the package to a file match a pattern to leave out. -/
def isExcluded (f : Finder) (names : List Text) : Bool :=
  f.exclude.any (·.accepts (Text.join [Path.slash] names))

/-- Whether a member of a package's directory is a source file. -/
def isSource (m : Member) : Bool :=
  !m.isDirectory && m.path.extension? = some "py" &&
    (m.name = mainName || !("__" : Text).isPrefixOf m.name)

/-- Whether a member of a package's directory is a package itself. -/
def isPackage (fs : FileSystem) (m : Member) : Bool :=
  m.isDirectory && !(".": Text).isPrefixOf m.name && m.name ≠ "__pycache__" &&
    fs.isFile (m.path.child mainName)

/-- The source files of a directory, the main file first. -/
def sources (members : List Member) : List Path :=
  let files := members.filter isSource
  (files.filter (·.name = mainName) ++ files.filter (·.name ≠ mainName)).map (·.path)

/-- The source files below a directory that lies `below` the package, with at most `fuel` packages
inside each other. -/
def filesBelow (f : Finder) (fs : FileSystem) :
    (fuel : Nat) → Path → (below : List Text) → Except ListingError (List Path)
  | 0, dir, _ => .error (.unusable dir .tooManyLinks)
  | fuel + 1, dir, below => do
    let members ← fs.members dir
    let kept := members.filter fun m => !f.isExcluded (below ++ [m.name])
    let inner ← (kept.filter (isPackage fs)).mapM fun m =>
      filesBelow f fs fuel m.path (below ++ [m.name])
    return sources kept ++ inner.flatten

/-- How many packages can lie inside each other: no more than there are entries, unless links lead
back, and those can be followed only so often. -/
def depthBound (fs : FileSystem) : Nat := (fs.entries.length + 1) * (FileSystem.maxLinks + 2)

/-- The source files of the package in a directory. -/
def packageFiles (f : Finder) (fs : FileSystem) (root : Path) : Except Error (List Path) :=
  match f.filesBelow fs (depthBound fs) root [] with
  | .error e => .error (.unlistable e)
  | .ok files => .ok files

/-! ## Targets -/

/-- The first place where a path leads to what is looked for. -/
def locate? (f : Finder) (p : Path) (test : Path → Bool) : Option Path :=
  if p.isAbsolute then if test p then some p else none
  else (f.roots.map (·.join p)).find? test

/-- The package in a directory. -/
def package (f : Finder) (fs : FileSystem) (root : Path) : Except Error Target :=
  let main := root.child mainName
  match f.packageFiles fs root with
  | .error e => .error e
  | .ok files => .ok (.package ⟨root, if fs.isFile main then some main else none, files⟩)

/-- What a target stands for: a source file if it ends like one, and else a directory, the directory
of a dotted name, or the source file of a dotted name. -/
def resolve (f : Finder) (fs : FileSystem) (target : Text) : Except Error Target :=
  if (".py" : Text).isSuffixOf target then
    match f.locate? ⟨target⟩ fs.isFile with
    | some p => .ok (.sourceFile p)
    | none => .error (.moduleNotFound target)
  else
    match f.locate? ⟨target⟩ fs.isDirectory with
    | some dir => f.package fs dir
    | none =>
      let dotted := Path.ofDotted target
      match f.locate? dotted fs.isDirectory with
      | some dir => f.package fs dir
      | none =>
        match f.locate? (dotted.withExtension "py") fs.isFile with
        | some p => .ok (.sourceFile p)
        | none => .error (.moduleNotFound target)

end Finder

end DocOutline
