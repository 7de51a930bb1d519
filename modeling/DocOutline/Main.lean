import DocOutline.Run

/-!
# The command line program

Takes a picture of the files that a run can need, carries the run out on it, and does to the real
files what the run did to the picture.
-/

namespace DocOutline.Main

/-- The location with these names, as the system writes it. -/
def pathOf (loc : Location) : String := String.ofList ('/' :: Text.join [Path.slash] loc)

/-- The location that an absolute path of the system leads to. -/
def locationOf (path : String) : Location :=
  (Text.pieces Path.slash path.toList).filter (!·.isEmpty)

/-- The content of a file. -/
def contentOf (path : String) : IO Content := do
  let bytes ← IO.FS.readBinFile path
  return .ofBytes bytes.toList

/-- Whether the content of a file is needed although nothing names it. -/
def isPythonFile (name : String) : Bool := (Path.mk name.toList).extension? = some "py"

/-- The picture of a member of a directory and everything below it. -/
partial def pictureOf (loc : Location) (e : IO.FS.DirEntry) :
    IO (List (Location × FileEntry)) := do
  let loc := loc ++ [e.fileName.toList]
  match (← e.path.symlinkMetadata).type with
  | .dir =>
    let below ← (← e.path.readDir).toList.mapM (pictureOf loc)
    return (loc, .directory) :: below.flatten
  | .symlink => return [(loc, .link ⟨(← IO.FS.realPath e.path).toString.toList⟩)]
  | .file =>
    let content ← if isPythonFile e.fileName then contentOf e.path.toString else pure (.text [])
    return [(loc, .file content)]
  | .other => return [(loc, .nullDevice)]

/-- The picture with the directories on the way to a location. -/
def withWayTo (fs : FileSystem) (loc : Location) : FileSystem :=
  (List.range loc.length).foldl (fun fs n => fs.set (loc.take n) .directory) fs

/-- The picture with what a path leads to. -/
def withPath (fs : FileSystem) (p : Path) : IO FileSystem := do
  let target := (← IO.currentDir) / String.ofList p.text
  if ← target.pathExists then
    let real ← IO.FS.realPath target
    let loc := locationOf real.toString
    if ← real.isDir then
      let below ← (← real.readDir).toList.mapM (pictureOf loc)
      let fs := (withWayTo fs loc).set loc .directory
      return below.flatten.foldl (fun fs (l, e) => fs.set l e) fs
    else return (withWayTo fs loc).set loc (.file (← contentOf real.toString))
  else return fs

/-- The picture with what several paths lead to. -/
def withPaths (fs : FileSystem) (ps : List Path) : IO FileSystem := ps.foldlM withPath fs

/-- The paths that settings name. -/
def pathsOf (s : Settings) : List Path :=
  s.search.paths ++ [s.document.output, s.document.tomlFile, s.document.todoFile,
    s.document.mermaidFile, s.log.file].filterMap id

/-- The picture for a run with these arguments. -/
def pictureFor (args : CommandLine.Arguments) : IO FileSystem := do
  let here := locationOf (← IO.currentDir).toString
  let empty : FileSystem := withWayTo { entries := [], here } (here ++ [[]])
  let config := args.config.getD Run.defaultSettingsFile
  let fs ← withPaths empty [⟨"."⟩, ⟨args.package⟩, config]
  match Run.settings fs args with
  | .ok s => withPaths fs (pathsOf s)
  | .error _ => return fs

/-- Does to the real files what a run did to their picture. -/
def applyChanges (before after : FileSystem) : IO Unit := do
  for (loc, entry) in after.entries do
    if before.entry? loc ≠ some entry then
      if let .file (.text t) := entry then IO.FS.writeFile (pathOf loc) (String.ofList t)

end DocOutline.Main

open DocOutline in
/-- The program. -/
def main (args : List String) : IO UInt32 := do
  let args := args.map String.toList
  let environment := (← IO.getEnv "DOCSTRING2MD_LOG").map String.toList
  let fs ← match CommandLine.Arguments.parse args with
    | .ok parsed => Main.pictureFor parsed
    | .error _ => pure default
  let report := Run.command fs environment args
  Main.applyChanges fs report.files
  IO.print (String.ofList report.printed)
  for note in report.log do
    IO.eprint (String.ofList (Logger.lineOf note))
  if let some message := report.message then
    IO.eprintln (String.ofList message)
  return report.code.toUInt32
