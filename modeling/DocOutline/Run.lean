import DocOutline.CommandLine.Arguments
import DocOutline.LogFilter
import DocOutline.Settings.Load

/-!
# Runs

A run as a function of the arguments, the environment and the file system: what it prints, what it
notes, what becomes of the files, and how it ends.

Nothing is noted before the log is set up, which happens once the settings are known to be good.
Notes on the way to the document are written to the log as they come, so they show if the log file
is read after them.
-/

namespace DocOutline

/-- Where notes go. -/
structure Logger where
  level : LogLevel
  /-- The log file, if there is one. -/
  file : Option Location
  deriving DecidableEq, Repr, Inhabited

namespace Logger

/-- A note as a line of the log. -/
def lineOf (n : Note) : Text :=
  (match n.severity with
    | .warning => "WARN "
    | .error => "ERROR ") ++ n.message ++ "\n"

/-- Adds the notes that are shown to the log file. -/
def write (l : Logger) (fs : FileSystem) (notes : List Note) : FileSystem :=
  match l.file with
  | none => fs
  | some loc =>
    match fs.append loc ((l.level.filter notes).flatMap lineOf) with
    | .ok fs => fs
    | .error _ => fs

/-- Sets up the log. A log file is created if need be, and what it holds stays. -/
def start (fs : FileSystem) (environment : Option Text) (s : LogSettings) :
    Except Error (FileSystem × Logger) :=
  let level := LogFilter.build environment s.level
  match s.file with
  | none => .ok (fs, ⟨level, none⟩)
  | some p =>
    match fs.openForWriting false p with
    | .error e => .error (.cannotCreate p e.message)
    | .ok (fs, loc) => .ok (fs, ⟨level, some loc⟩)

/-- Carries out a computation that reads files. A note is written to the log before anything else is
read. -/
def carryOut {α : Type} (l : Logger) :
    Reading α → FileSystem → FileSystem × Noted (Except Error α)
  | .done r, fs => (fs, pure r)
  | .note n rest, fs =>
    let (after, x) := carryOut l rest (l.write fs [n])
    (after, ⟨x.value, n :: x.notes⟩)
  | .read p rest, fs => carryOut l (rest (fs.read p)) fs

end Logger

/-- What a run did. -/
structure Execution where
  files : FileSystem
  /-- What was printed. -/
  printed : Text
  /-- The notes that were shown. -/
  log : List Note
  /-- Set up before the run got further than its settings. -/
  logger : Option Logger
  result : Except Error ExitStatus

namespace Execution

/-- A run that ended before the log was set up. -/
def early (fs : FileSystem) (e : Error) : Execution := ⟨fs, [], [], none, .error e⟩

/-- The execution with notes added to its log. -/
def noting (x : Execution) (l : Logger) (notes : List Note) : Execution :=
  { x with files := l.write x.files notes, log := x.log ++ l.level.filter notes }

end Execution

namespace Run

/-- The settings file that is used when none is given. -/
def defaultSettingsFile : Path := ⟨"docstring2md.toml"⟩

/-- The settings of a run, with the command line's in place of the file's. -/
def settings (fs : FileSystem) (args : CommandLine.Arguments) : Except Error Settings := do
  let loaded ← match args.config with
    | some p => Settings.load fs p
    | none => Settings.loadOrDefault fs defaultSettingsFile
  let merged := loaded.override args.overrides
  merged.validate
  return merged

/-- The plan for the document of a run, and the reader for its target. -/
def prepare (fs : FileSystem) (s : Settings) (target : Text) :
    Except Error (DocumentPlan × Reader) := do
  let finder ← s.finder
  let reader ← Reader.make fs finder target s.outlineOptions
  return (s.documentPlan fs, reader)

/-- Prints the document, or writes it to the output file. -/
def deliver (x : Execution) (l : Logger) (plan : DocumentPlan) (text : Text) : Execution :=
  match plan.output.path? with
  | none => { x with printed := x.printed ++ text ++ "\n", result := .ok .success }
  | some _ =>
    let (fs, status) := plan.output.deliver x.files text
    { x with files := fs, result := .ok status.value }.noting l status.notes

/-- Reads, assembles and delivers the document, with the log set up. -/
def withLogger (fs : FileSystem) (l : Logger) (s : Settings) (target : Text) : Execution :=
  match prepare fs s target with
  | .error e => ⟨fs, [], [], some l, .error e⟩
  | .ok (plan, reader) =>
    let (files, made) := l.carryOut (plan.making reader) fs
    let log := l.level.filter made.notes
    match made.value with
    | .error e => ⟨files, [], log, some l, .error e⟩
    | .ok text => deliver ⟨files, [], log, some l, .ok .success⟩ l plan text

/-- Carries out the arguments. -/
def execute (fs : FileSystem) (environment : Option Text) (args : CommandLine.Arguments) :
    Execution :=
  match settings fs args with
  | .error e => .early fs e
  | .ok s =>
    match Logger.start fs environment s.log with
    | .error e => .early fs e
    | .ok (fs, l) => withLogger fs l s args.package

end Run

/-- What a run shows to its caller. -/
structure Report where
  files : FileSystem
  printed : Text
  /-- The notes that were shown. -/
  log : List Note
  /-- The line about an error, if there was one. -/
  message : Option Text
  code : Nat

namespace Run

/-- The version that the program tells. -/
def versionLine : Text := LogFilter.programName ++ " 0.5.0\n"

/-- The lines of the help that the program prints. -/
def helpLines : List String :=
  ["Export Google-style docstrings from a Python package to Markdown",
    "",
    "Usage: docstring2md [OPTIONS] --package <PACKAGE>",
    "",
    "Options:",
    "  -p, --package <PACKAGE>            Package name, package directory or .py file",
    "  -o, --output-file <OUTPUT_FILE>    Write the document to this file instead of standard output",
    "      --toml-file <TOML_FILE>        Build manifest embedded in the dev notes",
    "      --todo-file <TODO_FILE>        Task list embedded before the dev notes",
    "      --mermaid-file <MERMAID_FILE>  Mermaid diagram embedded in the dev notes",
    "      --toc                          Add a table of contents",
    "      --private-def                  Include functions whose name starts with __",
    "      --debug                        Debug logging",
    "      --quiet                        Only log errors",
    "      --logfile <LOGFILE>            Also write logs to this file",
    "  -c, --config <CONFIG>              Config file path (default: ./docstring2md.toml if present)",
    "  -h, --help                         Print help",
    "  -V, --version                      Print version",
    ""]

/-- The help that the program prints. -/
def helpText : Text := Text.unlines (helpLines.map String.toList)

/-- The report on arguments that lead to no run. -/
def refuse (fs : FileSystem) (r : CommandLine.Refusal) : Report :=
  let printed :=
    match r with
    | .showHelp => helpText
    | .showVersion => versionLine
    | _ => []
  ⟨fs, printed, [], none, r.code⟩

/-- The report on a run. An error is noted, if the log is set up, and told. -/
def report (x : Execution) : Report :=
  match x.result with
  | .ok status => ⟨x.files, x.printed, x.log, none, status.code⟩
  | .error e =>
    let noted := match x.logger with
      | some l => x.noting l [.failed e.message]
      | none => x
    ⟨noted.files, noted.printed, noted.log, some ("Error: " ++ e.message), e.status.code⟩

/-- Runs the program on its arguments. -/
def command (fs : FileSystem) (environment : Option Text) (args : List Text) : Report :=
  match CommandLine.Arguments.parse args with
  | .error r => refuse fs r
  | .ok args => report (execute fs environment args)

end Run

end DocOutline
