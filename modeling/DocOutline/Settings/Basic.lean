import DocOutline.Document
import DocOutline.Text.LowerCase

/-!
# Settings

What a run can be told: about the document, the outline, the search for packages and the log. The
command line overrides the settings file.
-/

namespace DocOutline

/-- Settings of the document. -/
structure DocumentSettings where
  toc : Bool := false
  /-- Where the document is written; without a path it is printed. -/
  output : Option Path := none
  tomlFile : Option Path := none
  todoFile : Option Path := none
  mermaidFile : Option Path := none
  deriving DecidableEq, Repr, Inhabited

/-- Settings of the outline. -/
structure ExtractionSettings where
  /-- Include functions whose name starts with two underscores. -/
  privateMembers : Bool := false
  style : DocStyle := .pre
  deriving DecidableEq, Repr, Inhabited

/-- Settings of the search for packages. -/
structure SearchSettings where
  /-- Directories to look in behind the current one. -/
  paths : List Path := []
  /-- Patterns for files to leave out. -/
  exclude : List Text := [String.toList "tests/**", String.toList "test_*.py"]
  deriving DecidableEq, Repr, Inhabited

/-- Settings of the log. -/
structure LogSettings where
  level : Text := "warn"
  file : Option Path := none
  deriving DecidableEq, Repr, Inhabited

/-- All settings. -/
structure Settings where
  document : DocumentSettings := {}
  extraction : ExtractionSettings := {}
  search : SearchSettings := {}
  log : LogSettings := {}
  deriving DecidableEq, Repr, Inhabited

/-- What the command line says instead of the settings file. -/
structure Overrides where
  output : Option Path := none
  tomlFile : Option Path := none
  todoFile : Option Path := none
  mermaidFile : Option Path := none
  toc : Bool := false
  privateMembers : Bool := false
  logLevel : Option Text := none
  logFile : Option Path := none
  deriving DecidableEq, Repr, Inhabited

namespace Settings

/-- The settings with those of the command line in place of them. -/
def override (s : Settings) (o : Overrides) : Settings where
  document :=
    { toc := s.document.toc || o.toc
      output := o.output <|> s.document.output
      tomlFile := o.tomlFile <|> s.document.tomlFile
      todoFile := o.todoFile <|> s.document.todoFile
      mermaidFile := o.mermaidFile <|> s.document.mermaidFile }
  extraction :=
    { s.extraction with privateMembers := s.extraction.privateMembers || o.privateMembers }
  search := s.search
  log := { level := o.logLevel.getD s.log.level, file := o.logFile <|> s.log.file }

/-- The levels that a log can have. -/
def logLevels : List Text :=
  (["trace", "debug", "info", "warn", "error"] : List String).map String.toList

/-- Whether the document would be written over the project file, going by the parts of the paths. -/
def overwritesToml (d : DocumentSettings) : Bool :=
  match d.output, d.tomlFile with
  | some output, some toml => output.same toml
  | _, _ => false

/-- Checks the settings: the level of the log first, then the patterns, then the paths. -/
def validate (s : Settings) : Except Error Unit :=
  if !logLevels.contains s.log.level.lower then
    .error (.settingsInvalid ("unknown log level: " ++ s.log.level))
  else
    match Finder.parsePatterns s.search.exclude with
    | .error e => .error (.badPattern e)
    | .ok _ =>
      if overwritesToml s.document then
        .error (.settingsInvalid "output file would overwrite the toml file")
      else .ok ()

/-- The options for outlines. The module's docstring is asked for where it is needed. -/
def outlineOptions (s : Settings) : OutlineOptions :=
  ⟨false, s.extraction.privateMembers, s.extraction.style⟩

/-- The plan of the document. Whether the files are there is looked up now. -/
def documentPlan (s : Settings) (fs : FileSystem) : DocumentPlan where
  toml := .make fs s.document.tomlFile
  diagram := .make fs s.document.mermaidFile
  todo := .make fs s.document.todoFile
  output := .make fs s.document.output
  toc := s.document.toc

/-- The finder for packages. -/
def finder (s : Settings) : Except Error Finder :=
  Finder.make s.search.paths s.search.exclude

end Settings

end DocOutline
