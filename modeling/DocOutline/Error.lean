import DocOutline.FileSystem.Listing
import DocOutline.Glob

/-!
# Errors

What can go wrong on the way to a document, in what words it is told, and with what status it ends
the run.
-/

namespace DocOutline

/-- How a run ends. -/
inductive ExitStatus where
  | success
  /-- A module or file is not there. -/
  | notFound
  /-- The output file cannot be created. -/
  | cannotCreate
  /-- A file cannot be read or written. -/
  | ioFailure
  /-- The settings make no sense. -/
  | badSettings
  deriving DecidableEq, Repr, Inhabited

/-- The number of a status. -/
def ExitStatus.code : ExitStatus → Nat
  | .success => 0
  | .notFound => 72
  | .cannotCreate => 73
  | .ioFailure => 74
  | .badSettings => 78

/-- What went wrong. -/
inductive Error where
  /-- A file cannot be read, for this reason. -/
  | unreadable (reason : Text)
  /-- The settings file is no settings file, for this reason. -/
  | settingsSyntax (reason : Text)
  /-- The settings contradict themselves or name something unknown. -/
  | settingsInvalid (reason : Text)
  | moduleNotFound (target : Text)
  | cannotCreate (path : Path) (reason : Text)
  | cannotWrite (path : Path) (reason : Text)
  /-- The source cannot be taken apart at all. -/
  | unparsable (reason : Text)
  | badPattern (cause : GlobError)
  | unlistable (cause : ListingError)
  deriving DecidableEq, Repr, Inhabited

namespace Error

/-- The text of an error. -/
def message : Error → Text
  | .unreadable reason => "IO error: " ++ reason
  | .settingsSyntax reason => "Failed to parse config file: " ++ reason
  | .settingsInvalid reason => "Config validation error: " ++ reason
  | .moduleNotFound target => "No module named '" ++ target ++ "'"
  | .cannotCreate path reason => "Cannot create " ++ path.text ++ ": " ++ reason
  | .cannotWrite path reason => "Error writing to " ++ path.text ++ ": " ++ reason
  | .unparsable reason => "Parser error: " ++ reason
  | .badPattern cause => "Glob pattern error: " ++ cause.message
  | .unlistable cause => "Directory walk error: " ++ cause.message

/-- The status with which an error ends a run. -/
def status : Error → ExitStatus
  | .moduleNotFound _ => .notFound
  | .cannotCreate _ _ => .cannotCreate
  | .cannotWrite _ _ | .unreadable _ | .unlistable _ | .unparsable _ => .ioFailure
  | .settingsSyntax _ | .settingsInvalid _ | .badPattern _ => .badSettings

end Error

end DocOutline
