import DocOutline.Note
import DocOutline.Text.LowerCase
import DocOutline.Text.Word

/-!
# Log filters

Which notes are shown. A filter is a list of directives with commas between them, each a level, the
name of a program, or both. The directive with the longest name that the program's name starts with
decides; a name alone shows everything.
-/

namespace DocOutline

/-- How much is shown: each level shows what the ones before it do, and more. -/
inductive LogLevel where
  | off
  | error
  | warn
  | info
  | debug
  | trace
  deriving DecidableEq, Repr, Inhabited

namespace LogLevel

/-- The levels with their names, in order. -/
def named : List (Text × LogLevel) :=
  ([("off", .off), ("error", .error), ("warn", .warn), ("info", .info), ("debug", .debug),
    ("trace", .trace)] : List (String × LogLevel)).map fun (name, level) => (name.toList, level)

/-- The name of a level. -/
def name (level : LogLevel) : Text := ((named.find? (·.2 = level)).map (·.1)).getD []

/-- The level with this name, in any case, or this number. -/
def ofName? (t : Text) : Option LogLevel :=
  match t with
  | [c] => if '0' ≤ c ∧ c ≤ '5' then (named[c.toNat - 48]?).map (·.2) else none
  | _ => named.lookup t.asciiLower

/-- Whether notes of a severity are shown. -/
def shows (level : LogLevel) : Severity → Bool
  | .error => level ≠ .off
  | .warning => level ≠ .off && level ≠ .error

/-- The notes that are shown. -/
def filter (level : LogLevel) (notes : List Note) : List Note :=
  notes.filter (level.shows ·.severity)

end LogLevel

namespace LogFilter

/-- The name of the program. -/
def programName : Text := "docstring2md"

/-- Whether a character can stand in the name of a program. -/
def isTargetChar (c : Char) : Bool := isWord c || c == ':' || c == '-'

/-- Reads a directive: the name it is for, empty for every program, and its level. -/
def directive? (t : Text) : Option (Text × LogLevel) :=
  match LogLevel.ofName? t with
  | some level => some ([], level)
  | none =>
    let target := t.takeWhile (· != '=')
    if target.isEmpty || !target.all isTargetChar then none
    else
      match t.dropWhile (· != '=') with
      | [] | [_] => some (target, .trace)
      | _ :: level => (LogLevel.ofName? level).map (target, ·)

/-- The level of the directive with the longest name; a later one replaces an earlier one. -/
def strongest : List (Text × LogLevel) → Option (Text × LogLevel)
  | [] => none
  | d :: ds =>
    match strongest ds with
    | none => some d
    | some e => if e.1.length < d.1.length then some d else some e

/-- Reads a filter. Without a directive, errors are shown. -/
def parse? (t : Text) : Option LogLevel :=
  (((t.pieces ',').filter (!·.isEmpty)).mapM directive?).map fun directives =>
    if directives.isEmpty then .error
    else
      match strongest (directives.filter (·.1.isPrefixOf programName)) with
      | some (_, level) => level
      | none => .off

/-- The level of a log: from the environment if it has a filter, else from the settings, else that
of warnings. -/
def build (environment : Option Text) (setting : Text) : LogLevel :=
  ((environment.bind parse?) <|> parse? setting.lower).getD .warn

end LogFilter

end DocOutline
