import DocOutline.Settings.Basic
import DocOutline.Toml.Document

/-!
# Reading settings

Settings are read from a TOML document. Keys that mean nothing are ignored, and what is not given
has its default. A group of settings can also be given as an array of its values in order.
-/

namespace DocOutline.Settings

open Toml

/-- A group of values by their keys, or in order. -/
inductive Group where
  | keyed (entries : Entries)
  | listed (values : List Value)

namespace Group

/-- Reads a group. A date has no keys that mean anything. -/
def ofValue? : Value → Option Group
  | .table _ entries => some (.keyed entries)
  | .array _ values => some (.listed values)
  | .datetime _ => some (.keyed [])
  | _ => none

/-- The value of a key, which is the one at `index` if the values are listed. -/
def get? (key : Text) (index : Nat) : Group → Option Value
  | .keyed entries => entries.get? key
  | .listed values => values[index]?

end Group

/-- Reads a value of a group with a reader for its type. A value that is not given has its default,
and one of another type fails. -/
def field {α : Type} (g : Group) (key : Text) (index : Nat) (read : Value → Option α)
    (default : α) : Option α :=
  match g.get? key index with
  | none => some default
  | some v => read v

/-- A truth value. -/
def bool? : Value → Option Bool
  | .boolean b => some b
  | _ => none

/-- A text. -/
def text? : Value → Option Text
  | .string t => some t
  | _ => none

/-- A path. -/
def path? (v : Value) : Option (Option Path) := (text? v).map fun t => some ⟨t⟩

/-- A list of values. -/
def list? {α : Type} (read : Value → Option α) : Value → Option (List α)
  | .array _ values => values.mapM read
  | _ => none

/-- Whether a value can stand behind the name of a style. -/
def isEmptyGroup : Value → Bool
  | .table _ entries => entries.isEmpty
  | .array _ values => values.isEmpty
  | _ => false

/-- A style by its name. The name may also be the only key of a table. -/
def style? : Value → Option DocStyle
  | .string t => DocStyle.ofName? t
  | .table _ [(key, v)] => if isEmptyGroup v then DocStyle.ofName? key else none
  | _ => none

/-- The settings of the document. -/
def document? (v : Value) : Option DocumentSettings := do
  let g ← Group.ofValue? v
  return {
    toc := ← field g "toc" 0 bool? false
    output := ← field g "output" 1 path? none
    tomlFile := ← field g "toml_file" 2 path? none
    todoFile := ← field g "todo_file" 3 path? none
    mermaidFile := ← field g "mermaid_file" 4 path? none }

/-- The settings of the outline. -/
def extraction? (v : Value) : Option ExtractionSettings := do
  let g ← Group.ofValue? v
  return {
    privateMembers := ← field g "private_def" 0 bool? false
    style := ← field g "docstring_style" 1 style? .pre }

/-- The settings of the search. -/
def search? (v : Value) : Option SearchSettings := do
  let g ← Group.ofValue? v
  let standard : SearchSettings := {}
  return {
    paths := ← field g "search_paths" 0 (list? fun v => (text? v).map Path.mk) standard.paths
    exclude := ← field g "exclude" 1 (list? text?) standard.exclude }

/-- The settings of the log. -/
def log? (v : Value) : Option LogSettings := do
  let g ← Group.ofValue? v
  let standard : LogSettings := {}
  return {
    level := ← field g "level" 0 text? standard.level
    file := ← field g "logfile" 1 path? none }

/-- The settings in a TOML document. -/
def ofEntries? (entries : Entries) : Option Settings := do
  let g := Group.keyed entries
  return {
    document := ← field g "document" 0 document? {}
    extraction := ← field g "extraction" 1 extraction? {}
    search := ← field g "lister" 2 search? {}
    log := ← field g "logging" 3 log? {} }

/-- Reads settings from the text of a file. -/
def parse (t : Text) : Except Error Settings :=
  match Toml.parse? t with
  | none => .error (.settingsSyntax "this is no TOML document")
  | some entries =>
    match ofEntries? entries with
    | none => .error (.settingsSyntax "a value has the wrong type")
    | some s => .ok s

/-- Reads and checks the settings in a file. -/
def load (fs : FileSystem) (p : Path) : Except Error Settings :=
  match fs.read p with
  | .error e => .error (.unreadable e.message)
  | .ok t =>
    match parse t with
    | .error e => .error e
    | .ok s =>
      match s.validate with
      | .error e => .error e
      | .ok () => .ok s

/-- Reads and checks the settings in a file, if it is there. -/
def loadOrDefault (fs : FileSystem) (p : Path) : Except Error Settings :=
  if fs.exists? p then load fs p else .ok {}

end DocOutline.Settings
