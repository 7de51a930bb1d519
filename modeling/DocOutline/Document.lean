import DocOutline.Markup.Entry
import DocOutline.Package.Reader

/-!
# Documents

A document is the docstring of a module or package, some files that go with it, and its entries.
-/

namespace DocOutline

/-- What goes into a document besides the entries, and where it goes. -/
structure DocumentPlan where
  /-- The project file, shown as a block. -/
  toml : FileRef
  /-- A diagram, shown as a block. -/
  diagram : FileRef
  /-- A list of things to do, shown before the notes for developers. -/
  todo : FileRef
  /-- Where the document is written; without a path it is printed. -/
  output : FileRef
  /-- Whether there is a table of contents. -/
  toc : Bool
  deriving DecidableEq, Repr, Inhabited

namespace DocumentPlan

/-- A block of code in a language. -/
def fenced (language content : Text) : Text :=
  "```" ++ language ++ "\n" ++ (content.reverse.dropWhile (· = '\n')).reverse ++ "\n```"

/-- Reads a file that goes with the document. A file that was not there is left out. -/
def attach (label : Text) (r : FileRef) : Reading (Option Text) :=
  match r.path? with
  | none => return none
  | some p =>
    if r.existed then do
      let t ← Reading.file p
      return some t
    else do
      Reading.ofNoted (Noted.note (.missingFile label p.text))
      return none

/-- A file as a block below a heading, if there is one. -/
def headedBlock (heading language : Text) : Option Text → List Text
  | none => []
  | some content => [heading, fenced language content]

/-- The heading above what only developers need. -/
def notesHeading : Text := "# Dev notes"

/-- The heading above the entries, with an empty line behind it. -/
def objectsHeading : Text := "## Objects:\n"

/-- The entries that are shown one by one. -/
def objects (entries : List Entry) : List Entry := entries.filter (!·.isModule)

/-- Makes the document of a summary and entries. -/
def assembly (d : DocumentPlan) (summary : Option Entry) (entries : List Entry) : Reading Text := do
  let todo ← attach "todo" d.todo
  let toml ← attach "toml" d.toml
  let diagram ← attach "uml" d.diagram
  let toc := if d.toc then (objects entries).filterMap Entry.tocLine? else []
  return Text.unlines <|
    (summary.map Entry.summary).toList ++ todo.toList ++ [notesHeading] ++
    headedBlock "## TOML file:" "toml" toml ++
    headedBlock "## UML Diagram:" "mermaid" diagram ++
    [objectsHeading] ++ toc ++ (objects entries).map Entry.summary

/-- Splits the entries of a single source file into that of the module and the others. -/
def splitSummary : List Entry → Option Entry × List Entry
  | [] => (none, [])
  | e :: es => if e.isModule then (some e, es) else (none, e :: es)

/-- Makes the document of what a reader reads. -/
def making (d : DocumentPlan) (r : Reader) : Reading Text := do
  let entries ← r.entries
  if r.isModule then
    let (summary, objects) := splitSummary entries
    d.assembly summary objects
  else
    let summary ← r.summary
    d.assembly summary entries

/-- The document of a summary and entries. -/
def assemble (d : DocumentPlan) (fs : FileSystem) (summary : Option Entry) (entries : List Entry) :
    Outcome Text := (d.assembly summary entries).outcome fs

/-- The document of what a reader reads. -/
def document (d : DocumentPlan) (fs : FileSystem) (r : Reader) : Outcome Text :=
  (d.making r).outcome fs

end DocumentPlan

end DocOutline
