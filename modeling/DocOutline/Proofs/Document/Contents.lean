import DocOutline.Document
import DocOutline.Proofs.Path
import DocOutline.Proofs.Reading
import Mathlib.Data.List.Basic

/-!
# The contents of a document

A document is a front, made of its summary and of the files that go with it, the heading of the
entries, and one block for each entry. A table of contents stands between the heading and the blocks
and changes nothing else (`assemble_toc`).
-/

namespace DocOutline

namespace Entry

theorem summary_of_not_isModule {e : Entry} (h : e.isModule = false) :
    e.summary = e.heading ++ "\n" ++ e.codeBlock ++ "\n" ++ e.docBlock := by
  unfold summary
  rw [h]
  rfl

theorem codeBlock_append (e : Entry) (rest : Text) :
    e.codeBlock ++ ("\n" ++ rest) = "```python\n" ++ (e.definition ++ ("\n```\n" ++ rest)) := by
  have hcode : e.codeBlock = "```python\n" ++ e.definition ++ "\n```" := rfl
  rw [hcode, List.append_assoc, List.append_assoc]
  rfl

/-- The line of the table of contents that points to an entry. -/
def tocLine (e : Entry) : Text := "[" ++ e.title ++ "](#" ++ Markup.anchor e.title ++ ")<br />"

theorem tocLine?_eq {e : Entry} (h : e.isModule = false) : e.tocLine? = some e.tocLine := by
  unfold tocLine?
  rw [h]
  rfl

theorem newline_not_mem_tocLine {e : Entry} (h : '\n' ∉ e.title) : '\n' ∉ e.tocLine := by
  have hanchor : '\n' ∉ Markup.anchor e.title := by
    intro hmem
    exact absurd (List.mem_filter.1 hmem).2 (by decide +kernel)
  unfold tocLine
  simp only [List.mem_append, not_or]
  exact ⟨⟨⟨⟨by decide, h⟩, by decide⟩, hanchor⟩, by decide⟩

end Entry

namespace DocumentPlan

variable (d : DocumentPlan) (fs : FileSystem) (summary : Option Entry) (entries : List Entry)

/-- The texts of the files that go with a document. -/
structure Attached where
  todo : Option Text
  toml : Option Text
  diagram : Option Text

/-- Reads the files that go with a document. -/
def attached : Reading Attached := do
  let todo ← attach "todo" d.todo
  let toml ← attach "toml" d.toml
  let diagram ← attach "uml" d.diagram
  return ⟨todo, toml, diagram⟩

/-- What stands in front of the heading of the entries. -/
def front (summary : Option Entry) (a : Attached) : List Text :=
  (summary.map Entry.summary).toList ++ a.todo.toList ++ [notesHeading] ++
    headedBlock "## TOML file:" "toml" a.toml ++ headedBlock "## UML Diagram:" "mermaid" a.diagram

/-- The document that shows some entries one by one. -/
def layout (summary : Option Entry) (a : Attached) (es : List Entry) : Text :=
  Text.unlines (front summary a ++ [objectsHeading] ++
    (if d.toc then es.map Entry.tocLine else []) ++ es.map Entry.summary)

theorem isModule_of_mem_objects {e : Entry} (h : e ∈ objects entries) : e.isModule = false := by
  simpa using (List.mem_filter.1 h).2

theorem filterMap_tocLine? {es : List Entry} (h : ∀ e ∈ es, e.isModule = false) :
    es.filterMap Entry.tocLine? = es.map Entry.tocLine := by
  rw [← List.filterMap_eq_map]
  exact List.filterMap_congr fun e he => Entry.tocLine?_eq (h e he)

theorem assembly_eq : d.assembly summary entries =
    d.attached >>= fun a => pure (d.layout summary a (objects entries)) := by
  unfold assembly attached layout front
  rw [← filterMap_tocLine? fun e => isModule_of_mem_objects entries]
  simp only [bind_assoc, pure_bind, List.append_assoc]

theorem value_assemble : (d.assemble fs summary entries).run.value =
    (d.attached.outcome fs).run.value >>= fun a => .ok (d.layout summary a (objects entries)) := by
  unfold assemble
  rw [assembly_eq, Reading.value_outcome_bind]
  rfl

theorem notes_assemble :
    (d.assemble fs summary entries).run.notes = (d.attached.outcome fs).run.notes := by
  unfold assemble
  rw [assembly_eq, Reading.outcome_bind, ExceptT.run_bind, Noted.notes_bind]
  cases (d.attached.outcome fs).run.value with
  | error e => exact List.append_nil _
  | ok a => exact List.append_nil _

/-! ## The table of contents -/

/-- Lines with their newlines, one behind the other. -/
def terminated (ls : List Text) : Text := ls.flatMap (· ++ ['\n'])

theorem unlines_append {ls rest : List Text} (hrest : rest ≠ []) :
    Text.unlines (ls ++ rest) = terminated ls ++ Text.unlines rest := by
  induction ls with
  | nil => rfl
  | cons l ls ih =>
    obtain ⟨u, us, hu⟩ :=
      List.exists_cons_of_ne_nil (List.append_ne_nil_of_right_ne_nil ls hrest)
    unfold Text.unlines terminated at ih ⊢
    rw [List.cons_append, hu, Text.join_cons_cons, ← hu, ih, List.flatMap_cons]
    simp only [List.append_assoc]

theorem lines_terminated {ls : List Text} (h : ∀ l ∈ ls, '\n' ∉ l) :
    Text.lines (terminated ls) = ls ++ [[]] := by
  have hunlines : terminated ls = Text.unlines (ls ++ [[]]) := by
    rw [unlines_append (List.cons_ne_nil _ _)]
    exact (List.append_nil _).symm
  rw [hunlines]
  refine Text.pieces_join (List.append_ne_nil_of_right_ne_nil ls (List.cons_ne_nil _ _)) ?_
  intro l hl
  rcases List.mem_append.1 hl with hl | hl
  · exact h l hl
  · rw [List.mem_singleton.1 hl]
    exact List.not_mem_nil

theorem terminated_append (ls ls' : List Text) :
    terminated (ls ++ ls') = terminated ls ++ terminated ls' := List.flatMap_append

theorem terminated_singleton (l : Text) : terminated [l] = l ++ ['\n'] := List.append_nil _

/-- What stands up to the blocks of some entries without a table of contents. -/
def opening (summary : Option Entry) (a : Attached) (es : List Entry) : Text :=
  terminated (front summary a) ++ objectsHeading ++ (if es = [] then [] else ['\n'])

theorem layout_eq (a : Attached) (es : List Entry) : d.layout summary a es =
    opening summary a es ++ terminated (if d.toc then es.map Entry.tocLine else []) ++
      Text.unlines (es.map Entry.summary) := by
  unfold layout opening
  cases es with
  | nil =>
    -- The heading is the last part, so no newline is put behind it.
    have hnone : (if d.toc then ([] : List Entry).map Entry.tocLine else []) = [] := ite_self _
    have hheading : Text.unlines [objectsHeading] = objectsHeading := Text.join_singleton _ _
    have hlines : terminated [] ++ Text.unlines [] = [] := rfl
    rw [hnone, if_pos rfl, List.map_nil, List.append_nil, List.append_nil, List.append_nil,
      unlines_append (List.cons_ne_nil _ _), hheading, List.append_assoc (_ ++ objectsHeading),
      hlines, List.append_nil]
  | cons e es =>
    have hblocks : (e :: es).map Entry.summary ≠ [] := List.cons_ne_nil _ _
    rw [unlines_append hblocks, terminated_append, terminated_append, terminated_singleton,
      if_neg (List.cons_ne_nil e es), List.append_assoc (terminated _) objectsHeading]

/-- A table of contents is only put in: a document without it is cut behind the heading of the
entries, and it stands there with one line for each heading that follows. -/
theorem assemble_toc {text : Text}
    (h : ({ d with toc := false }.assemble fs summary entries).run.value = .ok text) :
    ∃ parts : List Text,
      let before := terminated parts ++ "## Objects:\n" ++
        (if objects entries = [] then [] else ['\n'])
      let blocks := Text.unlines ((objects entries).map Entry.summary)
      let contents := terminated ((objects entries).map Entry.tocLine)
      text = before ++ blocks ∧
      ({ d with toc := true }.assemble fs summary entries).run =
        ⟨.ok (before ++ contents ++ blocks),
          ({ d with toc := false }.assemble fs summary entries).run.notes⟩ ∧
      (∀ e ∈ objects entries,
        (∃ rest, e.summary = List.replicate (e.level + 2) '#' ++ " " ++ e.title ++ "\n" ++ rest) ∧
        e.tocLine = "[" ++ e.title ++ "](#" ++ Markup.anchor e.title ++ ")<br />") ∧
      ((∀ e ∈ objects entries, '\n' ∉ e.title) →
        contents.lines = (objects entries).map Entry.tocLine ++ [[]]) ∧
      (objects entries = [] → before ++ contents ++ blocks = text) := by
  rw [value_assemble] at h
  obtain ⟨a, ha, htext⟩ := bind_eq_ok.1 h
  cases htext
  refine ⟨front summary a, ?_, ?_, ?_, ?_, ?_⟩
  · rw [layout_eq, if_neg Bool.false_ne_true]
    exact congrArg (· ++ _) (List.append_nil _)
  · refine Noted.ext ?_ ?_
    · have ha' : ({ d with toc := true }.attached.outcome fs).run.value = .ok a := ha
      rw [value_assemble, ha']
      exact congrArg Except.ok (layout_eq _ _ _ _)
    · rw [notes_assemble, notes_assemble]
      rfl
  · intro e he
    have hmodule := isModule_of_mem_objects entries he
    refine ⟨⟨e.codeBlock ++ "\n" ++ e.docBlock, ?_⟩, rfl⟩
    rw [Entry.summary_of_not_isModule hmodule]
    unfold Entry.heading
    simp only [List.append_assoc]
  · intro htitles
    refine lines_terminated ?_
    intro l hl
    obtain ⟨e, he, rfl⟩ := List.mem_map.1 hl
    exact Entry.newline_not_mem_tocLine (htitles e he)
  · intro hnone
    rw [hnone, layout_eq]
    rfl

/-- A list of things to do stands in front, and a module stands between a class and a method. -/
theorem assemble_toc_module_between :
    let fs : FileSystem := ⟨[(["todo".toList], .file (.text "- all of it"))], [], by decide⟩
    let d : DocumentPlan := ⟨⟨none, false⟩, ⟨some ⟨"uml"⟩, false⟩, ⟨some ⟨"todo"⟩, true⟩,
      ⟨none, false⟩, true⟩
    let entries : List Entry := [.make .classDef "A()" "class A" none 1, .ofModule (some "m"),
      .make (.functionDef .pre) "A.__len__(self)" "def __len__(self)" (some "d") 2]
    ∃ text parts blocks,
      ({ d with toc := false }.assemble fs none entries).run.value = .ok text ∧
      text = terminated parts ++ "## Objects:\n" ++ ['\n'] ++ blocks ∧
      ({ d with toc := true }.assemble fs none entries).run.value =
        .ok (terminated parts ++ "## Objects:\n" ++ ['\n'] ++
          "[A()](#a)<br />\n[A.__len__(self)](#alenself)<br />\n" ++ blocks) := by
  intro fs d entries
  obtain ⟨text, h⟩ : ∃ text,
      ({ d with toc := false }.assemble fs none entries).run.value = .ok text := ⟨_, rfl⟩
  obtain ⟨parts, htext, htoc, -⟩ := assemble_toc d fs none entries h
  have hlines : terminated ((objects entries).map Entry.tocLine) =
      "[A()](#a)<br />\n[A.__len__(self)](#alenself)<br />\n" := by decide +kernel
  rw [hlines] at htoc
  exact ⟨text, parts, _, h, htext, congrArg Noted.value htoc⟩

end DocumentPlan

end DocOutline
