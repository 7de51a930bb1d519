import DocOutline.Proofs.Document.Contents
import DocOutline.Proofs.Package.Reading
import DocOutline.Proofs.Package.Roots

/-!
# The entries of a document

The entry of a module comes first in an outline, and only there, and only if it is asked for and the
source is a module. So a document shows each class and function that was read once and in order, and
the entry of a module as its summary at most (`document_shows_entries`).
-/

namespace DocOutline

/-! ## A module in front of other entries -/

section Front

variable {m : Option Entry} {es : List Entry} (hm : ∀ e, m = some e → e.isModule = true)
  (hes : ∀ e ∈ es, e.isModule = false)

include hes

theorem DocumentPlan.objects_eq_self : objects es = es := by
  refine List.filter_eq_self.2 ?_
  intro e he
  rw [hes e he]
  rfl

include hm

theorem DocumentPlan.objects_append : objects (m.toList ++ es) = es := by
  cases m with
  | none => exact objects_eq_self hes
  | some e =>
    have hskip : objects (e :: es) = objects es := List.filter_cons_of_neg (by simp [hm e rfl])
    exact hskip.trans (objects_eq_self hes)

theorem DocumentPlan.splitSummary_append : splitSummary (m.toList ++ es) = (m, es) := by
  cases m with
  | some e => exact if_pos (hm e rfl)
  | none =>
    cases es with
    | nil => rfl
    | cons e es => exact if_neg (Bool.not_eq_true _ ▸ hes e List.mem_cons_self)

theorem head?_filter_append : (m.toList ++ es).head?.filter Entry.isModule = m := by
  cases m with
  | some e => exact Option.filter_some_pos (hm e rfl)
  | none =>
    cases es with
    | nil => rfl
    | cons e es => exact Option.filter_some_neg (Bool.not_eq_true _ ▸ hes e List.mem_cons_self)

end Front

/-! ## What was read -/

namespace Reader

variable {r : Reader} {fs : FileSystem} {q : Path} {p : Package} {entries : List Entry}

theorem onFile_eq (h : r.target = .sourceFile q) : r.onFile q = r := by
  unfold onFile
  rw [← h]

theorem onPackage_eq (h : r.target = .package p) : r.onPackage p = r := by
  unfold onPackage
  rw [← h]

/-- The entries of a single file that was read: the module alone is a module, and it comes first. -/
theorem ok_of_result_file (htarget : r.target = .sourceFile q) (h : r.result fs = .ok entries) :
    ∃ source rest, fs.read q = .ok source ∧ (∀ e ∈ rest, e.isModule = false) ∧
      entries = (moduleOf? source).toList ++ rest := by
  rw [← onFile_eq htarget] at h
  rcases r.file_cases fs q with ⟨-, e, hfile, -⟩ | ⟨source, rest, hread, hrest, hfile, -⟩
  · cases hfile.symm.trans h
  · cases hfile.symm.trans h
    exact ⟨source, rest, hread, hrest, rfl⟩

theorem ok_of_result_package (htarget : r.target = .package p) (h : r.result fs = .ok entries) :
    (∀ e ∈ entries, e.isModule = false) ∧ ∀ q ∈ p.files, ∃ source, fs.read q = .ok source := by
  rw [← onPackage_eq htarget, result_onPackage] at h
  obtain ⟨ess, hess, rfl⟩ := map_eq_ok.1 h
  have houtcomes : r.outcomes fs p = ess.map .ok := ((gathers_mapM _).ok_iff ess).1 hess
  -- What is read without the entry of its module has no such entry at all.
  have hpart : ∀ q es, (r.readFile fs false q).run.value = .ok es →
      (∀ e ∈ es, e.isModule = false) ∧ ∃ source, fs.read q = .ok source := by
    intro q es hq
    rcases r.file_cases fs q with ⟨-, e, -, hfile⟩ | ⟨source, rest, hread, hrest, -, hfile⟩
    · cases hfile.symm.trans hq
    · cases hfile.symm.trans hq
      exact ⟨hrest, source, hread⟩
  refine ⟨?_, ?_⟩
  · intro e he
    obtain ⟨es, hes, he⟩ := List.mem_flatten.1 he
    have hmem : .ok es ∈ r.outcomes fs p := by
      rw [houtcomes]
      exact List.mem_map_of_mem hes
    obtain ⟨q, -, hq⟩ := List.mem_map.1 hmem
    exact (hpart q es hq).1 e he
  · intro q hq
    have hmem : (r.readFile fs false q).run.value ∈ r.outcomes fs p := List.mem_map_of_mem hq
    rw [houtcomes] at hmem
    obtain ⟨es, -, hes⟩ := List.mem_map.1 hmem
    exact (hpart q es hes.symm).2

theorem target_of_make {opened : FileSystem} {finder : Finder} {name : Text}
    {options : OutlineOptions} (h : make opened finder name options = .ok r) :
    finder.resolve opened name = .ok r.target := by
  unfold make at h
  split at h
  · cases h
  · next htarget =>
    cases h
    exact htarget

theorem main_of_make {opened : FileSystem} {finder : Finder} {name : Text}
    {options : OutlineOptions} (h : make opened finder name options = .ok r)
    (htarget : r.target = .package p) :
    p.main = if opened.isFile (p.root.child Finder.mainName) then
      some (p.root.child Finder.mainName) else none := by
  rcases Finder.resolve_cases (target_of_make h) with ⟨q, hq, -⟩ | ⟨dir, -, hdir⟩
  · cases hq.symm.trans htarget
  · obtain ⟨files, -, hp⟩ := Finder.package_eq_ok hdir
    cases hp.symm.trans htarget
    rfl

section MainEntry

variable {main : Path} (htarget : r.target = .package p)

include htarget

theorem value_mainEntry_none (hmain : p.main = none) : (r.mainEntry fs).run.value = .ok none := by
  unfold mainEntry summary
  rw [htarget]
  dsimp only
  rw [hmain]
  rfl

theorem value_mainEntry_some (hmain : p.main = some main) : (r.mainEntry fs).run.value =
    (r.readFile fs true main).run.value >>= fun es => .ok (es.head?.filter Entry.isModule) := by
  unfold mainEntry summary
  rw [htarget]
  dsimp only
  rw [hmain]
  exact Reading.value_outcome_bind fs _ _

theorem value_mainEntry_of_ok (hmain : p.main = some main) {source : Text}
    (hread : fs.read main = .ok source) :
    (r.mainEntry fs).run.value = .ok (moduleOf? source) := by
  rw [value_mainEntry_some htarget hmain, r.value_readFile_of_ok fs hread, value_outline_module]
  exact congrArg Except.ok
    (head?_filter_append isModule_of_moduleOf? fun e => isModule_of_mem_outline rfl)

theorem value_mainEntry_of_error (hmain : p.main = some main) {cause : FileError}
    (hread : fs.read main = .error cause) :
    (r.mainEntry fs).run.value = .error (.unreadable (main.text ++ ": " ++ cause.message)) := by
  rw [value_mainEntry_some htarget hmain, r.value_readFile_of_error fs hread]
  rfl

end MainEntry

end Reader

namespace DocumentPlan

variable (d : DocumentPlan) {opened fs : FileSystem} {r : Reader} {entries : List Entry}

/-- A document shows a summary, if there is one, and some entries, each in its place, unless a file
that goes with it cannot be read. -/
structure Shows (fs : FileSystem) (summary : Option Entry) (es : List Entry)
    (x : Except Error Text) : Prop where
  text : x = (d.attached.outcome fs).run.value >>= fun a => .ok (d.layout summary a es)
  /-- The block of an entry has its title, its definition and its docstring. -/
  block : ∀ e ∈ es, e.summary = List.replicate (e.level + 2) '#' ++ " " ++ e.title ++ "\n" ++
    "```python\n" ++ e.definition ++ "\n```\n" ++ e.docBlock
  /-- The summary is the docstring of a module. -/
  summary_eq : ∀ e, summary = some e → e.summary = e.docBlock

theorem shows_assemble {summary : Option Entry} (h : ∀ e ∈ entries, e.isModule = false)
    (hsummary : ∀ e, summary = some e → e.isModule = true) :
    d.Shows fs summary entries (d.assemble fs summary entries).run.value := by
  refine ⟨?_, ?_, ?_⟩
  · rw [value_assemble, objects_eq_self h]
  · intro e he
    rw [Entry.summary_of_not_isModule (h e he)]
    unfold Entry.heading
    simp only [List.append_assoc, Entry.codeBlock_append]
  · intro e he
    exact if_pos (hsummary e he)

theorem value_document_file {q : Path} (htarget : r.target = .sourceFile q)
    (hread : r.result fs = .ok entries) : (d.document fs r).run.value =
      (d.assemble fs (splitSummary entries).1 (splitSummary entries).2).run.value := by
  have hmodule : r.isModule = true := by
    unfold Reader.isModule
    rw [htarget]
  have hread' : (r.entries.outcome fs).run.value = .ok entries := hread
  unfold document making
  rw [Reading.value_outcome_bind, hread', hmodule]
  rfl

theorem value_document_package {p : Package} (htarget : r.target = .package p)
    (hread : r.result fs = .ok entries) : (d.document fs r).run.value =
      (r.mainEntry fs).run.value >>= fun summary => (d.assemble fs summary entries).run.value := by
  have hmodule : r.isModule = false := by
    unfold Reader.isModule
    rw [htarget]
  have hread' : (r.entries.outcome fs).run.value = .ok entries := hread
  unfold document making
  rw [Reading.value_outcome_bind, hread', hmodule]
  exact Reading.value_outcome_bind fs _ _

/-- A document shows every class and function that was read. Its summary is the entry of the module
that the main file is, if it is one. No other entry is shown and none twice. -/
theorem document_shows_entries {finder : Finder} {name : Text} {options : OutlineOptions}
    (hopen : Reader.make opened finder name options = .ok r) (hread : r.result fs = .ok entries) :
    (∀ q, r.target = .sourceFile q → ∃ source, fs.read q = .ok source ∧
      entries = (moduleOf? source).toList ++ objects entries ∧
      splitSummary entries = (moduleOf? source, objects entries) ∧
      d.Shows fs (moduleOf? source) (objects entries) (d.document fs r).run.value) ∧
    (∀ p, r.target = .package p → objects entries = entries ∧
      (p.main = if opened.isFile (p.root.child "__init__.py") then
        some (p.root.child "__init__.py") else none) ∧
      (p.main = none → d.Shows fs none entries (d.document fs r).run.value) ∧
      ∀ main, p.main = some main →
        (main ∈ p.files → ∃ source, fs.read main = .ok source) ∧
        (∀ source, fs.read main = .ok source →
          (r.mainEntry fs).run.value = .ok (moduleOf? source) ∧
          d.Shows fs (moduleOf? source) entries (d.document fs r).run.value) ∧
        ∀ cause, fs.read main = .error cause → (d.document fs r).run.value =
          .error (.unreadable (main.text ++ ": " ++ cause.message))) := by
  refine ⟨?_, ?_⟩
  · intro q htarget
    obtain ⟨source, rest, hsource, hrest, rfl⟩ := Reader.ok_of_result_file htarget hread
    have hsplit := splitSummary_append (@isModule_of_moduleOf? source) hrest
    rw [objects_append isModule_of_moduleOf? hrest, value_document_file d htarget hread, hsplit]
    exact ⟨source, hsource, rfl, rfl, d.shows_assemble hrest isModule_of_moduleOf?⟩
  · intro p htarget
    obtain ⟨hentries, hfiles⟩ := Reader.ok_of_result_package htarget hread
    rw [value_document_package d htarget hread]
    refine ⟨objects_eq_self hentries, Reader.main_of_make hopen htarget, ?_, ?_⟩
    · intro hmain
      rw [Reader.value_mainEntry_none htarget hmain]
      exact d.shows_assemble hentries nofun
    · intro main hmain
      refine ⟨hfiles main, ?_, ?_⟩
      · intro source hsource
        rw [Reader.value_mainEntry_of_ok htarget hmain hsource]
        exact ⟨rfl, d.shows_assemble hentries isModule_of_moduleOf?⟩
      · intro cause hcause
        rw [Reader.value_mainEntry_of_error htarget hmain hcause]
        rfl

/-- A package whose main file has no docstring, and a file by itself. -/
theorem document_shows_entries_package_and_file :
    let fs : FileSystem := ⟨[(["p".toList], .directory),
      (["p".toList, "__init__.py".toList], .file (.text "class A:\n  def f(self): 'd'\n")),
      (["m.py".toList], .file (.text "'m'\ndef g(): pass\n"))], [], by decide⟩
    let d : DocumentPlan := ⟨⟨none, false⟩, ⟨none, false⟩, ⟨none, false⟩, ⟨none, false⟩, true⟩
    let package : Reader := ⟨"p", .package ⟨⟨"./p"⟩, some ⟨"./p/__init__.py"⟩,
      [⟨"./p/__init__.py"⟩]⟩, ⟨true, true, .pre⟩⟩
    let file : Reader := ⟨"m", .sourceFile ⟨"./m.py"⟩, ⟨true, true, .pre⟩⟩
    Reader.make fs ⟨[⟨"."⟩], []⟩ "p" ⟨true, true, .pre⟩ = .ok package ∧
    Reader.make fs ⟨[⟨"."⟩], []⟩ "m" ⟨true, true, .pre⟩ = .ok file ∧
    (∃ entries, package.result fs = .ok entries ∧
      entries.map (·.title) = ["A()".toList, "A.f()".toList] ∧
      d.Shows fs (some ⟨.moduleDoc, [], [], "Docstring empty", 0⟩) entries
        (d.document fs package).run.value) ∧
    ∃ entries, file.result fs = .ok entries ∧ (objects entries).map (·.title) = ["g()".toList] ∧
      d.Shows fs (some ⟨.moduleDoc, [], [], "m", 0⟩) (objects entries)
        (d.document fs file).run.value := by
  intro fs d package file
  have hpackage : Reader.make fs ⟨[⟨"."⟩], []⟩ "p" ⟨true, true, .pre⟩ = .ok package := by
    decide +kernel
  have hfile : Reader.make fs ⟨[⟨"."⟩], []⟩ "m" ⟨true, true, .pre⟩ = .ok file := by
    decide +kernel
  obtain ⟨entries, hread, htitles⟩ : ∃ entries, package.result fs = .ok entries ∧
      entries.map (·.title) = ["A()".toList, "A.f()".toList] := map_eq_ok.1 (by decide +kernel)
  obtain ⟨entries', hread', htitles'⟩ : ∃ entries, file.result fs = .ok entries ∧
      (objects entries).map (·.title) = ["g()".toList] := map_eq_ok.1 (by decide +kernel)
  obtain ⟨-, -, -, hshown⟩ := (document_shows_entries d hpackage hread).2 _ rfl
  obtain ⟨source, hsource, -, -, hshown'⟩ := (document_shows_entries d hfile hread').1 _ rfl
  refine ⟨hpackage, hfile, ⟨entries, hread, htitles, ?_⟩, entries', hread', htitles', ?_⟩
  · have hmodule : moduleOf? "class A:\n  def f(self): 'd'\n" =
        some ⟨.moduleDoc, [], [], "Docstring empty", 0⟩ := by
      decide +kernel
    have hmain : fs.read ⟨"./p/__init__.py"⟩ = .ok "class A:\n  def f(self): 'd'\n".toList := by
      decide +kernel
    rw [← hmodule]
    exact ((hshown _ rfl).2.1 _ hmain).2
  · have hmodule : moduleOf? "'m'\ndef g(): pass\n" = some ⟨.moduleDoc, [], [], "m", 0⟩ := by
      decide +kernel
    have hm : fs.read ⟨"./m.py"⟩ = .ok "'m'\ndef g(): pass\n".toList := by decide +kernel
    cases hm.symm.trans hsource
    rw [← hmodule]
    exact hshown'

/-- A file that breaks off is no module: it has no summary, though it starts with a docstring. -/
theorem splitSummary_of_broken_off :
    let source : Text := "'m'\nclass A: pass\n" ++ List.replicate 25 '('
    let fs : FileSystem := ⟨[(["m.py".toList], .file (.text source))], [], by decide⟩
    let file : Reader := ⟨"m", .sourceFile ⟨"./m.py"⟩, ⟨true, true, .pre⟩⟩
    Reader.make fs ⟨[⟨"."⟩], []⟩ "m" ⟨true, true, .pre⟩ = .ok file ∧
    ∃ entries, file.result fs = .ok entries ∧
      (entries.map (·.title), (splitSummary entries).1) = (["A()".toList], none) := by
  intro source fs file
  have hfile : Reader.make fs ⟨[⟨"."⟩], []⟩ "m" ⟨true, true, .pre⟩ = .ok file := by
    decide +kernel
  exact ⟨hfile, map_eq_ok.1 (by decide +kernel)⟩

end DocumentPlan

end DocOutline
