import DocOutline.Proofs.FileSystem.Spelling
import DocOutline.Proofs.Run.Errors
import Mathlib.Data.List.Basic

/-!
# Documents over included files

The check of the settings compares the output with the project file by the parts of the paths. It
knows neither the file system nor the other files that a document includes, so settings that it
accepts can still have the document written over one of them. `deliver_overwrites_included_iff` says
when this happens.
-/

namespace DocOutline

/-- The files that a document includes. -/
def DocumentSettings.included (d : DocumentSettings) : List Path :=
  [d.tomlFile, d.todoFile, d.mermaidFile].filterMap id

namespace FileSystem

variable {fs fs' : FileSystem} {p q : Path} {loc l : Location} {c : Content}

/-- Without links, one file is opened and read exactly if the paths lead to one place. -/
theorem fileFor?_eq_location_iff (hp : fs.FollowsNoLink p) (hq : fs.FollowsNoLink q)
    (hfile : fs.fileFor? p = some loc) (hstatus : fs.status .target q = .ok (l, .file c)) :
    loc = l ↔ p.place fs.here = q.place fs.here := by
  obtain ⟨hfind, -⟩ := fileFor?_eq_some_iff.1 hfile
  have hlocation := location_eq_place hp (find_target_of_writing hfind)
  have hlocation' := location_eq_place hq (find_of_status hstatus)
  rw [← hlocation, ← hlocation']

end FileSystem

namespace FileRef

variable {r : FileRef} {p q : Path} {fs : FileSystem} {loc l : Location} {c : Content}

theorem read_deliver_self (hp : r.path? = some p) (hfile : fs.fileFor? p = some loc)
    (hstatus : fs.status .target q = .ok (loc, .file c)) (t : Text) :
    (r.deliver fs t).1.read q = .ok t := by
  have hfind := FileSystem.find_of_status hstatus
  have hregular : fs.IsRegularOrNew loc := Or.inr ⟨c, FileSystem.entry?_of_find hfind nofun⟩
  rcases deliver_cases hp fs t with ⟨hnone, -⟩ | ⟨loc', hfile', hfiles, hdelivered⟩
  · cases hfile.symm.trans hnone
  · cases hfile.symm.trans hfile'
    have hfound := hfiles.find_file hfind
    rw [(hdelivered hregular).2] at hfound
    exact FileSystem.read_of_find hfound

theorem read_deliver_of_ne (hp : r.path? = some p) (hfile : fs.fileFor? p = some loc)
    (hstatus : fs.status .target q = .ok (l, .file c)) (hne : loc ≠ l) (t : Text) :
    (r.deliver fs t).1.read q = fs.read q := by
  rcases deliver_cases hp fs t with ⟨hnone, -⟩ | ⟨loc', hfile', hfiles, -⟩
  · cases hfile.symm.trans hnone
  · cases hfile.symm.trans hfile'
    refine hfiles.read_eq (FileSystem.find_of_status hstatus) ?_
    rw [List.mem_singleton]
    exact Ne.symm hne

end FileRef

namespace Settings

variable {s : Settings} {p q : Path}

theorem parts_ne_of_validate (hvalid : s.validate = .ok ()) (hp : s.document.output = some p)
    (hq : s.document.tomlFile = some q) : p.parts ≠ q.parts := by
  obtain ⟨-, -, hother⟩ := validate_eq_ok.1 hvalid
  unfold overwritesToml at hother
  rw [hp, hq] at hother
  exact of_decide_eq_false hother

/-- With settings that pass the check, a document is written over an included file exactly if the
output path leads to this file. If there are no links on the way, this means that both paths lead to
one place, but the check rules out that the project file is spelled like the output. -/
theorem deliver_overwrites_included_iff {fs : FileSystem} {loc : Location}
    (hvalid : s.validate = .ok ()) (hp : s.document.output = some p)
    (hfile : fs.fileFor? p = some loc) :
    ∀ q ∈ s.document.included, fs.isFile q = true →
      ∃ l c, fs.status .target q = .ok (l, .file c) ∧
        (loc = l → ∀ text, ((s.documentPlan fs).output.deliver fs text).1.read q = .ok text) ∧
        (loc ≠ l → ∀ text, ((s.documentPlan fs).output.deliver fs text).1.read q = fs.read q) ∧
        (fs.FollowsNoLink p → fs.FollowsNoLink q →
          (loc = l ↔ p.place fs.here = q.place fs.here ∧
            (s.document.tomlFile = some q → ¬p.SpelledAlike q))) := by
  intro q _ hq
  have hpath : (s.documentPlan fs).output.path? = some p := hp
  obtain ⟨l, c, hstatus⟩ := FileSystem.exists_status_of_isFile hq
  refine ⟨l, c, hstatus, ?_, ?_, ?_⟩
  · rintro rfl
    exact FileRef.read_deliver_self hpath hfile hstatus
  · exact FileRef.read_deliver_of_ne hpath hfile hstatus
  · intro hplain hplain'
    rw [FileSystem.fileFor?_eq_location_iff hplain hplain' hfile hstatus]
    refine ⟨fun hplace => ⟨hplace, ?_⟩, And.left⟩
    intro htoml halike
    exact parts_ne_of_validate hvalid hp htoml (halike.parts_eq hplace)

/-- A dot before the name, another included file and a link are all let through. -/
theorem deliver_overwrites_included_files :
    let fs : FileSystem :=
      ⟨[(["pyproject.toml".toList], .file (.text "[project]\n")),
        (["link".toList], .link ⟨"pyproject.toml"⟩)], [], by decide⟩
    let s : Settings :=
      { document :=
          { output := some ⟨"./pyproject.toml"⟩
            tomlFile := some ⟨"pyproject.toml"⟩
            todoFile := some ⟨"./pyproject.toml"⟩
            mermaidFile := some ⟨"link"⟩ } }
    s.validate = .ok () ∧
    (∀ q ∈ s.document.included, fs.read q = .ok "[project]\n" ∧
      ∀ text, ((s.documentPlan fs).output.deliver fs text).1.read q = .ok text) ∧
    ¬Path.SpelledAlike ⟨"./pyproject.toml"⟩ ⟨"pyproject.toml"⟩ := by
  intro fs s
  have hvalid : s.validate = .ok () := by decide +kernel
  have hfile : fs.fileFor? ⟨"./pyproject.toml"⟩ = some ["pyproject.toml".toList] := by
    decide +kernel
  have hread : ∀ q ∈ s.document.included, fs.read q = .ok "[project]\n" := by decide +kernel
  have hisFile : ∀ q ∈ s.document.included, fs.isFile q = true := by decide +kernel
  have hlocation : ∀ q ∈ s.document.included,
      (fs.status .target q).toOption.map Prod.fst = some ["pyproject.toml".toList] := by
    decide +kernel
  refine ⟨hvalid, fun q hq => ⟨hread q hq, ?_⟩, ?_⟩
  · obtain ⟨l, c, hstatus, hover, -, -⟩ :=
      deliver_overwrites_included_iff hvalid rfl hfile q hq (hisFile q hq)
    have hl := hlocation q hq
    rw [hstatus] at hl
    exact hover (Option.some.inj hl).symm
  · have htoml : (⟨"pyproject.toml"⟩ : Path) ∈ s.document.included := by decide +kernel
    obtain ⟨l, c, hstatus, -, -, hplaces⟩ :=
      deliver_overwrites_included_iff hvalid rfl hfile _ htoml (hisFile _ htoml)
    have hl := hlocation _ htoml
    rw [hstatus] at hl
    have hplain : ∀ q ∈ [(⟨"./pyproject.toml"⟩ : Path), ⟨"pyproject.toml"⟩],
        fs.walkLinks .target 0 (if q.isAbsolute then [] else fs.here) q.pieces =
          .ok ⟨["pyproject.toml".toList], some (.file (.text "[project]\n"))⟩ := by
      decide +kernel
    obtain ⟨-, hspelled⟩ := (hplaces ⟨_, hplain _ List.mem_cons_self⟩
      ⟨_, hplain _ (List.mem_cons_of_mem _ List.mem_cons_self)⟩).1 (Option.some.inj hl).symm
    exact hspelled rfl

end Settings

end DocOutline
