import DocOutline.Document
import DocOutline.Proofs.Reading

/-!
# The files of a document

What a document is made from is settled before anything is read: the files of the target and those
that go with the document. No other file is read, and nothing goes wrong on the way but that one of
them cannot be read (`stays_making`). So the document is the same wherever these files hold the same
(`document_congr`).
-/

namespace DocOutline

open Reading

/-- The paths that a target is read from. -/
def Target.paths : Target → List Path
  | .sourceFile q => [q]
  | .package p => p.files ++ p.main.toList

/-- An error of a file that cannot be read. -/
def Error.IsOfFile (e : Error) : Prop := e.status = .ioFailure

variable {files : Path → Prop}

/-! ## Readers -/

namespace Reader

variable {r : Reader}

theorem stays_ofFile {q : Path} (hq : files q) (b : Bool) :
    (r.ofFile b q).Stays files Error.IsOfFile :=
  (stays_file hq fun _ => rfl).bind fun _ => stays_ofNoted _

theorem stays_entries (h : ∀ q ∈ r.target.paths, files q) :
    r.entries.Stays files Error.IsOfFile := by
  unfold entries
  cases htarget : r.target with
  | sourceFile q =>
    rw [htarget] at h
    exact stays_ofFile (h q List.mem_cons_self) true
  | package p =>
    rw [htarget] at h
    refine (Stays.collect fun q hq => ?_).bind fun _ => stays_pure _
    exact stays_ofFile (h q (List.mem_append_left _ hq)) false

theorem stays_summary (h : ∀ q ∈ r.target.paths, files q) :
    r.summary.Stays files Error.IsOfFile := by
  unfold summary
  cases htarget : r.target with
  | sourceFile q => exact stays_pure none
  | package p =>
    rw [htarget] at h
    dsimp only
    cases hmain : p.main with
    | none => exact stays_pure none
    | some main =>
      have hmem : main ∈ (Target.package p).paths :=
        List.mem_append_right _ (Option.mem_toList.2 hmain)
      exact (stays_ofFile (h main hmem) true).bind fun _ => stays_pure _

end Reader

/-! ## Documents -/

namespace DocumentPlan

variable {d : DocumentPlan} {r : Reader}

/-- The files that go with a document and were there when it was planned. -/
def paths (d : DocumentPlan) : List Path :=
  ([d.toml, d.todo, d.diagram].filter FileRef.existed).filterMap FileRef.path?

theorem stays_attach (h : ∀ p ∈ d.paths, files p) (label : Text) {file : FileRef}
    (hfile : file ∈ [d.toml, d.todo, d.diagram]) :
    (attach label file).Stays files Error.IsOfFile := by
  unfold attach
  cases hp : file.path? with
  | none => exact stays_pure none
  | some p =>
    dsimp only
    split
    · next hexisted =>
      have hmem : p ∈ d.paths :=
        List.mem_filterMap.2 ⟨file, List.mem_filter.2 ⟨hfile, hexisted⟩, hp⟩
      exact (stays_file (h p hmem) fun _ => rfl).bind fun _ => stays_pure _
    · exact (stays_ofNoted _).bind fun _ => stays_pure none

theorem stays_assembly (h : ∀ p ∈ d.paths, files p) (summary : Option Entry)
    (entries : List Entry) : (d.assembly summary entries).Stays files Error.IsOfFile :=
  (stays_attach h _ (by simp)).bind fun _ => (stays_attach h _ (by simp)).bind fun _ =>
    (stays_attach h _ (by simp)).bind fun _ => stays_pure _

/-- The document of a reader is made from the files of its target and of the plan. -/
theorem stays_making (d : DocumentPlan) (r : Reader) :
    (d.making r).Stays (· ∈ r.target.paths ++ d.paths) Error.IsOfFile := by
  have htarget : ∀ q ∈ r.target.paths, q ∈ r.target.paths ++ d.paths :=
    fun q => List.mem_append_left _
  have hplan : ∀ q ∈ d.paths, q ∈ r.target.paths ++ d.paths := fun q => List.mem_append_right _
  refine (Reader.stays_entries htarget).bind fun entries => ?_
  split
  · exact stays_assembly hplan _ _
  · exact (Reader.stays_summary htarget).bind fun summary => stays_assembly hplan summary entries

/-- Two file systems in which the files of a target and of a plan read the same have the same
document, with the same notes. -/
theorem document_congr {fs₁ fs₂ : FileSystem}
    (h : ∀ p ∈ r.target.paths ++ d.paths, fs₁.read p = fs₂.read p) :
    d.document fs₁ r = d.document fs₂ r :=
  (d.stays_making r).outcome_congr h

end DocumentPlan

end DocOutline
