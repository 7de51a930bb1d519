import DocOutline.Proofs.Document.Objects
import DocOutline.Proofs.Document.Paths
import DocOutline.Proofs.FileSystem.Growing
import DocOutline.Proofs.Settings.Overwriting

/-!
# What a document depends on

The files of a target are settled when its reader is made, and the files that go with a document
when the document is planned. From then on only the texts of these files matter (`document_congr`),
and what is put beside them does not (`document_depends_on_settled_paths`).
-/

namespace DocOutline

/-! ## Listed files -/

namespace Finder

variable {f : Finder} {fs : FileSystem}

theorem mem_of_mem_sources {ms : List Member} {q : Path} (h : q ∈ sources ms) :
    ∃ m ∈ ms, m.path = q := by
  unfold sources at h
  obtain ⟨m, hm, rfl⟩ := List.mem_map.1 h
  refine ⟨m, ?_, rfl⟩
  rcases List.mem_append.1 hm with hm | hm
  · exact (List.mem_filter.1 (List.mem_filter.1 hm).1).1
  · exact (List.mem_filter.1 (List.mem_filter.1 hm).1).1

theorem isSettled_of_mem_filesBelow (hnamed : fs.IsNamed) {fuel : Nat} {dir : Path}
    {below : List Text} {files : List Path} (h : f.filesBelow fs fuel dir below = .ok files) :
    ∀ q ∈ files, fs.IsSettled q := by
  induction fuel generalizing dir below files with
  | zero => cases h
  | succ fuel ih =>
    intro q hq
    rw [filesBelow] at h
    obtain ⟨members, hmembers, h⟩ := bind_eq_ok.1 h
    obtain ⟨inner, hinner, h⟩ := bind_eq_ok.1 h
    cases h
    rcases List.mem_append.1 hq with hq | hq
    · obtain ⟨m, hm, rfl⟩ := mem_of_mem_sources hq
      exact FileSystem.isSettled_of_mem_members hnamed hmembers (List.mem_filter.1 hm).1
    · obtain ⟨files, hfiles, hq⟩ := List.mem_flatten.1 hq
      obtain ⟨m, -, hm⟩ := exists_of_mem_mapM hinner hfiles
      exact ih hm q hq

theorem isSettled_of_packageFiles (hnamed : fs.IsNamed) {root : Path} {files : List Path}
    (h : f.packageFiles fs root = .ok files) : ∀ q ∈ files, fs.IsSettled q := by
  unfold packageFiles at h
  split at h
  · cases h
  · next hfiles =>
    cases h
    exact isSettled_of_mem_filesBelow hnamed hfiles

end Finder

theorem Finder.isSettled_of_resolve {f : Finder} {fs : FileSystem} {target : Text} {t : Target}
    (hnamed : fs.IsNamed) (h : f.resolve fs target = .ok t) : ∀ q ∈ t.paths, fs.IsSettled q := by
  rcases resolve_cases h with ⟨p, rfl, hfile⟩ | ⟨dir, -, hdir⟩
  · intro q hq
    rw [List.mem_singleton.1 hq]
    exact FileSystem.isSettled_of_isFile hfile
  · obtain ⟨files, hfiles, rfl⟩ := package_eq_ok hdir
    intro q hq
    rcases List.mem_append.1 hq with hq | hq
    · exact isSettled_of_packageFiles hnamed hfiles q hq
    · split at hq
      · next hmain =>
        rw [List.mem_singleton.1 hq]
        exact FileSystem.isSettled_of_isFile hmain
      · cases hq

theorem Reader.outcomes_congr {r : Reader} {p : Package} {fs₁ fs₂ : FileSystem}
    (h : ∀ q ∈ p.files, fs₁.read q = fs₂.read q) : r.outcomes fs₁ p = r.outcomes fs₂ p := by
  refine List.map_congr_left ?_
  intro q hq
  have hstays : (r.ofFile false q).Stays (· ∈ p.files) Error.IsOfFile := stays_ofFile hq false
  exact congrArg (·.run.value) (hstays.outcome_congr h)

/-! ## Plans from settings -/

namespace DocumentPlan

variable {r : Reader}

theorem filterMap_path?_make (fs : FileSystem) (files : List (Option Path)) :
    ((files.map (FileRef.make fs)).filter FileRef.existed).filterMap FileRef.path? =
      (files.filterMap id).filter fs.exists? := by
  induction files with
  | nil => rfl
  | cons file files ih =>
    cases file with
    | none => exact ih
    | some p =>
      have hfiles : (some p :: files).filterMap id = p :: files.filterMap id := rfl
      rw [List.map_cons, hfiles]
      cases hp : fs.exists? p with
      | true =>
        have hmake : (FileRef.make fs (some p)).existed = true := hp
        rw [List.filter_cons_of_pos hmake, List.filter_cons_of_pos hp, ← ih]
        rfl
      | false =>
        have hmake : ¬(FileRef.make fs (some p)).existed = true := ne_true_of_eq_false hp
        rw [List.filter_cons_of_neg hmake, List.filter_cons_of_neg (ne_true_of_eq_false hp), ih]

theorem paths_documentPlan (s : Settings) (fs : FileSystem) :
    (s.documentPlan fs).paths = s.document.included.filter fs.exists? :=
  filterMap_path?_make fs [s.document.tomlFile, s.document.todoFile, s.document.mermaidFile]

/-- A document depends only on the texts of the files that were settled when its reader was made and
it was planned. Whatever else is put into the file system later contributes nothing. -/
theorem document_depends_on_settled_paths {opened planned : FileSystem} {finder : Finder}
    {name : Text} {options : OutlineOptions}
    (hopen : Reader.make opened finder name options = .ok r) (s : Settings) :
    let plan := s.documentPlan planned
    let settled := r.target.paths ++ s.document.included.filter planned.exists?
    (∀ fs₁ fs₂ : FileSystem, (∀ p ∈ settled, fs₁.read p = fs₂.read p) →
      plan.document fs₁ r = plan.document fs₂ r ∧
      ∀ p order, r.target = .package p → r.resultIn fs₁ p order = r.resultIn fs₂ p order) ∧
    (∀ fs₁ fs₂ : FileSystem, fs₁.KeptIn fs₂ → (∀ p ∈ settled, fs₁.exists? p = true) →
      plan.document fs₁ r = plan.document fs₂ r) ∧
    (opened.IsNamed → ∀ fs₁ fs₂ : FileSystem, opened.KeptIn fs₁ → planned.KeptIn fs₁ →
      opened.KeptIn fs₂ → planned.KeptIn fs₂ → plan.document fs₁ r = plan.document fs₂ r) := by
  intro plan settled
  have hdocument : ∀ fs₁ fs₂ : FileSystem, (∀ p ∈ settled, fs₁.read p = fs₂.read p) →
      plan.document fs₁ r = plan.document fs₂ r := by
    intro fs₁ fs₂ h
    apply document_congr
    rw [paths_documentPlan]
    exact h
  refine ⟨?_, ?_, ?_⟩
  · intro fs₁ fs₂ h
    refine ⟨hdocument fs₁ fs₂ h, ?_⟩
    intro p order htarget
    have hfiles : ∀ q ∈ p.files, fs₁.read q = fs₂.read q := by
      intro q hq
      apply h
      rw [List.mem_append, htarget]
      exact Or.inl (List.mem_append_left _ hq)
    unfold Reader.resultIn
    rw [Reader.outcomes_congr hfiles]
  · intro fs₁ fs₂ hkept hexists
    exact hdocument fs₁ fs₂ fun p hp => (hkept.read_eq (Or.inl (hexists p hp))).symm
  · intro hnamed fs₁ fs₂ hopened₁ hplanned₁ hopened₂ hplanned₂
    apply hdocument
    intro p hp
    rcases List.mem_append.1 hp with hp | hp
    · have hsettled := Finder.isSettled_of_resolve hnamed (Reader.target_of_make hopen) p hp
      rw [hopened₁.read_eq hsettled, hopened₂.read_eq hsettled]
    · have hsettled : planned.IsSettled p := Or.inl (List.mem_filter.1 hp).2
      rw [hplanned₁.read_eq hsettled, hplanned₂.read_eq hsettled]

/-- A module and a list of things to do come too late for a reader and a plan, and the plan leaves
the list out that a later plan has in it. -/
theorem document_depends_on_settled_paths_late_files :
    let fs : FileSystem := ⟨[(["p".toList], .directory),
      (["p".toList, "__init__.py".toList], .file (.text "'m'\ndef f(): 'd'\n"))], [], by decide⟩
    let late := (fs.set ["p".toList, "a.py".toList] (.file (.text "def a(): pass\n"))).set
      ["todo".toList] (.file (.text "- all of it"))
    let s : Settings := { document := { todoFile := some ⟨"todo"⟩ } }
    let r : Reader := ⟨"p", .package ⟨⟨"./p"⟩, some ⟨"./p/__init__.py"⟩, [⟨"./p/__init__.py"⟩]⟩,
      ⟨false, true, .pre⟩⟩
    Reader.make fs ⟨[⟨"."⟩], []⟩ "p" ⟨false, true, .pre⟩ = .ok r ∧ fs.IsNamed ∧ fs.KeptIn late ∧
    (s.documentPlan fs).document fs r = (s.documentPlan fs).document late r ∧
    ((s.documentPlan fs).document late r).run.value ≠
      ((s.documentPlan late).document late r).run.value := by
  intro fs late s r
  have hopen : Reader.make fs ⟨[⟨"."⟩], []⟩ "p" ⟨false, true, .pre⟩ = .ok r := by decide +kernel
  have hnamed : fs.IsNamed := by
    unfold FileSystem.IsNamed
    decide +kernel
  have hkept : fs.KeptIn late :=
    (FileSystem.keptIn_set (by decide +kernel) _).trans
      (FileSystem.keptIn_set (by decide +kernel) _)
  have hself := FileSystem.keptIn_refl fs
  exact ⟨hopen, hnamed, hkept,
    (document_depends_on_settled_paths hopen s).2.2 hnamed fs late hself hself hkept hkept,
    by decide +kernel⟩

end DocumentPlan

end DocOutline
