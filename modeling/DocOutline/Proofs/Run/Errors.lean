import DocOutline.Proofs.Document.Paths
import DocOutline.Proofs.Package.Roots
import DocOutline.Run

/-!
# Errors on the way to a document

Settings that were checked can no longer be at fault: from there on, a target is not found or a file
cannot be used (`status_of_prepare_error`, and `DocumentPlan.stays_making` once the target is
found).
-/

namespace DocOutline

/-! ## Finding the target -/

namespace Finder

theorem package_error {f : Finder} {fs : FileSystem} {root : Path} {e : Error}
    (h : f.package fs root = .error e) : e.IsOfFile := by
  obtain ⟨cause, rfl, -⟩ := package_eq_error h
  rfl

theorem resolve_error {f : Finder} {fs : FileSystem} {target : Text} {e : Error}
    (h : f.resolve fs target = .error e) : e = .moduleNotFound target ∨ e.IsOfFile := by
  unfold resolve at h
  split at h
  · split at h
    · cases h
    · cases h
      exact Or.inl rfl
  · split at h
    · exact Or.inr (package_error h)
    · dsimp only at h
      split at h
      · exact Or.inr (package_error h)
      · split at h
        · cases h
        · cases h
          exact Or.inl rfl

end Finder

/-! ## Settings -/

namespace Settings

variable {s : Settings}

/-- What the check of the settings accepts. -/
theorem validate_eq_ok : s.validate = .ok () ↔
    logLevels.contains s.log.level.lower = true ∧
      (∃ patterns, Finder.parsePatterns s.search.exclude = .ok patterns) ∧
      overwritesToml s.document = false := by
  unfold validate
  by_cases hlevel : logLevels.contains s.log.level.lower = true
  · rw [if_neg (by rw [hlevel]; decide)]
    cases hpatterns : Finder.parsePatterns s.search.exclude with
    | error cause => exact ⟨nofun, nofun⟩
    | ok patterns =>
      cases overwritesToml s.document with
      | true => exact ⟨nofun, nofun⟩
      | false => exact ⟨fun _ => ⟨hlevel, ⟨patterns, rfl⟩, rfl⟩, fun _ => rfl⟩
  · rw [if_pos (by simpa using hlevel)]
    exact ⟨nofun, fun h => absurd h.1 hlevel⟩

theorem exists_finder (h : s.validate = .ok ()) : ∃ f, s.finder = .ok f := by
  obtain ⟨-, ⟨patterns, hpatterns⟩, -⟩ := validate_eq_ok.1 h
  refine ⟨⟨⟨"."⟩ :: s.search.paths, patterns⟩, ?_⟩
  unfold finder Finder.make
  rw [hpatterns]

end Settings

theorem Reader.make_error {fs : FileSystem} {finder : Finder} {name : Text}
    {options : OutlineOptions} {e : Error} (h : Reader.make fs finder name options = .error e) :
    e = .moduleNotFound name ∨ e.IsOfFile := by
  unfold Reader.make at h
  split at h
  · next hresolve =>
    cases h
    exact Finder.resolve_error hresolve
  · cases h

namespace Run

theorem prepare_eq_ok {fs : FileSystem} {s : Settings} {target : Text} {plan : DocumentPlan}
    {reader : Reader} : prepare fs s target = .ok (plan, reader) ↔
      plan = s.documentPlan fs ∧ ∃ finder, s.finder = .ok finder ∧
        Reader.make fs finder target s.outlineOptions = .ok reader := by
  unfold prepare
  simp only [bind_eq_ok]
  constructor
  · rintro ⟨finder, hfinder, reader, hreader, hpair⟩
    cases hpair
    exact ⟨rfl, finder, hfinder, hreader⟩
  · rintro ⟨rfl, finder, hfinder, hreader⟩
    exact ⟨finder, hfinder, reader, hreader, rfl⟩

/-- With good settings, the target is at fault or a directory that cannot be listed. -/
theorem status_of_prepare_error {fs : FileSystem} {s : Settings} {target : Text} {e : Error}
    (hvalid : s.validate = .ok ()) (h : prepare fs s target = .error e) :
    e.status = .notFound ∨ e.status = .ioFailure := by
  obtain ⟨finder, hfinder⟩ := Settings.exists_finder hvalid
  have hbind : (Reader.make fs finder target s.outlineOptions >>= fun reader =>
      Except.ok (s.documentPlan fs, reader)) = .error e := by
    unfold prepare at h
    rw [hfinder] at h
    exact h
  cases hreader : Reader.make fs finder target s.outlineOptions with
  | ok reader =>
    rw [hreader] at hbind
    cases hbind
  | error cause =>
    rw [hreader] at hbind
    cases hbind
    rcases Reader.make_error hreader with rfl | hfile
    · exact Or.inl rfl
    · exact Or.inr hfile

end Run

end DocOutline
