import DocOutline.Proofs.FileSystem.Listing
import DocOutline.Proofs.FileSystem.Writing

/-!
# File systems that grow

What a path leads to does not change when more is put into a file system (`KeptIn.status_eq`). What
is listed in a directory can be looked up there, or its path is too long for any file system
(`isSettled_of_mem_members`), so it reads the same from then on.
-/

namespace DocOutline

namespace FileSystem

variable {fs fs' fs'' : FileSystem} {loc : Location} {e : FileEntry} {p : Path}

/-! ## More entries -/

/-- Everything in a file system is still there in another one, which may have more. -/
structure KeptIn (fs fs' : FileSystem) : Prop where
  here : fs'.here = fs.here
  entry : ∀ loc e, fs.entry? loc = some e → fs'.entry? loc = some e

theorem keptIn_refl (fs : FileSystem) : fs.KeptIn fs := ⟨rfl, fun _ _ h => h⟩

theorem KeptIn.trans (h : fs.KeptIn fs') (h' : fs'.KeptIn fs'') : fs.KeptIn fs'' :=
  ⟨h'.here.trans h.here, fun loc e he => h'.entry loc e (h.entry loc e he)⟩

theorem keptIn_set (hfree : fs.entry? loc = none) (e : FileEntry) : fs.KeptIn (fs.set loc e) where
  here := rfl
  entry := by
    intro l e' he'
    have hne : l ≠ loc := by
      rintro rfl
      cases hfree.symm.trans he'
    rw [entry?_set_of_ne hne, he']

section Walk

variable {expand expand' : Location → List Text → Except FileError Found} {d : Location}
  {ns : List Text}

theorem KeptIn.walk_eq (h : fs.KeptIn fs')
    (hexpand : ∀ d ns, expand d ns = .ok ⟨loc, some e⟩ → expand' d ns = .ok ⟨loc, some e⟩)
    (hwalk : fs.walk .target expand d ns = .ok ⟨loc, some e⟩) :
    fs'.walk .target expand' d ns = .ok ⟨loc, some e⟩ := by
  induction ns generalizing d with
  | nil => exact hwalk
  | cons m rest ih =>
    cases step_of_walk hwalk with
    | skip hskip hrest =>
      rw [hskip]
      exact ih hrest
    | directory hm hentry hrest =>
      rw [walk_directory hm (h.entry _ _ hentry)]
      exact ih hrest
    | link target hm hentry hrest =>
      rw [if_neg (by simp)] at hrest
      rw [walk_link hm (h.entry _ _ hentry), if_neg (by simp)]
      exact hexpand _ _ hrest
    | file hm htakes hend hfound =>
      subst hend
      obtain ⟨rfl, hentry⟩ := Found.mk.inj hfound
      have hkept := (h.entry _ _ hentry.symm).trans hentry
      rw [walk_takesFile hm (htakes.congr hkept), hkept, hentry]

theorem KeptIn.walkLinks_eq (h : fs.KeptIn fs') {k : Nat}
    (hwalk : fs.walkLinks .target k d ns = .ok ⟨loc, some e⟩) :
    fs'.walkLinks .target k d ns = .ok ⟨loc, some e⟩ := by
  induction k generalizing d ns with
  | zero =>
    rw [walkLinks] at hwalk ⊢
    refine h.walk_eq ?_ hwalk
    intro d ns hexpand
    cases hexpand
  | succ k ih =>
    rw [walkLinks] at hwalk ⊢
    exact h.walk_eq (fun _ _ hexpand => ih hexpand) hwalk

end Walk

theorem KeptIn.status_eq (h : fs.KeptIn fs') (hstatus : fs.status .target p = .ok (loc, e)) :
    fs'.status .target p = .ok (loc, e) := by
  have hfind := find_of_status hstatus
  have hp := isUsable_of_find hfind
  rw [find_eq_walkLinks hp, ← h.here] at hfind
  have hfind' := h.walkLinks_eq hfind
  rw [← find_eq_walkLinks hp] at hfind'
  exact status_of_find hfind'

theorem exists_iff : fs.exists? p = true ↔ ∃ loc e, fs.status .target p = .ok (loc, e) := by
  unfold exists?
  cases fs.status .target p with
  | error cause => exact ⟨nofun, nofun⟩
  | ok found => exact ⟨fun _ => ⟨found.1, found.2, rfl⟩, fun _ => rfl⟩

/-! ## Paths that are settled -/

/-- A path leads to something, or it is too long to lead anywhere. -/
def IsSettled (fs : FileSystem) (p : Path) : Prop :=
  fs.exists? p = true ∨ maxPath ≤ Text.byteSize p.text

theorem status_of_long (hlong : maxPath ≤ Text.byteSize p.text) (fs fs' : FileSystem) :
    fs'.status .target p = fs.status .target p := by
  unfold status find
  rw [if_pos hlong, if_pos hlong]

theorem KeptIn.read_eq (h : fs.KeptIn fs') (hp : fs.IsSettled p) : fs'.read p = fs.read p := by
  have hstatus : fs'.status .target p = fs.status .target p := by
    rcases hp with hexists | hlong
    · obtain ⟨loc, e, hstatus⟩ := exists_iff.1 hexists
      rw [hstatus, h.status_eq hstatus]
    · exact status_of_long hlong fs fs'
  unfold read
  rw [hstatus]

theorem isSettled_of_isFile (h : fs.isFile p = true) : fs.IsSettled p := by
  obtain ⟨loc, c, hstatus⟩ := exists_status_of_isFile h
  exact Or.inl (exists_iff.2 ⟨loc, .file c, hstatus⟩)

/-- Every name in a file system is one that can be looked up. -/
def IsNamed (fs : FileSystem) : Prop :=
  ∀ e ∈ fs.entries, ∀ n ∈ e.1, Path.isName n = true ∧ Text.byteSize n ≤ maxName

theorem listedStatus_eq_ok {purpose : Purpose} {found : Location × FileEntry}
    (h : fs.listedStatus purpose p = .ok found) : fs.status purpose p = .ok found := by
  unfold listedStatus at h
  split at h
  · cases h
  · next hstatus =>
    cases h
    exact hstatus

section Members

variable {dir : Path} {n : Text} {m : Member}

/-- A member is listed under its name and at its place in the directory. -/
theorem eq_of_member (h : fs.member dir loc n = .ok m) : m = ⟨n, dir.child n, m.isDirectory⟩ := by
  unfold member at h
  split at h
  · obtain ⟨⟨target, entry⟩, -, h⟩ := bind_eq_ok.1 h
    dsimp only at h
    split at h
    · cases h
    · cases h
      rfl
  · obtain ⟨found, -, h⟩ := bind_eq_ok.1 h
    cases h
    rfl
  · cases h
    rfl

theorem path_of_member (h : fs.member dir loc n = .ok m) : m.path = dir.child n := by
  rw [eq_of_member h]

/-- A link or directory is looked up when it is listed. -/
theorem exists_of_member (h : fs.member dir loc n = .ok m)
    (htakes : ¬fs.TakesFile (loc ++ [n])) : fs.exists? (dir.child n) = true := by
  unfold member at h
  split at h
  · obtain ⟨found, hfound, -⟩ := bind_eq_ok.1 h
    exact exists_iff.2 ⟨found.1, found.2, listedStatus_eq_ok hfound⟩
  · obtain ⟨found, hfound, -⟩ := bind_eq_ok.1 h
    exact exists_iff.2 ⟨found.1, found.2, listedStatus_eq_ok hfound⟩
  · next hlink hdirectory =>
    exact absurd ⟨hdirectory, hlink⟩ htakes

theorem isSettled_of_mem_members (hnamed : fs.IsNamed) {ms : List Member}
    (h : fs.members dir = .ok ms) (hm : m ∈ ms) : fs.IsSettled m.path := by
  unfold members at h
  obtain ⟨-, -, h⟩ := bind_eq_ok.1 h
  obtain ⟨⟨loc, entry⟩, hdir, h⟩ := bind_eq_ok.1 h
  split at h
  · next hfound =>
    cases hfound
    obtain ⟨n, hn, hmember⟩ := exists_of_mem_mapM h hm
    obtain ⟨e, he⟩ := Option.ne_none_iff_exists'.1 (mem_names.1 hn)
    rw [path_of_member hmember]
    by_cases htakes : fs.TakesFile (loc ++ [n])
    · obtain ⟨hname, hsize⟩ := hnamed _ (mem_entries_of_eq (by simp) he) n (by simp)
      by_cases hlong : maxPath ≤ Text.byteSize (dir.child n).text
      · exact Or.inr hlong
      · have hfind := find_child hname hsize htakes.ne_link (Nat.lt_of_not_le hlong)
          (find_of_status (listedStatus_eq_ok hdir))
        rw [he] at hfind
        exact Or.inl (exists_iff.2 ⟨_, e, status_of_find hfind⟩)
    · exact Or.inl (exists_of_member hmember htakes)
  · cases h
    cases hm

end Members

end FileSystem

end DocOutline
