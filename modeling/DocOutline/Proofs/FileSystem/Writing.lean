import DocOutline.FileRef
import DocOutline.Proofs.FileSystem.Lookup

/-!
# Writing to files

A file is only written to where nothing stands yet, or a file or device. Walks end there or fail,
so after the writing every path leads where it led before (`Rewritten.find_eq`), and other files
read as before (`Rewritten.read_eq`).
-/

namespace DocOutline

namespace FileSystem

variable {fs fs' fs'' : FileSystem} {loc l : Location}

/-! ## Entries -/

theorem entry?_set_self (hloc : loc ≠ []) (e : FileEntry) :
    entry? (fs.set loc e) loc = some e := by
  unfold entry? set
  rw [if_neg hloc, List.lookup_cons_self]

theorem lookup_filter_ne (hne : l ≠ loc) (entries : List (Location × FileEntry)) :
    (entries.filter (·.1 ≠ loc)).lookup l = entries.lookup l := by
  induction entries with
  | nil => rfl
  | cons x entries ih =>
    obtain ⟨k, e⟩ := x
    by_cases hk : k = loc
    · have hlk : (l == k) = false := by simpa [hk] using hne
      rw [List.filter_cons_of_neg (by simpa using hk), ih, List.lookup_cons, hlk]
    · rw [List.filter_cons_of_pos (by simpa using hk), List.lookup_cons, List.lookup_cons, ih]

theorem entry?_set_of_ne (hne : l ≠ loc) (e : FileEntry) :
    entry? (fs.set loc e) l = fs.entry? l := by
  have hlookup : (fs.set loc e).entries.lookup l = fs.entries.lookup l := by
    change ((loc, e) :: fs.elsewhere loc).lookup l = _
    rw [List.lookup_cons, beq_false_of_ne hne]
    exact lookup_filter_ne hne fs.entries
  unfold entry?
  rw [hlookup]

/-- A file can be written to: nothing stands at the location, or a file or device. -/
structure TakesFile (fs : FileSystem) (loc : Location) : Prop where
  ne_directory : fs.entry? loc ≠ some .directory
  ne_link : ∀ target, fs.entry? loc ≠ some (.link target)

theorem entry_cases (fs : FileSystem) (loc : Location) :
    fs.entry? loc = some .directory ∨ (∃ target, fs.entry? loc = some (.link target)) ∨
      fs.TakesFile loc := by
  by_cases hdirectory : fs.entry? loc = some .directory
  · exact Or.inl hdirectory
  · by_cases hlink : ∃ target, fs.entry? loc = some (.link target)
    · exact Or.inr (Or.inl hlink)
    · exact Or.inr (Or.inr ⟨hdirectory, fun target h => hlink ⟨target, h⟩⟩)

theorem TakesFile.ne_nil (h : fs.TakesFile loc) : loc ≠ [] := by
  rintro rfl
  exact h.ne_directory (if_pos rfl)

theorem TakesFile.congr (h : fs.TakesFile loc) (hentry : fs'.entry? loc = fs.entry? loc) :
    fs'.TakesFile loc := by
  refine ⟨?_, ?_⟩
  · rw [hentry]
    exact h.ne_directory
  · intro target
    rw [hentry]
    exact h.ne_link target

theorem takesFile_of_eq {entry : Option FileEntry} (hentry : fs.entry? loc = entry)
    (hdirectory : entry ≠ some .directory) (hlink : ∀ target, entry ≠ some (.link target)) :
    fs.TakesFile loc := by
  subst hentry
  exact ⟨hdirectory, hlink⟩

/-! ## Changes that leave all ways as they are -/

/-- Files were written to, at most those at the given locations. -/
structure Rewritten (files : List Location) (fs fs' : FileSystem) : Prop where
  here : fs'.here = fs.here
  elsewhere : ∀ loc ∉ files, fs'.entry? loc = fs.entry? loc
  before : ∀ loc ∈ files, fs.TakesFile loc
  after : ∀ loc ∈ files, fs'.TakesFile loc

namespace Rewritten

variable {files more : List Location}

theorem nil (fs : FileSystem) : Rewritten [] fs fs :=
  ⟨rfl, fun _ _ => rfl, nofun, nofun⟩

theorem symm (h : Rewritten files fs fs') : Rewritten files fs' fs :=
  ⟨h.here.symm, fun loc hloc => (h.elsewhere loc hloc).symm, h.after, h.before⟩

theorem takesFile (h : Rewritten files fs fs') (hloc : fs.TakesFile loc) : fs'.TakesFile loc := by
  by_cases hmem : loc ∈ files
  · exact h.after loc hmem
  · exact hloc.congr (h.elsewhere loc hmem)

theorem entry?_eq (h : Rewritten files fs fs') (hloc : ¬fs.TakesFile loc) :
    fs'.entry? loc = fs.entry? loc := by
  apply h.elsewhere
  intro hmem
  exact hloc (h.before loc hmem)

theorem mono (h : Rewritten files fs fs') (hfiles : ∀ loc ∈ files, loc ∈ more)
    (hmore : ∀ loc ∈ more, fs.TakesFile loc) : Rewritten more fs fs' where
  here := h.here
  elsewhere := by
    intro loc hloc
    apply h.elsewhere
    intro hmem
    exact hloc (hfiles loc hmem)
  before := hmore
  after := fun loc hloc => h.takesFile (hmore loc hloc)

theorem trans (h : Rewritten files fs fs') (h' : Rewritten files fs' fs'') :
    Rewritten files fs fs'' where
  here := h'.here.trans h.here
  elsewhere := fun loc hloc => (h'.elsewhere loc hloc).trans (h.elsewhere loc hloc)
  before := h.before
  after := h'.after

theorem append (h : Rewritten files fs fs') (h' : Rewritten more fs' fs'') :
    Rewritten (files ++ more) fs fs'' := by
  have hbefore : ∀ loc ∈ files ++ more, fs.TakesFile loc := by
    intro loc hloc
    rcases List.mem_append.1 hloc with hmem | hmem
    · exact h.before loc hmem
    · exact h.symm.takesFile (h'.before loc hmem)
  have hfirst := h.mono (fun _ => List.mem_append_left more) hbefore
  exact hfirst.trans (h'.mono (fun _ => List.mem_append_right files) hfirst.after)

theorem set (hloc : fs.TakesFile loc) (c : Content) :
    Rewritten [loc] fs (fs.set loc (.file c)) where
  here := rfl
  elsewhere := fun _ hl => entry?_set_of_ne (by simpa using hl) _
  before := by
    intro l hl
    rwa [List.mem_singleton.1 hl]
  after := by
    intro l hl
    rw [List.mem_singleton.1 hl]
    exact takesFile_of_eq (entry?_set_self hloc.ne_nil _) nofun nofun

theorem singleton (hloc : fs.TakesFile loc) : Rewritten [loc] fs fs :=
  (nil fs).mono nofun (by simpa using hloc)

end Rewritten

/-! ## Lookups -/

section Walk

variable {purpose : Purpose} {expand expand' : Location → List Text → Except FileError Found}
  {d : Location} {m : Text} {ns rest : List Text} {found : Found}

theorem walk_takesFile (hm : IsNext purpose m []) (hloc : fs.TakesFile (d ++ [m])) :
    fs.walk purpose expand d [m] = .ok ⟨d ++ [m], fs.entry? (d ++ [m])⟩ := by
  cases hentry : fs.entry? (d ++ [m]) with
  | none => exact walk_free hm hentry
  | some e =>
    refine walk_leaf hm hentry ?_ ?_
    · rintro rfl
      exact hloc.ne_directory hentry
    · rintro target rfl
      exact hloc.ne_link target hentry

theorem walk_through_takesFile (hm : IsNext purpose m rest) (hloc : fs.TakesFile (d ++ [m]))
    (hrest : rest ≠ []) : ∃ cause, fs.walk purpose expand d (m :: rest) = .error cause := by
  have hempty : ¬rest.isEmpty = true := by simpa using hrest
  cases hentry : fs.entry? (d ++ [m]) with
  | none => exact ⟨.notFound, by rw [walk_free hm hentry, if_neg hempty]⟩
  | some e =>
    refine ⟨.notDirectory, ?_⟩
    rw [walk_leaf hm hentry ?_ ?_, if_neg hempty]
    · rintro rfl
      exact hloc.ne_directory hentry
    · rintro target rfl
      exact hloc.ne_link target hentry

/-- How a walk that leads somewhere deals with its first piece. -/
inductive Step (fs : FileSystem) (purpose : Purpose)
    (expand : Location → List Text → Except FileError Found) (d : Location) (m : Text)
    (rest : List Text) (found : Found) : Prop where
  | skip
    (hskip : ∀ (fs : FileSystem) purpose expand rest,
      fs.walk purpose expand d (m :: rest) = fs.walk purpose expand (enter d m) rest)
    (hrest : fs.walk purpose expand (enter d m) rest = .ok found)
  | directory (hm : IsNext purpose m rest) (hentry : fs.entry? (d ++ [m]) = some .directory)
    (hrest : fs.walk purpose expand (d ++ [m]) rest = .ok found)
  | link (target : Path) (hm : IsNext purpose m rest)
    (hentry : fs.entry? (d ++ [m]) = some (.link target))
    (hrest : (if rest.isEmpty && purpose = .entry then .ok ⟨d ++ [m], some (.link target)⟩
      else expand (if target.isAbsolute then [] else d) (target.pieces ++ rest)) = .ok found)
  | file (hm : IsNext purpose m rest) (htakes : fs.TakesFile (d ++ [m])) (hend : rest = [])
    (hfound : found = ⟨d ++ [m], fs.entry? (d ++ [m])⟩)

theorem step_of_walk (hwalk : fs.walk purpose expand d (m :: rest) = .ok found) :
    Step fs purpose expand d m rest found := by
  rcases piece_cases d m with hskip | herror | ⟨-, hnext⟩
  · exact .skip hskip (by rw [← hskip, hwalk])
  · obtain ⟨cause, hcause⟩ := herror purpose rest
    rw [hcause] at hwalk
    cases hwalk
  rcases hnext purpose rest with hm | hcause
  · rcases fs.entry_cases (d ++ [m]) with hdirectory | ⟨target, hlink⟩ | htakes
    · exact .directory hm hdirectory (by rw [← walk_directory hm hdirectory, hwalk])
    · exact .link target hm hlink (by rw [← walk_link hm hlink, hwalk])
    · by_cases hend : rest = []
      · subst hend
        rw [walk_takesFile hm htakes] at hwalk
        exact .file hm htakes rfl (Except.ok.inj hwalk).symm
      · obtain ⟨cause, hcause⟩ := walk_through_takesFile hm htakes hend
        rw [hcause] at hwalk
        cases hwalk
  · rw [hcause] at hwalk
    cases hwalk

/-- What a walk in one file system finds, seen in another one. -/
def seenIn (fs : FileSystem) (found : Found) : Found :=
  ⟨found.location,
    if found.entry = some .directory then found.entry else fs.entry? found.location⟩

theorem Rewritten.walk_eq {files : List Location} (h : Rewritten files fs fs')
    (hexpand : ∀ d ns found, expand d ns = .ok found → expand' d ns = .ok (fs'.seenIn found))
    (hwalk : fs.walk purpose expand d ns = .ok found) :
    fs'.walk purpose expand' d ns = .ok (fs'.seenIn found) := by
  induction ns generalizing d with
  | nil =>
    rw [walk] at hwalk ⊢
    cases hwalk
    rfl
  | cons m rest ih =>
    cases step_of_walk hwalk with
    | skip hskip hrest =>
      rw [hskip]
      exact ih hrest
    | directory hm hentry hrest =>
      -- A directory or link is no file that was written to, so it is still there.
      have hkept := h.entry?_eq (fun ht => ht.ne_directory hentry)
      rw [walk_directory hm (hkept.trans hentry)]
      exact ih hrest
    | link target hm hentry hrest =>
      have hkept := h.entry?_eq (fun ht => ht.ne_link target hentry)
      rw [walk_link hm (hkept.trans hentry)]
      split
      · next hend =>
        rw [if_pos hend] at hrest
        cases hrest
        unfold seenIn
        rw [if_neg (by simp), hkept, hentry]
      · next hend =>
        rw [if_neg hend] at hrest
        exact hexpand _ _ _ hrest
    | file hm htakes hend hfound =>
      subst hend hfound
      rw [walk_takesFile hm (h.takesFile htakes)]
      unfold seenIn
      rw [if_neg htakes.ne_directory]

theorem walk_target_of_writing
    (hexpand : ∀ d ns found, expand d ns = .ok found → expand' d ns = .ok found)
    (hwalk : fs.walk .writing expand d ns = .ok found) :
    fs.walk .target expand' d ns = .ok found := by
  induction ns generalizing d with
  | nil => exact hwalk
  | cons m rest ih =>
    have hnext : IsNext .writing m rest → IsNext .target m rest :=
      fun hm => hm.toIsLookedUp.isNext (by decide) rest
    cases step_of_walk hwalk with
    | skip hskip hrest =>
      rw [hskip]
      exact ih hrest
    | directory hm hentry hrest =>
      rw [walk_directory (hnext hm) hentry]
      exact ih hrest
    | link target hm hentry hrest =>
      rw [if_neg (by simp)] at hrest
      rw [walk_link (hnext hm) hentry, if_neg (by simp)]
      exact hexpand _ _ _ hrest
    | file hm htakes hend hfound =>
      subst hend hfound
      exact walk_takesFile (hnext hm) htakes

theorem Rewritten.walkLinks_eq {files : List Location} (h : Rewritten files fs fs') {k : Nat}
    (hwalk : fs.walkLinks purpose k d ns = .ok found) :
    fs'.walkLinks purpose k d ns = .ok (fs'.seenIn found) := by
  induction k generalizing d ns found with
  | zero =>
    rw [walkLinks] at hwalk ⊢
    refine h.walk_eq ?_ hwalk
    intro d ns found hexpand
    cases hexpand
  | succ k ih =>
    rw [walkLinks] at hwalk ⊢
    exact h.walk_eq (fun _ _ _ hexpand => ih hexpand) hwalk

theorem walkLinks_target_of_writing {k : Nat}
    (hwalk : fs.walkLinks .writing k d ns = .ok found) :
    fs.walkLinks .target k d ns = .ok found := by
  induction k generalizing d ns found with
  | zero =>
    rw [walkLinks] at hwalk ⊢
    refine walk_target_of_writing ?_ hwalk
    intro d ns found hexpand
    cases hexpand
  | succ k ih =>
    rw [walkLinks] at hwalk ⊢
    exact walk_target_of_writing (fun _ _ _ hexpand => ih hexpand) hwalk

end Walk

section Find

variable {purpose : Purpose} {p : Path} {found : Found} {files : List Location}

/-- After files were written to, every path leads where it led before. -/
theorem Rewritten.find_eq (h : Rewritten files fs fs') (hfind : fs.find purpose p = .ok found) :
    fs'.find purpose p = .ok (fs'.seenIn found) := by
  have hp := isUsable_of_find hfind
  rw [find_eq_walkLinks hp] at hfind ⊢
  rw [h.here]
  exact h.walkLinks_eq hfind

theorem find_target_of_writing (hfind : fs.find .writing p = .ok found) :
    fs.find .target p = .ok found := by
  have hp := isUsable_of_find hfind
  rw [find_eq_walkLinks hp] at hfind ⊢
  exact walkLinks_target_of_writing hfind

theorem entry?_of_find {entry : Option FileEntry} (hfind : fs.find purpose p = .ok ⟨loc, entry⟩)
    (hentry : entry ≠ some .directory) : fs.entry? loc = entry := by
  have hseen := (Rewritten.nil fs).find_eq hfind
  unfold seenIn at hseen
  rw [hfind, if_neg hentry, Except.ok.injEq, Found.mk.injEq] at hseen
  exact hseen.2.symm

theorem read_of_find {t : Text} (hfind : fs.find .target p = .ok ⟨loc, some (.file (.text t))⟩) :
    fs.read p = .ok t := by
  unfold read
  rw [status_of_find hfind]
  rfl

theorem seenIn_of_takesFile (hloc : fs.TakesFile loc) :
    fs'.seenIn ⟨loc, fs.entry? loc⟩ = ⟨loc, fs'.entry? loc⟩ := by
  unfold seenIn
  rw [if_neg hloc.ne_directory]

/-- A path to a file still leads to it, whatever was written there. -/
theorem Rewritten.find_file {c : Content} (h : Rewritten files fs fs')
    (hfind : fs.find .target p = .ok ⟨loc, some (.file c)⟩) :
    fs'.find .target p = .ok ⟨loc, fs'.entry? loc⟩ := by
  have hentry := entry?_of_find hfind nofun
  have htakes := takesFile_of_eq hentry nofun nofun
  rw [← hentry] at hfind
  rw [h.find_eq hfind, seenIn_of_takesFile htakes]

theorem Rewritten.read_eq {c : Content} (h : Rewritten files fs fs')
    (hfind : fs.find .target p = .ok ⟨loc, some (.file c)⟩) (hloc : loc ∉ files) :
    fs'.read p = fs.read p := by
  have hstatus : fs'.status .target p = fs.status .target p := by
    rw [status_of_find hfind, status_of_find (h.find_file hfind), h.elsewhere loc hloc,
      entry?_of_find hfind nofun]
  unfold read
  rw [hstatus]

end Find

/-! ## Opening and adding -/

/-- The file that a path opens for writing. -/
def fileFor? (fs : FileSystem) (p : Path) : Option Location :=
  (fs.openForWriting false p).toOption.map Prod.snd

/-- A text written to the location can be read there: nothing stands there, or a regular file. -/
def IsRegularOrNew (fs : FileSystem) (loc : Location) : Prop :=
  fs.entry? loc = none ∨ ∃ c, fs.entry? loc = some (.file c)

theorem IsRegularOrNew.congr (h : fs.IsRegularOrNew loc) (hentry : fs'.entry? loc = fs.entry? loc) :
    fs'.IsRegularOrNew loc := by
  unfold IsRegularOrNew at h ⊢
  rwa [hentry]

theorem not_isRegularOrNew {e : FileEntry} (hentry : fs.entry? loc = some e)
    (he : ∀ c, e ≠ .file c) : ¬fs.IsRegularOrNew loc := by
  rintro (hnone | ⟨c, hfile⟩)
  · cases hentry.symm.trans hnone
  · exact he c (Option.some.inj (hentry.symm.trans hfile))

section Opening

variable {p : Path} {truncate : Bool} {opened : FileSystem} {t : Text} {files : List Location}

/-- What opening a file for writing does. -/
structure Opens (fs : FileSystem) (truncate : Bool) (p : Path) (opened : FileSystem)
    (loc : Location) : Prop where
  found : fs.find .writing p = .ok ⟨loc, fs.entry? loc⟩
  rewritten : Rewritten [loc] fs opened
  emptied : truncate = true → fs.IsRegularOrNew loc → opened.entry? loc = some (.file (.text []))

theorem Opens.takesFile (h : Opens fs truncate p opened loc) : fs.TakesFile loc :=
  h.rewritten.before loc List.mem_cons_self

theorem opens_set (hfind : fs.find .writing p = .ok ⟨loc, fs.entry? loc⟩)
    (htakes : fs.TakesFile loc) : Opens fs truncate p (fs.set loc (.file (.text []))) loc :=
  ⟨hfind, .set htakes _, fun _ _ => entry?_set_self htakes.ne_nil _⟩

theorem opens_self (hfind : fs.find .writing p = .ok ⟨loc, fs.entry? loc⟩)
    (htakes : fs.TakesFile loc) (hkept : truncate = true → ¬fs.IsRegularOrNew loc) :
    Opens fs truncate p fs loc :=
  ⟨hfind, .singleton htakes, fun ht hregular => absurd hregular (hkept ht)⟩

theorem openForWriting_cases (fs : FileSystem) (truncate : Bool) (p : Path) :
    ((∃ cause, fs.openForWriting truncate p = .error cause) ∧
      ∀ loc, fs.find .writing p = .ok ⟨loc, fs.entry? loc⟩ → ¬fs.TakesFile loc) ∨
    ∃ opened loc, fs.openForWriting truncate p = .ok (opened, loc) ∧
      Opens fs truncate p opened loc := by
  unfold openForWriting
  cases hfind : fs.find .writing p with
  | error cause => exact Or.inl ⟨⟨cause, rfl⟩, nofun⟩
  | ok found =>
    obtain ⟨loc, entry⟩ := found
    have hother : ∀ l, Except.ok (ε := FileError) (Found.mk loc entry) = .ok ⟨l, fs.entry? l⟩ →
        fs.entry? l = entry := by
      intro l hl
      rw [Except.ok.injEq, Found.mk.injEq] at hl
      exact hl.2.symm
    have hentry : entry ≠ some .directory → fs.entry? loc = entry := entry?_of_find hfind
    cases entry with
    | none =>
      have hfree := hentry nofun
      have htakes := takesFile_of_eq hfree nofun nofun
      exact Or.inr ⟨_, loc, rfl, opens_set (by rw [hfind, hfree]) htakes⟩
    | some e =>
      cases e with
      | directory => exact Or.inl ⟨⟨_, rfl⟩, fun l hl htakes => htakes.ne_directory (hother l hl)⟩
      | link target => exact Or.inl ⟨⟨_, rfl⟩, fun l hl htakes => htakes.ne_link _ (hother l hl)⟩
      | file c =>
        have hfile := hentry nofun
        have htakes := takesFile_of_eq hfile nofun nofun
        cases truncate with
        | true => exact Or.inr ⟨_, loc, rfl, opens_set (by rw [hfind, hfile]) htakes⟩
        | false => exact Or.inr ⟨_, loc, rfl, opens_self (by rw [hfind, hfile]) htakes nofun⟩
      | nullDevice =>
        have hdevice := hentry nofun
        have htakes := takesFile_of_eq hdevice nofun nofun
        exact Or.inr ⟨_, loc, rfl, opens_self (by rw [hfind, hdevice]) htakes
          fun _ => not_isRegularOrNew hdevice nofun⟩
      | fullDevice =>
        have hdevice := hentry nofun
        have htakes := takesFile_of_eq hdevice nofun nofun
        exact Or.inr ⟨_, loc, rfl, opens_self (by rw [hfind, hdevice]) htakes
          fun _ => not_isRegularOrNew hdevice nofun⟩

theorem fileFor?_eq_some_iff : fs.fileFor? p = some loc ↔
    fs.find .writing p = .ok ⟨loc, fs.entry? loc⟩ ∧ fs.TakesFile loc := by
  unfold fileFor?
  rcases fs.openForWriting_cases false p with ⟨⟨cause, hcause⟩, hnone⟩ | ⟨opened, l, hopen, hopens⟩
  · rw [hcause]
    exact ⟨nofun, fun h => absurd h.2 (hnone loc h.1)⟩
  · rw [hopen]
    constructor
    · intro h
      cases h
      exact ⟨hopens.found, hopens.takesFile⟩
    · rintro ⟨hfind, -⟩
      rw [hopens.found, Except.ok.injEq, Found.mk.injEq] at hfind
      exact congrArg some hfind.1

/-- A file can be opened with and without emptying it, or not at all. -/
theorem openForWriting_of_fileFor? (fs : FileSystem) (truncate : Bool) (p : Path) :
    (fs.fileFor? p = none ∧ ∃ cause, fs.openForWriting truncate p = .error cause) ∨
    ∃ opened loc, fs.fileFor? p = some loc ∧ fs.openForWriting truncate p = .ok (opened, loc) ∧
      Opens fs truncate p opened loc := by
  rcases fs.openForWriting_cases truncate p with ⟨hcause, hnone⟩ | ⟨opened, loc, hopen, hopens⟩
  · refine Or.inl ⟨?_, hcause⟩
    rw [Option.eq_none_iff_forall_ne_some]
    intro loc hloc
    rw [fileFor?_eq_some_iff] at hloc
    exact hnone loc hloc.1 hloc.2
  · exact Or.inr ⟨opened, loc, fileFor?_eq_some_iff.2 ⟨hopens.found, hopens.takesFile⟩, hopen,
      hopens⟩

theorem Rewritten.fileFor?_eq (h : Rewritten files fs fs') (p : Path) :
    fs'.fileFor? p = fs.fileFor? p := by
  have hkept : ∀ {fs fs' : FileSystem}, Rewritten files fs fs' → ∀ loc,
      fs.fileFor? p = some loc → fs'.fileFor? p = some loc := by
    intro fs fs' h loc hloc
    obtain ⟨hfind, htakes⟩ := fileFor?_eq_some_iff.1 hloc
    refine fileFor?_eq_some_iff.2 ⟨?_, h.takesFile htakes⟩
    rw [h.find_eq hfind, seenIn_of_takesFile htakes]
  exact Option.ext fun loc => ⟨hkept h.symm loc, hkept h loc⟩

theorem read_of_fileFor? (hfile : fs.fileFor? p = some loc)
    (hentry : fs.entry? loc = some (.file (.text t))) : fs.read p = .ok t := by
  obtain ⟨hfind, -⟩ := fileFor?_eq_some_iff.1 hfile
  rw [hentry] at hfind
  exact read_of_find (find_target_of_writing hfind)

theorem append_rewritten (htakes : fs.TakesFile loc) (h : fs.append loc t = .ok fs') :
    Rewritten [loc] fs fs' := by
  unfold append at h
  split at h
  · cases h
    exact .set htakes _
  · split at h
    · cases h
      exact .singleton htakes
    · cases h
  · cases h
    exact .singleton htakes

theorem append_file {c : Content} (hentry : fs.entry? loc = some (.file c)) :
    fs.append loc t = .ok (fs.set loc (.file (c.append t))) := by
  unfold append
  rw [hentry]

end Opening

end FileSystem

namespace FileRef

variable {r : FileRef} {p : Path}

/-- A text is delivered to the file that the path opens, or nothing is done at all. -/
theorem deliver_cases (hp : r.path? = some p) (fs : FileSystem) (t : Text) :
    (fs.fileFor? p = none ∧ (r.deliver fs t).1 = fs ∧
      (r.deliver fs t).2.value = .cannotCreate) ∨
    ∃ loc, fs.fileFor? p = some loc ∧ fs.Rewritten [loc] (r.deliver fs t).1 ∧
      (fs.IsRegularOrNew loc → (r.deliver fs t).2.value = .success ∧
        FileSystem.entry? (r.deliver fs t).1 loc = some (.file (.text t))) := by
  unfold deliver write FileSystem.create
  rw [hp]
  dsimp only
  rcases fs.openForWriting_of_fileFor? true p with
    ⟨hnone, cause, hcause⟩ | ⟨opened, loc, hfile, hopen, hopens⟩
  · rw [hcause]
    exact Or.inl ⟨hnone, rfl, rfl⟩
  · rw [hopen]
    refine Or.inr ⟨loc, hfile, ?_⟩
    dsimp only
    have htakes : opened.TakesFile loc := hopens.rewritten.after loc List.mem_cons_self
    cases happend : opened.append loc t with
    | error cause =>
      refine ⟨hopens.rewritten, ?_⟩
      intro hregular
      rw [FileSystem.append_file (hopens.emptied rfl hregular)] at happend
      cases happend
    | ok written =>
      refine ⟨hopens.rewritten.trans (FileSystem.append_rewritten htakes happend), ?_⟩
      intro hregular
      rw [FileSystem.append_file (hopens.emptied rfl hregular)] at happend
      cases happend
      exact ⟨rfl, FileSystem.entry?_set_self htakes.ne_nil _⟩

end FileRef

end DocOutline
