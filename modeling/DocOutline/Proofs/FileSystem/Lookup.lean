import DocOutline.FileSystem.Basic
import DocOutline.Proofs.Path

/-!
# Looking up one more name

If a path leads to a directory, then the path with a name behind it leads to what stands there under
this name (`find_child`). Links on the way to the directory do not matter; they are followed as
often as before.
-/

namespace DocOutline

/-- Whether an entry is a symbolic link. -/
def FileEntry.isLink : FileEntry → Bool
  | .link _ => true
  | _ => false

namespace FileSystem

variable {fs : FileSystem}

/-! ## Empty pieces -/

section SkipEmpty

variable {ys : List Text} (hys : ys ≠ [])

include hys

theorem walk_skip_empty {expand : Location → List Text → Except FileError Found}
    (hexpand : ∀ d xs, expand d (xs ++ [] :: ys) = expand d (xs ++ ys)) (d : Location)
    (xs : List Text) :
    fs.walk .target expand d (xs ++ [] :: ys) = fs.walk .target expand d (xs ++ ys) := by
  induction xs generalizing d with
  | nil =>
    rw [List.nil_append, walk]
    rfl
  | cons x xs ih =>
    have hexpand' : ∀ d (ts : List Text), expand d (ts ++ (xs ++ [] :: ys)) =
        expand d (ts ++ (xs ++ ys)) := by
      intro d ts
      rw [← List.append_assoc, hexpand, List.append_assoc]
    have hempty : (xs ++ [] :: ys).isEmpty = false := by simp
    have hempty' : (xs ++ ys).isEmpty = false := by simp [hys]
    simp only [List.cons_append, walk, ih, hexpand', hempty, hempty', reduceCtorEq, decide_false,
      Bool.false_and]

theorem walkLinks_skip_empty (k : Nat) (d : Location) (xs : List Text) :
    fs.walkLinks .target k d (xs ++ [] :: ys) = fs.walkLinks .target k d (xs ++ ys) := by
  induction k generalizing d xs with
  | zero => exact walk_skip_empty hys (fun _ _ => rfl) d xs
  | succ k ih => exact walk_skip_empty hys ih d xs

end SkipEmpty

/-! ## The first piece -/

/-- A piece of a path that is looked up in a directory. -/
structure IsLookedUp (m : Text) : Prop where
  ne_nil : m ≠ []
  ne_here : m ≠ ".".toList
  ne_up : m ≠ "..".toList
  short : Text.byteSize m ≤ maxName

theorem IsLookedUp.not_skipped {m : Text} (hm : IsLookedUp m) : ¬(m = [] || m = ".") = true := by
  simpa using ⟨hm.ne_nil, hm.ne_here⟩

section FirstPiece

variable {purpose : Purpose} {expand : Location → List Text → Except FileError Found}
  {d loc : Location} {m : Text} {rest : List Text} {e : FileEntry}

theorem isLookedUp_of_isName (hm : Path.isName m = true) (hshort : Text.byteSize m ≤ maxName) :
    IsLookedUp m := by
  obtain ⟨hne, hhere, hup, -, -⟩ := Path.isName_iff.1 hm
  exact ⟨hne, hhere, hup, hshort⟩

/-- A piece that is looked up although others follow: a file to write to is not asked for as a
directory. -/
structure IsNext (purpose : Purpose) (m : Text) (rest : List Text) : Prop extends IsLookedUp m where
  not_as_directory : ¬(purpose = .writing && !rest.isEmpty && rest.all List.isEmpty) = true

theorem IsLookedUp.isNext (hm : IsLookedUp m) (hw : purpose ≠ .writing) (rest : List Text) :
    IsNext purpose m rest :=
  ⟨hm, by simp [hw]⟩

section LookedUp

variable (hm : IsNext purpose m rest)

include hm

theorem walk_free (hentry : fs.entry? (d ++ [m]) = none) :
    fs.walk purpose expand d (m :: rest) =
      if rest.isEmpty then .ok ⟨d ++ [m], none⟩ else .error .notFound := by
  rw [walk, if_neg hm.not_skipped, if_neg hm.ne_up, if_neg hm.not_as_directory,
    if_neg (Nat.not_lt.2 hm.short)]
  simp only [hentry]

theorem walk_directory (hentry : fs.entry? (d ++ [m]) = some .directory) :
    fs.walk purpose expand d (m :: rest) = fs.walk purpose expand (d ++ [m]) rest := by
  rw [walk, if_neg hm.not_skipped, if_neg hm.ne_up, if_neg hm.not_as_directory,
    if_neg (Nat.not_lt.2 hm.short)]
  simp only [hentry]

theorem walk_link {target : Path} (hentry : fs.entry? (d ++ [m]) = some (.link target)) :
    fs.walk purpose expand d (m :: rest) =
      if rest.isEmpty && purpose = .entry then .ok ⟨d ++ [m], some (.link target)⟩
      else expand (if target.isAbsolute then [] else d) (target.pieces ++ rest) := by
  rw [walk, if_neg hm.not_skipped, if_neg hm.ne_up, if_neg hm.not_as_directory,
    if_neg (Nat.not_lt.2 hm.short)]
  simp only [hentry]

theorem walk_leaf (hentry : fs.entry? (d ++ [m]) = some e) (hdirectory : e ≠ .directory)
    (hlink : ∀ target, e ≠ .link target) :
    fs.walk purpose expand d (m :: rest) =
      if rest.isEmpty then .ok ⟨d ++ [m], some e⟩ else .error .notDirectory := by
  rw [walk, if_neg hm.not_skipped, if_neg hm.ne_up, if_neg hm.not_as_directory,
    if_neg (Nat.not_lt.2 hm.short)]
  cases e with
  | directory => exact absurd rfl hdirectory
  | link target => exact absurd rfl (hlink target)
  | file _ => simp only [hentry]
  | nullDevice => simp only [hentry]
  | fullDevice => simp only [hentry]

end LookedUp

/-- The directory that a piece leads to from another one, as long as there are no links. -/
def enter (d : Location) (m : Text) : Location :=
  if m = [] || m = "." then d else if m = ".." then d.dropLast else d ++ [m]

theorem IsLookedUp.enter_eq (hm : IsLookedUp m) (d : Location) : enter d m = d ++ [m] := by
  unfold enter
  rw [if_neg hm.not_skipped, if_neg hm.ne_up]

/-- Only a piece that is looked up makes the walk depend on what stands in the file system. -/
theorem piece_cases (d : Location) (m : Text) :
    (∀ (fs : FileSystem) purpose expand rest,
      fs.walk purpose expand d (m :: rest) = fs.walk purpose expand (enter d m) rest) ∨
    (∀ purpose rest, ∃ cause, ∀ (fs : FileSystem) expand,
      fs.walk purpose expand d (m :: rest) = .error cause) ∨
    (IsLookedUp m ∧ ∀ purpose rest, IsNext purpose m rest ∨
      ∀ (fs : FileSystem) expand, fs.walk purpose expand d (m :: rest) = .error .isDirectory) := by
  by_cases hskip : (m = [] || m = ".") = true
  · left
    intro fs purpose expand rest
    rw [walk, if_pos hskip, enter, if_pos hskip]
  by_cases hup : m = ".."
  · left
    intro fs purpose expand rest
    rw [walk, if_neg hskip, if_pos hup, enter, if_neg hskip, if_pos hup]
  right
  by_cases hlong : maxName < Text.byteSize m
  · left
    intro purpose rest
    by_cases hfile : (purpose = .writing && !rest.isEmpty && rest.all List.isEmpty) = true
    · refine ⟨.isDirectory, fun fs expand => ?_⟩
      rw [walk, if_neg hskip, if_neg hup, if_pos hfile]
    · refine ⟨.nameTooLong, fun fs expand => ?_⟩
      rw [walk, if_neg hskip, if_neg hup, if_neg hfile, if_pos hlong]
  · right
    have hm : IsLookedUp m := by
      rw [Bool.or_eq_true, decide_eq_true_eq, decide_eq_true_eq, not_or] at hskip
      exact ⟨hskip.1, hskip.2, hup, Nat.le_of_not_lt hlong⟩
    refine ⟨hm, fun purpose rest => ?_⟩
    by_cases hfile : (purpose = .writing && !rest.isEmpty && rest.all List.isEmpty) = true
    · right
      intro fs expand
      rw [walk, if_neg hskip, if_neg hup, if_pos hfile]
    · exact Or.inl ⟨hm, hfile⟩

/-- The directory in which the walk goes on, the link that it follows, or the entry it ends at. The
first piece alone decides which of these it is. -/
theorem walk_cons_cases (h : fs.walk .target expand d (m :: rest) = .ok ⟨loc, some e⟩) :
    (∃ d', fs.walk .target expand d' rest = .ok ⟨loc, some e⟩ ∧
      ∀ purpose ≠ .writing, ∀ expand' rest,
        fs.walk purpose expand' d (m :: rest) = fs.walk purpose expand' d' rest) ∨
    (∃ target d', expand d' (target.pieces ++ rest) = .ok ⟨loc, some e⟩ ∧
      ∀ purpose ≠ .writing, ∀ expand' rest,
        fs.walk purpose expand' d (m :: rest) =
          if rest.isEmpty && purpose = .entry then .ok ⟨d ++ [m], some (.link target)⟩
          else expand' d' (target.pieces ++ rest)) ∨
    (rest = [] ∧ e ≠ .directory ∧
      ∀ purpose ≠ .writing, ∀ expand',
        fs.walk purpose expand' d [m] = .ok ⟨d ++ [m], some e⟩) := by
  rcases piece_cases d m with hskip | herror | ⟨hm, -⟩
  · rw [hskip] at h
    exact Or.inl ⟨enter d m, h, fun purpose _ expand' rest => hskip fs purpose expand' rest⟩
  · obtain ⟨cause, hcause⟩ := herror .target rest
    rw [hcause] at h
    cases h
  have hnext : IsNext .target m rest := hm.isNext (by decide) rest
  cases hentry : fs.entry? (d ++ [m]) with
  | none =>
    rw [walk_free hnext hentry] at h
    split at h <;> cases h
  | some e' =>
    by_cases hdirectory : e' = .directory
    · subst hdirectory
      rw [walk_directory hnext hentry] at h
      exact Or.inl ⟨d ++ [m], h,
        fun purpose hw expand' rest => walk_directory (hm.isNext hw rest) hentry⟩
    by_cases hlink : ∃ target, e' = .link target
    · obtain ⟨target, rfl⟩ := hlink
      rw [walk_link hnext hentry, if_neg (by simp)] at h
      exact Or.inr (Or.inl ⟨target, _, h,
        fun purpose hw expand' rest => walk_link (hm.isNext hw rest) hentry⟩)
    · have hlink' : ∀ target, e' ≠ .link target := fun target he => hlink ⟨target, he⟩
      rw [walk_leaf hnext hentry hdirectory hlink'] at h
      split at h
      · cases h
        refine Or.inr (Or.inr ⟨by simpa using ‹rest.isEmpty = true›, hdirectory, ?_⟩)
        intro purpose hw expand'
        rw [walk_leaf (hm.isNext hw []) hentry hdirectory hlink']
        rfl
      · cases h

end FirstPiece

/-! ## One more name -/

section Concat

variable {dir : Location} {n : Text}

theorem walk_concat {expand expand' : Location → List Text → Except FileError Found}
    (hn : Path.isName n = true) (hsize : Text.byteSize n ≤ maxName)
    (hlink : ∀ target, fs.entry? (dir ++ [n]) ≠ some (.link target))
    (hexpand : ∀ d ns, expand d ns = .ok ⟨dir, some .directory⟩ →
      expand' d (ns ++ [n]) = .ok ⟨dir ++ [n], fs.entry? (dir ++ [n])⟩)
    {d : Location} {ns : List Text}
    (h : fs.walk .target expand d ns = .ok ⟨dir, some .directory⟩) :
    fs.walk .target expand' d (ns ++ [n]) = .ok ⟨dir ++ [n], fs.entry? (dir ++ [n])⟩ := by
  induction ns generalizing d with
  | nil =>
    rw [walk, Except.ok.injEq, Found.mk.injEq] at h
    obtain ⟨rfl, -⟩ := h
    have hm : IsNext .target n [] := (isLookedUp_of_isName hn hsize).isNext (by decide) []
    rw [List.nil_append]
    cases hentry : fs.entry? (d ++ [n]) with
    | none => exact walk_free hm hentry
    | some e =>
      by_cases hdirectory : e = .directory
      · subst hdirectory
        exact walk_directory hm hentry
      · refine walk_leaf hm hentry hdirectory ?_
        rintro target rfl
        exact hlink target hentry
  | cons m ns ih =>
    rw [List.cons_append]
    rcases walk_cons_cases h with ⟨d', hrest, hwalk⟩ | ⟨target, d', hrest, hwalk⟩ | ⟨-, hne, -⟩
    · rw [hwalk .target nofun]
      exact ih hrest
    · rw [hwalk .target nofun, if_neg (by simp), ← List.append_assoc]
      exact hexpand _ _ hrest
    · exact absurd rfl hne

theorem walkLinks_concat (hn : Path.isName n = true) (hsize : Text.byteSize n ≤ maxName)
    (hlink : ∀ target, fs.entry? (dir ++ [n]) ≠ some (.link target)) {k : Nat} {d : Location}
    {ns : List Text} (h : fs.walkLinks .target k d ns = .ok ⟨dir, some .directory⟩) :
    fs.walkLinks .target k d (ns ++ [n]) = .ok ⟨dir ++ [n], fs.entry? (dir ++ [n])⟩ := by
  induction k generalizing d ns with
  | zero =>
    rw [walkLinks] at h ⊢
    refine walk_concat hn hsize hlink ?_ h
    intro d ns he
    cases he
  | succ k ih =>
    rw [walkLinks] at h ⊢
    refine walk_concat hn hsize hlink ?_ h
    intro d ns he
    exact ih he

end Concat

/-! ## Links themselves -/

theorem walk_entry_of_target {expand expand' : Location → List Text → Except FileError Found}
    (hexpand : ∀ d ns loc e, expand d ns = .ok ⟨loc, some e⟩ →
      ∃ loc' e', expand' d ns = .ok ⟨loc', some e'⟩)
    {d loc : Location} {ns : List Text} {e : FileEntry}
    (h : fs.walk .target expand d ns = .ok ⟨loc, some e⟩) :
    ∃ loc' e', fs.walk .entry expand' d ns = .ok ⟨loc', some e'⟩ := by
  induction ns generalizing d with
  | nil => exact ⟨d, .directory, rfl⟩
  | cons m ns ih =>
    rcases walk_cons_cases h with ⟨d', hrest, hwalk⟩ | ⟨target, d', hrest, hwalk⟩ | ⟨rfl, -, hwalk⟩
    · rw [hwalk .entry nofun]
      exact ih hrest
    · rw [hwalk .entry nofun]
      split
      · exact ⟨_, _, rfl⟩
      · exact hexpand _ _ _ _ hrest
    · exact ⟨_, _, hwalk .entry nofun _⟩

theorem walkLinks_entry_of_target {k : Nat} {d loc : Location} {ns : List Text} {e : FileEntry}
    (h : fs.walkLinks .target k d ns = .ok ⟨loc, some e⟩) :
    ∃ loc' e', fs.walkLinks .entry k d ns = .ok ⟨loc', some e'⟩ := by
  induction k generalizing d ns loc e with
  | zero =>
    rw [walkLinks] at h ⊢
    refine walk_entry_of_target ?_ h
    intro d ns loc e he
    cases he
  | succ k ih =>
    rw [walkLinks] at h ⊢
    refine walk_entry_of_target ?_ h
    intro d ns loc e he
    exact ih he

/-! ## Paths -/

/-- A path that can be looked up. -/
structure IsUsable (p : Path) : Prop where
  ne_nil : p.text ≠ []
  nul_not_mem : '\x00' ∉ p.text
  short : Text.byteSize p.text < maxPath

section Paths

variable {p : Path} {purpose : Purpose} {dir : Location} {n : Text}

theorem isUsable_of_find {found : Found} (h : fs.find purpose p = .ok found) : IsUsable p := by
  unfold find at h
  by_cases hnul : p.text.contains '\x00' = true
  · rw [if_pos hnul] at h
    cases h
  rw [if_neg hnul] at h
  by_cases hempty : p.text.isEmpty = true
  · rw [if_pos hempty] at h
    cases h
  rw [if_neg hempty] at h
  by_cases hlong : maxPath ≤ Text.byteSize p.text
  · rw [if_pos hlong] at h
    cases h
  · exact ⟨by simpa using hempty, by simpa using hnul, Nat.lt_of_not_le hlong⟩

theorem find_eq_walkLinks (hp : IsUsable p) :
    fs.find purpose p =
      fs.walkLinks purpose maxLinks (if p.isAbsolute then [] else fs.here) p.pieces := by
  unfold find
  rw [if_neg (by simpa using hp.nul_not_mem), if_neg (by simpa using hp.ne_nil),
    if_neg (Nat.not_le.2 hp.short)]

theorem IsUsable.child (hp : IsUsable p) (hn : Path.isName n = true)
    (hshort : Text.byteSize (p.child n).text < maxPath) : IsUsable (p.child n) := by
  refine ⟨Path.child_text_ne_nil hp.ne_nil hn, ?_, hshort⟩
  obtain ⟨-, -, -, -, hnul⟩ := Path.isName_iff.1 hn
  obtain ⟨more, htext, hmore⟩ := Path.child_text_eq_append hp.ne_nil hn
  rw [htext, List.mem_append, List.mem_append]
  rintro (hmem | hmem | hmem)
  · exact hp.nul_not_mem hmem
  · rcases hmore with rfl | rfl
    · cases hmem
    · exact absurd (List.mem_singleton.1 hmem) (by decide)
  · exact hnul hmem

/-- A name behind the path of a directory leads to what the directory holds under this name. -/
theorem find_child (hn : Path.isName n = true) (hsize : Text.byteSize n ≤ maxName)
    (hlink : ∀ target, fs.entry? (dir ++ [n]) ≠ some (.link target))
    (hshort : Text.byteSize (p.child n).text < maxPath)
    (h : fs.find .target p = .ok ⟨dir, some .directory⟩) :
    fs.find .target (p.child n) = .ok ⟨dir ++ [n], fs.entry? (dir ++ [n])⟩ := by
  have hp := isUsable_of_find h
  rw [find_eq_walkLinks hp] at h
  have hwalk := walkLinks_concat hn hsize hlink h
  rw [find_eq_walkLinks (hp.child hn hshort), Path.isAbsolute_child hp.ne_nil hn,
    Path.pieces_child hp.ne_nil hn, ← hwalk]
  -- A slash at the end of the path is an empty piece before the name.
  rcases p.pieces_eq_base with hbase | hbase
  · rw [hbase]
  · rw [hbase, List.append_assoc, List.singleton_append,
      walkLinks_skip_empty (List.cons_ne_nil n [])]

theorem find_of_status {e : FileEntry} (h : fs.status purpose p = .ok (dir, e)) :
    fs.find purpose p = .ok ⟨dir, some e⟩ := by
  unfold status at h
  cases hfind : fs.find purpose p with
  | error _ =>
    rw [hfind] at h
    cases h
  | ok found =>
    obtain ⟨loc, entry⟩ := found
    cases entry with
    | none =>
      rw [hfind] at h
      cases h
    | some entry =>
      rw [hfind] at h
      cases h
      rfl

theorem status_of_find {entry : Option FileEntry} (h : fs.find purpose p = .ok ⟨dir, entry⟩) :
    fs.status purpose p = (entry.map (dir, ·)).elim (.error .notFound) .ok := by
  unfold status
  rw [h]
  cases entry <;> rfl

theorem exists_status_of_isFile (h : fs.isFile p = true) :
    ∃ loc c, fs.status .target p = .ok (loc, .file c) := by
  unfold isFile at h
  split at h
  · next loc c hstatus => exact ⟨loc, c, hstatus⟩
  · cases h

theorem exists_status_entry {e : FileEntry} (h : fs.status .target p = .ok (dir, e)) :
    ∃ found, fs.status .entry p = .ok found := by
  have hfind := find_of_status h
  have hp := isUsable_of_find hfind
  rw [find_eq_walkLinks hp] at hfind
  obtain ⟨loc, e', hentry⟩ := walkLinks_entry_of_target hfind
  rw [← find_eq_walkLinks hp] at hentry
  exact ⟨(loc, e'), status_of_find hentry⟩

end Paths

end FileSystem

end DocOutline
