import DocOutline.FileSystem.Listing
import DocOutline.Proofs.FileSystem.Lookup
import DocOutline.Proofs.Note
import Mathlib.Data.List.Basic

/-!
# Listing a directory tree

In a tree without links a directory can always be listed, and its members are what stands in it,
by name. What stands below a directory of a tree is a tree again (`IsTree.child`).
-/

namespace DocOutline

/-! ## The order of names -/

namespace Text

theorem le_total (a b : Text) : (le a b || le b a) = true := by
  induction a generalizing b with
  | nil => rfl
  | cons c a ih =>
    cases b with
    | nil => rfl
    | cons d b =>
      have hchars : c = d ∨ c.toNat < d.toNat ∨ d.toNat < c.toNat := by
        by_cases h : c = d
        · exact Or.inl h
        · have hne : c.toNat ≠ d.toNat := fun hnat => h (Char.toNat_inj.1 hnat)
          omega
      rcases hchars with rfl | h | h
      · simpa [le] using ih b
      · simp [le, h]
      · simp [le, h]

theorem le_cons {c d : Char} {a b : Text} :
    le (c :: a) (d :: b) = true ↔ c.toNat < d.toNat ∨ c = d ∧ le a b = true := by
  simp [le]

theorem le_trans (a b c : Text) (hab : le a b = true) (hbc : le b c = true) : le a c = true := by
  induction a generalizing b c with
  | nil => rfl
  | cons x a ih =>
    cases b with
    | nil => cases hab
    | cons y b =>
      cases c with
      | nil => cases hbc
      | cons z c =>
        rw [le_cons] at hab hbc ⊢
        rcases hab with hab | ⟨rfl, hab⟩
        · rcases hbc with hbc | ⟨rfl, -⟩
          · exact Or.inl (Nat.lt_trans hab hbc)
          · exact Or.inl hab
        · rcases hbc with hbc | ⟨rfl, hbc⟩
          · exact Or.inl hbc
          · exact Or.inr ⟨rfl, ih b c hab hbc⟩

theorem le_antisymm {a b : Text} (hab : le a b = true) (hba : le b a = true) : a = b := by
  induction a generalizing b with
  | nil =>
    cases b with
    | nil => rfl
    | cons _ _ => cases hba
  | cons x a ih =>
    cases b with
    | nil => cases hab
    | cons y b =>
      rw [le_cons] at hab hba
      rcases hab with hab | ⟨rfl, hab⟩
      · rcases hba with hba | ⟨rfl, -⟩
        · exact absurd hba (Nat.not_lt.2 (Nat.le_of_lt hab))
        · exact absurd hab (Nat.lt_irrefl _)
      · rcases hba with hba | ⟨-, hba⟩
        · exact absurd hba (Nat.lt_irrefl _)
        · rw [ih hab hba]

/-- One text comes before another one. -/
def Precedes (a b : Text) : Prop := le a b = true ∧ a ≠ b

theorem Precedes.asymm {a b : Text} (h : Precedes a b) : ¬Precedes b a :=
  fun h' => h.2 (le_antisymm h.1 h'.1)

theorem pairwise_sort {ts : List Text} (hts : ts.Nodup) : (sort ts).Pairwise Precedes := by
  have hsorted : (sort ts).Pairwise fun a b => le a b = true :=
    List.pairwise_mergeSort le_trans le_total ts
  have hnodup : (sort ts).Nodup := (List.mergeSort_perm ts le).nodup_iff.2 hts
  exact hsorted.and hnodup

end Text

/-- Steps that all succeed. -/
theorem mapM_eq_ok {ε α β : Type} {f : α → Except ε β} {g : α → β} {as : List α}
    (h : ∀ a ∈ as, f a = .ok (g a)) : as.mapM f = .ok (as.map g) := by
  induction as with
  | nil => rfl
  | cons a as ih =>
    rw [List.mapM_cons, h a List.mem_cons_self, ih fun b hb => h b (List.mem_cons_of_mem a hb)]
    rfl

theorem exists_of_mem_mapM {ε α β : Type} {f : α → Except ε β} {as : List α} {bs : List β} {b : β}
    (h : as.mapM f = .ok bs) (hb : b ∈ bs) : ∃ a ∈ as, f a = .ok b := by
  induction as generalizing bs with
  | nil =>
    cases h
    cases hb
  | cons a as ih =>
    rw [List.mapM_cons] at h
    obtain ⟨b', hb', h⟩ := bind_eq_ok.1 h
    obtain ⟨bs', hbs', h⟩ := bind_eq_ok.1 h
    cases h
    rcases List.mem_cons.1 hb with rfl | hb
    · exact ⟨a, List.mem_cons_self, hb'⟩
    · obtain ⟨a', ha', hf⟩ := ih hbs' hb
      exact ⟨a', List.mem_cons_of_mem a ha', hf⟩

namespace FileSystem

variable {fs : FileSystem}

/-! ## Entries -/

theorem mem_entries_of_eq {loc : Location} {e : FileEntry} (hloc : loc ≠ [])
    (h : fs.entry? loc = some e) : (loc, e) ∈ fs.entries := by
  unfold entry? at h
  rw [if_neg hloc, List.lookup_eq_some_iff] at h
  obtain ⟨before, behind, hentries, -⟩ := h
  rw [hentries]
  exact List.mem_append_right _ List.mem_cons_self

theorem entry?_ne_none_of_mem {loc : Location} {e : FileEntry} (h : (loc, e) ∈ fs.entries) :
    fs.entry? loc ≠ none := by
  unfold entry?
  split
  · exact Option.some_ne_none _
  · rw [ne_eq, List.lookup_eq_none_iff]
    intro hnone
    exact absurd rfl (bne_iff_ne.1 (hnone (loc, e) h))

/-- Whether a file stands at a location. -/
def isFileAt (fs : FileSystem) (loc : Location) : Bool :=
  match fs.entry? loc with
  | some (.file _) => true
  | _ => false

theorem isFileAt_iff {loc : Location} :
    fs.isFileAt loc = true ↔ ∃ content, fs.entry? loc = some (.file content) := by
  unfold isFileAt
  cases fs.entry? loc with
  | none => simp
  | some e => cases e <;> simp

/-- The entries below a directory, with the names on the way to them. -/
def entriesBelow (fs : FileSystem) (dir : Location) : List (List Text × FileEntry) :=
  fs.entries.filterMap fun e =>
    if dir <+: e.1 ∧ e.1 ≠ dir then some (e.1.drop dir.length, e.2) else none

theorem mem_entriesBelow {dir : Location} {names : List Text} {e : FileEntry} :
    (names, e) ∈ fs.entriesBelow dir ↔ names ≠ [] ∧ (dir ++ names, e) ∈ fs.entries := by
  unfold entriesBelow
  rw [List.mem_filterMap]
  constructor
  · rintro ⟨⟨loc, e'⟩, hmem, hsome⟩
    split at hsome
    · rename_i hbelow
      obtain ⟨⟨names', rfl⟩, hne⟩ := hbelow
      rw [List.drop_left, Option.some.injEq, Prod.mk.injEq] at hsome
      obtain ⟨rfl, rfl⟩ := hsome
      refine ⟨?_, hmem⟩
      rintro rfl
      exact hne (List.append_nil dir)
    · cases hsome
  · rintro ⟨hne, hmem⟩
    refine ⟨(dir ++ names, e), hmem, ?_⟩
    rw [if_pos ⟨List.prefix_append dir names, by simpa using hne⟩, List.drop_left]

theorem mem_entriesBelow_of_eq {dir : Location} {names : List Text} {e : FileEntry}
    (hne : names ≠ []) (h : fs.entry? (dir ++ names) = some e) : (names, e) ∈ fs.entriesBelow dir :=
  mem_entriesBelow.2 ⟨hne, mem_entries_of_eq (by simp [hne]) h⟩

theorem entriesBelow_child (fs : FileSystem) (dir : Location) (c : Text) :
    fs.entriesBelow (dir ++ [c]) = (fs.entriesBelow dir).filterMap fun e =>
      if [c] <+: e.1 ∧ e.1 ≠ [c] then some (e.1.drop 1, e.2) else none := by
  unfold entriesBelow
  rw [List.filterMap_filterMap]
  refine List.filterMap_congr fun e _ => ?_
  obtain ⟨loc, entry⟩ := e
  by_cases hdir : dir <+: loc
  · obtain ⟨names, rfl⟩ := hdir
    cases names with
    | nil =>
      have hlong : ¬dir ++ [c] <+: dir := by
        intro h
        have hle := h.length_le
        rw [List.length_append, List.length_singleton] at hle
        omega
      simp [hlong]
    | cons m names => simp [List.prefix_append_right_inj]
  · have hnot : ¬dir ++ [c] <+: loc := fun h => hdir ((List.prefix_append dir [c]).trans h)
    simp [hdir, hnot]

theorem mem_entriesBelow_child {dir : Location} {c : Text} {names : List Text} {e : FileEntry}
    (h : (names, e) ∈ fs.entriesBelow (dir ++ [c])) : (c :: names, e) ∈ fs.entriesBelow dir := by
  obtain ⟨-, hmem⟩ := mem_entriesBelow.1 h
  rw [List.append_assoc, List.singleton_append] at hmem
  exact mem_entriesBelow.2 ⟨List.cons_ne_nil c names, hmem⟩

/-- A directory has fewer entries below it than the directory that it stands in. -/
theorem length_entriesBelow_child {dir : Location} {c : Text}
    (h : fs.entry? (dir ++ [c]) ≠ none) :
    (fs.entriesBelow (dir ++ [c])).length < (fs.entriesBelow dir).length := by
  obtain ⟨e, he⟩ := Option.ne_none_iff_exists'.1 h
  rw [entriesBelow_child, List.length_filterMap_lt_length_iff_exists]
  refine ⟨([c], e), mem_entriesBelow_of_eq (List.cons_ne_nil c []) he, ?_⟩
  rw [if_neg]
  exact fun hboth => hboth.2 rfl

/-! ## Names -/

/-- The name that an entry of a directory has there. -/
def nameIn? (dir loc : Location) : Option Text := loc.getLast?.filter (loc = dir ++ [·])

theorem nameIn?_eq_some {dir loc : Location} {n : Text} :
    nameIn? dir loc = some n ↔ loc = dir ++ [n] := by
  unfold nameIn?
  rw [Option.filter_eq_some_iff, decide_eq_true_eq]
  constructor
  · exact And.right
  · rintro rfl
    exact ⟨List.getLast?_concat, rfl⟩

theorem names_eq (fs : FileSystem) (dir : Location) :
    fs.names dir = Text.sort (fs.entries.filterMap fun e => nameIn? dir e.1) := by
  unfold names
  refine congrArg Text.sort (List.filterMap_congr fun e _ => ?_)
  obtain ⟨loc, entry⟩ := e
  unfold nameIn?
  dsimp only
  cases loc.getLast? with
  | none => rfl
  | some n => simp [Option.filter]

theorem mem_names {dir : Location} {n : Text} :
    n ∈ fs.names dir ↔ fs.entry? (dir ++ [n]) ≠ none := by
  rw [names_eq, Text.sort, List.mem_mergeSort, List.mem_filterMap]
  constructor
  · rintro ⟨⟨loc, e⟩, hmem, hname⟩
    obtain rfl : loc = dir ++ [n] := nameIn?_eq_some.1 hname
    exact entry?_ne_none_of_mem hmem
  · intro h
    obtain ⟨e, he⟩ := Option.ne_none_iff_exists'.1 h
    exact ⟨(dir ++ [n], e), mem_entries_of_eq (by simp) he, nameIn?_eq_some.2 rfl⟩

theorem pairwise_names (h : (fs.entries.map Prod.fst).Nodup) (dir : Location) :
    (fs.names dir).Pairwise Text.Precedes := by
  rw [names_eq]
  refine Text.pairwise_sort ?_
  rw [List.nodup_iff_pairwise_ne, List.pairwise_filterMap]
  refine (List.pairwise_map.1 (List.nodup_iff_pairwise_ne.1 h)).imp ?_
  rintro ⟨loc, e⟩ ⟨loc', e'⟩ hne n hn n' hn' rfl
  exact hne ((nameIn?_eq_some.1 hn).trans (nameIn?_eq_some.1 hn').symm)

/-- The member of a directory with a name, if nothing stands in the way of finding it out. -/
def memberAt (fs : FileSystem) (p : Path) (dir : Location) (n : Text) : Member :=
  ⟨n, p.child n, fs.entry? (dir ++ [n]) = some .directory⟩

/-! ## Trees -/

/-- A directory that a path leads to and in which everything can be looked up: there are no links
below it, and names and paths are names and paths that can be used. -/
structure IsTree (fs : FileSystem) (root : Path) (dir : Location) : Prop where
  reached : fs.status .target root = .ok (dir, .directory)
  named : ∀ e ∈ fs.entriesBelow dir, ∀ n ∈ e.1, Path.isName n = true ∧ Text.byteSize n ≤ maxName
  notLink : ∀ e ∈ fs.entriesBelow dir, e.2.isLink = false
  short : ∀ e ∈ fs.entriesBelow dir, Text.byteSize (root.below e.1).text < maxPath

namespace IsTree

variable {p : Path} {dir : Location} {n : Text}

theorem path_ne_nil (h : fs.IsTree p dir) : p.text ≠ [] :=
  (isUsable_of_find (find_of_status h.reached)).ne_nil

theorem isName (h : fs.IsTree p dir) (hn : fs.entry? (dir ++ [n]) ≠ none) :
    Path.isName n = true := by
  obtain ⟨e, he⟩ := Option.ne_none_iff_exists'.1 hn
  have hmem := mem_entriesBelow_of_eq (List.cons_ne_nil n []) he
  exact (h.named _ hmem n List.mem_cons_self).1

theorem status_child (h : fs.IsTree p dir) {e : FileEntry}
    (he : fs.entry? (dir ++ [n]) = some e) :
    fs.status .target (p.child n) = .ok (dir ++ [n], e) := by
  have hmem := mem_entriesBelow_of_eq (List.cons_ne_nil n []) he
  obtain ⟨hn, hsize⟩ := h.named _ hmem n List.mem_cons_self
  have hlink : ∀ target, fs.entry? (dir ++ [n]) ≠ some (.link target) := by
    intro target htarget
    rw [he, Option.some.injEq] at htarget
    subst htarget
    cases h.notLink _ hmem
  have hfind := find_child hn hsize hlink (h.short _ hmem) (find_of_status h.reached)
  rw [status_of_find hfind, he]
  rfl

theorem child (h : fs.IsTree p dir) (hn : fs.entry? (dir ++ [n]) = some .directory) :
    fs.IsTree (p.child n) (dir ++ [n]) where
  reached := h.status_child hn
  named := by
    rintro ⟨names, e⟩ he m hm
    exact h.named _ (mem_entriesBelow_child he) m (List.mem_cons_of_mem n hm)
  notLink := by
    rintro ⟨names, e⟩ he
    exact h.notLink (n :: names, e) (mem_entriesBelow_child he)
  short := by
    rintro ⟨names, e⟩ he
    exact h.short _ (mem_entriesBelow_child he)

theorem isFile_child (h : fs.IsTree p dir) (hn : Path.isName n = true)
    (hsize : Text.byteSize n ≤ maxName) : fs.isFile (p.child n) = fs.isFileAt (dir ++ [n]) := by
  unfold isFile isFileAt
  cases he : fs.entry? (dir ++ [n]) with
  | some e =>
    rw [h.status_child he]
    cases e <;> rfl
  | none =>
    -- The path may be too long then, but it leads nowhere in any case.
    have hstatus : ∃ cause, fs.status .target (p.child n) = .error cause := by
      cases hstatus : fs.status .target (p.child n) with
      | error cause => exact ⟨cause, rfl⟩
      | ok found =>
        have hshort := (isUsable_of_find (find_of_status hstatus)).short
        have hfind := find_child hn hsize (by rw [he]; nofun) hshort
          (find_of_status h.reached)
        rw [status_of_find hfind, he] at hstatus
        cases hstatus
    obtain ⟨cause, hcause⟩ := hstatus
    rw [hcause]

theorem member_eq (h : fs.IsTree p dir) (hn : fs.entry? (dir ++ [n]) ≠ none) :
    fs.member p dir n = .ok (fs.memberAt p dir n) := by
  obtain ⟨e, he⟩ := Option.ne_none_iff_exists'.1 hn
  have hmem := mem_entriesBelow_of_eq (List.cons_ne_nil n []) he
  unfold member memberAt
  rw [he]
  cases e with
  | link target => cases h.notLink _ hmem
  | directory =>
    simp only [listedStatus, h.status_child he]
    rfl
  | file _ => rfl
  | nullDevice => rfl
  | fullDevice => rfl

/-- Every directory of a tree can be listed. -/
theorem members_eq (h : fs.IsTree p dir) :
    fs.members p = .ok ((fs.names dir).map (fs.memberAt p dir)) := by
  obtain ⟨found, hentry⟩ := exists_status_entry h.reached
  unfold members
  simp only [listedStatus, hentry, h.reached]
  exact mapM_eq_ok fun n hn => h.member_eq (mem_names.1 hn)

end IsTree

end FileSystem

end DocOutline
