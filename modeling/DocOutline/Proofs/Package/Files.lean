import DocOutline.Package.Finder
import DocOutline.Proofs.FileSystem.Listing
import Mathlib

/-!
# The files of a package

Which files below a directory belong to the package in it is said along the way to each of them
(`FilePlace.IsListed`), and in which order two of them come by comparing the two ways
(`FilePlace.Before`). The listing of a directory tree is the list of exactly these files in exactly
this order.
-/

namespace DocOutline

/-- A file below a directory: the directories on the way to it, and its name. -/
structure FilePlace where
  directories : List Text
  name : Text
  deriving DecidableEq, Repr

/-! ## The files that belong to a package -/

namespace FileSystem

/-- What makes an entry of a directory a source file. -/
structure IsSource (fs : FileSystem) (dir : Location) (n : Text) : Prop where
  entry : ∃ e, fs.entry? (dir ++ [n]) = some e ∧ e ≠ .directory
  extension : ∃ stem : Text, stem ≠ [] ∧ n = stem ++ ".py"
  ordinary : n = Finder.mainName ∨ ¬"__".toList <+: n

/-- What makes an entry of a directory a package of its own. -/
structure IsInnerPackage (fs : FileSystem) (dir : Location) (c : Text) : Prop where
  directory : fs.entry? (dir ++ [c]) = some .directory
  main : ∃ content, fs.entry? (dir ++ [c] ++ [Finder.mainName]) = some (.file content)
  visible : ¬".".toList <+: c
  ne_cache : c ≠ "__pycache__".toList

/-- Whether an entry of a directory is a source file. -/
def isSourceAt (fs : FileSystem) (dir : Location) (n : Text) : Bool :=
  fs.entry? (dir ++ [n]) ≠ some .directory && (Path.splitName n).2 = some "py" &&
    (n = Finder.mainName || !("__" : Text).isPrefixOf n)

/-- Whether an entry of a directory is a package of its own. -/
def isPackageAt (fs : FileSystem) (dir : Location) (c : Text) : Bool :=
  fs.entry? (dir ++ [c]) = some .directory && !("." : Text).isPrefixOf c && c ≠ "__pycache__" &&
    fs.isFileAt (dir ++ [c] ++ [Finder.mainName])

section Entries

variable {fs : FileSystem} {dir : Location} {n : Text}

theorem isSourceAt_iff (hn : fs.entry? (dir ++ [n]) ≠ none) :
    fs.isSourceAt dir n = true ↔ fs.IsSource dir n := by
  obtain ⟨e, he⟩ := Option.ne_none_iff_exists'.1 hn
  unfold isSourceAt
  simp only [Bool.and_eq_true, Bool.or_eq_true, Bool.not_eq_true', decide_eq_true_eq, he,
    Path.splitName_eq_py]
  constructor
  · rintro ⟨⟨hdirectory, hextension⟩, hordinary⟩
    refine ⟨⟨e, he, by simpa using hdirectory⟩, hextension, hordinary.imp_right ?_⟩
    intro hfalse hprefix
    rw [List.isPrefixOf_iff_prefix.2 hprefix] at hfalse
    cases hfalse
  · rintro ⟨⟨e', he', hdirectory⟩, hextension, hordinary⟩
    rw [he, Option.some.injEq] at he'
    subst he'
    refine ⟨⟨by simpa using hdirectory, hextension⟩, hordinary.imp_right ?_⟩
    intro hprefix
    rw [Bool.eq_false_iff]
    exact fun htrue => hprefix (List.isPrefixOf_iff_prefix.1 htrue)

theorem isPackageAt_iff : fs.isPackageAt dir n = true ↔ fs.IsInnerPackage dir n := by
  have hvisible : ("." : Text).isPrefixOf n = false ↔ ¬".".toList <+: n := by
    rw [Bool.eq_false_iff, ne_eq, List.isPrefixOf_iff_prefix]
  unfold isPackageAt
  rw [Bool.and_eq_true, Bool.and_eq_true, Bool.and_eq_true, Bool.not_eq_true', hvisible, isFileAt_iff,
    decide_eq_true_eq, decide_eq_true_eq]
  constructor
  · rintro ⟨⟨⟨hdirectory, hvisible⟩, hcache⟩, hmain⟩
    exact ⟨hdirectory, hmain, hvisible, hcache⟩
  · rintro ⟨hdirectory, hmain, hvisible, hcache⟩
    exact ⟨⟨⟨hdirectory, hvisible⟩, hcache⟩, hmain⟩

end Entries

end FileSystem

namespace FilePlace

variable {fs : FileSystem} {excluded : List Text → Bool} {dir : Location}

/-- The path of a file, seen from the directory that a path leads to. -/
def path (root : Path) (p : FilePlace) : Path := root.below (p.directories ++ [p.name])

/-- A file in a directory that stands in another one. -/
def inside (c : Text) (p : FilePlace) : FilePlace := ⟨c :: p.directories, p.name⟩

theorem inside_inj {c d : Text} {p q : FilePlace} (h : p.inside c = q.inside d) :
    c = d ∧ p = q := by
  obtain ⟨ps, m⟩ := p
  obtain ⟨qs, n⟩ := q
  cases h
  exact ⟨rfl, rfl⟩

/-- What makes a file below a directory one of the files of a package: it is a source file, the
directories on the way to it are packages, and neither it nor one of them is left out. -/
structure IsListed (fs : FileSystem) (excluded : List Text → Bool) (dir : Location)
    (p : FilePlace) : Prop where
  source : fs.IsSource (dir ++ p.directories) p.name
  packages : ∀ ds c, ds ++ [c] <+: p.directories → fs.IsInnerPackage (dir ++ ds) c
  kept : ∀ way, way ≠ [] → way <+: p.directories ++ [p.name] → excluded way = false

theorem isListed_nil {n : Text} :
    IsListed fs excluded dir ⟨[], n⟩ ↔ fs.IsSource dir n ∧ excluded [n] = false := by
  constructor
  · rintro ⟨hsource, -, hkept⟩
    rw [List.append_nil] at hsource
    exact ⟨hsource, hkept [n] (List.cons_ne_nil n []) (List.prefix_refl [n])⟩
  · rintro ⟨hsource, hexcluded⟩
    refine ⟨?_, ?_, ?_⟩
    · rwa [List.append_nil]
    · intro ds c hprefix
      simp at hprefix
    · intro way hne hprefix
      rcases List.prefix_cons_iff.1 hprefix with rfl | ⟨rest, rfl, hrest⟩
      · exact absurd rfl hne
      · rw [List.prefix_nil.1 hrest]
        exact hexcluded

theorem isListed_inside {c : Text} {p : FilePlace} :
    IsListed fs excluded dir (p.inside c) ↔
      (fs.IsInnerPackage dir c ∧ excluded [c] = false) ∧
        IsListed fs (fun way => excluded (c :: way)) (dir ++ [c]) p := by
  have happend : ∀ ds : List Text, dir ++ c :: ds = dir ++ [c] ++ ds := by simp
  constructor
  · rintro ⟨hsource, hpackages, hkept⟩
    refine ⟨⟨?_, ?_⟩, ?_, ?_, ?_⟩
    · have hpackage := hpackages [] c (List.prefix_append [c] p.directories)
      rwa [List.append_nil] at hpackage
    · exact hkept [c] (List.cons_ne_nil c []) (List.prefix_append [c] _)
    · rwa [← happend]
    · intro ds d hprefix
      rw [← happend]
      exact hpackages (c :: ds) d (List.cons_prefix_cons.2 ⟨rfl, hprefix⟩)
    · intro way _ hprefix
      exact hkept (c :: way) (List.cons_ne_nil c way) (List.cons_prefix_cons.2 ⟨rfl, hprefix⟩)
  · rintro ⟨⟨hpackage, hexcluded⟩, hsource, hpackages, hkept⟩
    refine ⟨?_, ?_, ?_⟩
    · rwa [← happend] at hsource
    · intro ds d hprefix
      cases ds with
      | nil =>
        obtain ⟨rfl, -⟩ := List.cons_prefix_cons.1 hprefix
        rwa [List.append_nil]
      | cons d' ds =>
        obtain ⟨rfl, hrest⟩ := List.cons_prefix_cons.1 hprefix
        rw [happend]
        exact hpackages ds d hrest
    · intro way hne hprefix
      rcases List.prefix_cons_iff.1 hprefix with rfl | ⟨rest, rfl, hrest⟩
      · exact absurd rfl hne
      · cases rest with
        | nil => exact hexcluded
        | cons d rest => exact hkept (d :: rest) (List.cons_ne_nil d rest) hrest

/-! ## The order of the files -/

/-- The order of the files of a package: the main file, the other files by name, and the packages
inside it by name, each in the same order. -/
inductive Before : FilePlace → FilePlace → Prop where
  | main {n : Text} (hn : n ≠ Finder.mainName) : Before ⟨[], Finder.mainName⟩ ⟨[], n⟩
  | file {m n : Text} (hn : n ≠ Finder.mainName) (h : Text.Precedes m n) :
      Before ⟨[], m⟩ ⟨[], n⟩
  | fileFirst {m n c : Text} {cs : List Text} : Before ⟨[], m⟩ ⟨c :: cs, n⟩
  | package {m n c d : Text} {cs ds : List Text} (h : Text.Precedes c d) :
      Before ⟨c :: cs, m⟩ ⟨d :: ds, n⟩
  | inside (c : Text) {p q : FilePlace} (h : Before p q) : Before (p.inside c) (q.inside c)

theorem Before.ne {p q : FilePlace} (h : Before p q) : p ≠ q := by
  induction h with
  | main hn =>
    intro heq
    cases heq
    exact hn rfl
  | file _ h =>
    intro heq
    cases heq
    exact h.2 rfl
  | fileFirst =>
    intro heq
    cases heq
  | package h =>
    intro heq
    cases heq
    exact h.2 rfl
  | inside c _ ih =>
    intro heq
    exact ih (inside_inj heq).2

/-- What comes between two files of one directory is in this directory, too. -/
theorem Before.between {p q r : FilePlace} {ds : List Text} (hpq : Before p q) (hqr : Before q r)
    (hp : ds <+: p.directories) (hr : ds <+: r.directories) : ds <+: q.directories := by
  induction hpq generalizing ds r with
  | main _ | file _ _ => exact hp
  | fileFirst =>
    rw [List.prefix_nil.1 hp]
    exact List.nil_prefix
  | @package m n c d cs ds' h =>
    cases ds with
    | nil => exact List.nil_prefix
    | cons a ds =>
      -- Both ends are in one directory, so no other one can come between them.
      obtain ⟨rfl, -⟩ := List.cons_prefix_cons.1 hp
      cases hqr with
      | package h' =>
        obtain ⟨rfl, -⟩ := List.cons_prefix_cons.1 hr
        exact absurd h' h.asymm
      | inside _ _ =>
        obtain ⟨rfl, -⟩ := List.cons_prefix_cons.1 hr
        exact absurd rfl h.2
  | @inside c p q h ih =>
    cases ds with
    | nil => exact List.nil_prefix
    | cons a ds =>
      obtain ⟨rfl, hp'⟩ := List.cons_prefix_cons.1 hp
      refine List.cons_prefix_cons.2 ⟨rfl, ?_⟩
      obtain ⟨qs, n⟩ := q
      cases hqr with
      | package h' =>
        obtain ⟨rfl, -⟩ := List.cons_prefix_cons.1 hr
        exact absurd rfl h'.2
      | inside _ hqr =>
        obtain ⟨-, hr'⟩ := List.cons_prefix_cons.1 hr
        exact ih hqr hp' hr'

end FilePlace

/-! ## Blocks of a list -/

section Blocks

variable {α : Type} {test : α → Bool} {as : List α}

theorem filter_prefix_of_pairwise (h : as.Pairwise fun a b => test b = true → test a = true) :
    as.filter test <+: as := by
  induction as with
  | nil => exact List.prefix_refl []
  | cons a as ih =>
    obtain ⟨ha, hrest⟩ := List.pairwise_cons.1 h
    by_cases hta : test a = true
    · rw [List.filter_cons_of_pos hta]
      exact List.cons_prefix_cons.2 ⟨rfl, ih hrest⟩
    · have hnone : (a :: as).filter test = [] := by
        refine List.filter_eq_nil_iff.2 fun b hb htb => ?_
        rcases List.mem_cons.1 hb with rfl | hb
        · exact hta htb
        · exact hta (ha b hb htb)
      rw [hnone]
      exact List.nil_prefix

/-- What passes a test is one block of a list if nothing that fails comes between two that pass. -/
theorem filter_infix_of_pairwise {r : α → α → Prop} (h : as.Pairwise r)
    (hbetween : ∀ a b c, r a b → r b c → test a = true → test c = true → test b = true) :
    as.filter test <:+: as := by
  induction as with
  | nil => exact List.infix_refl []
  | cons a as ih =>
    obtain ⟨ha, hrest⟩ := List.pairwise_cons.1 h
    by_cases hta : test a = true
    · refine (filter_prefix_of_pairwise (List.pairwise_cons.2 ⟨fun _ _ _ => hta, ?_⟩)).isInfix
      refine hrest.imp_of_mem fun {b c} hb _ hbc htc => ?_
      exact hbetween a b c (ha b hb) hbc hta htc
    · rw [List.filter_cons_of_neg hta]
      exact List.infix_cons (ih hrest)

end Blocks

/-! ## The listing -/

namespace FileSystem

/-- The names in a directory that are not left out. -/
def keptIn (fs : FileSystem) (excluded : List Text → Bool) (dir : Location) : List Text :=
  (fs.names dir).filter fun n => !excluded [n]

/-- The source files of the package in a directory, the main file first. -/
def filesIn (fs : FileSystem) (excluded : List Text → Bool) (dir : Location) : List Text :=
  let files := (fs.keptIn excluded dir).filter (fs.isSourceAt dir)
  files.filter (· = Finder.mainName) ++ files.filter (· ≠ Finder.mainName)

/-- The packages in the directory of a package. -/
def packagesIn (fs : FileSystem) (excluded : List Text → Bool) (dir : Location) : List Text :=
  (fs.keptIn excluded dir).filter (fs.isPackageAt dir)

/-- The files of the package in a directory, with at most `fuel` packages inside each other. -/
def placesIn (fs : FileSystem) :
    (fuel : Nat) → (excluded : List Text → Bool) → Location → List FilePlace
  | 0, _, _ => []
  | fuel + 1, excluded, dir =>
    (fs.filesIn excluded dir).map (⟨[], ·⟩) ++
      (fs.packagesIn excluded dir).flatMap fun c =>
        (placesIn fs fuel (fun way => excluded (c :: way)) (dir ++ [c])).map (.inside c)

section Places

variable {fs : FileSystem} {fuel : Nat} {excluded : List Text → Bool} {dir : Location}

theorem entry?_ne_none_of_mem_keptIn {n : Text} (h : n ∈ fs.keptIn excluded dir) :
    fs.entry? (dir ++ [n]) ≠ none :=
  mem_names.1 (List.mem_filter.1 h).1

theorem mem_filesIn {n : Text} :
    n ∈ fs.filesIn excluded dir ↔ fs.IsSource dir n ∧ excluded [n] = false := by
  have hsplit : n ∈ fs.filesIn excluded dir ↔
      n ∈ (fs.keptIn excluded dir).filter (fs.isSourceAt dir) := by
    unfold filesIn
    generalize (fs.keptIn excluded dir).filter (fs.isSourceAt dir) = files
    rw [List.mem_append, List.mem_filter, List.mem_filter, ← and_or_left, decide_eq_true_eq,
      decide_eq_true_eq]
    exact and_iff_left (em _)
  rw [hsplit, List.mem_filter, keptIn, List.mem_filter, mem_names, Bool.not_eq_true']
  constructor
  · rintro ⟨⟨hentry, hexcluded⟩, hsource⟩
    exact ⟨(isSourceAt_iff hentry).1 hsource, hexcluded⟩
  · rintro ⟨hsource, hexcluded⟩
    obtain ⟨e, he, -⟩ := hsource.entry
    have hentry : fs.entry? (dir ++ [n]) ≠ none := by
      rw [he]
      exact Option.some_ne_none e
    exact ⟨⟨hentry, hexcluded⟩, (isSourceAt_iff hentry).2 hsource⟩

theorem mem_packagesIn {c : Text} :
    c ∈ fs.packagesIn excluded dir ↔ fs.IsInnerPackage dir c ∧ excluded [c] = false := by
  rw [packagesIn, List.mem_filter, keptIn, List.mem_filter, mem_names, Bool.not_eq_true',
    isPackageAt_iff]
  constructor
  · rintro ⟨⟨-, hexcluded⟩, hpackage⟩
    exact ⟨hpackage, hexcluded⟩
  · rintro ⟨hpackage, hexcluded⟩
    refine ⟨⟨?_, hexcluded⟩, hpackage⟩
    rw [hpackage.directory]
    exact Option.some_ne_none _

theorem mem_placesIn_nil {n : Text} :
    ⟨[], n⟩ ∈ fs.placesIn (fuel + 1) excluded dir ↔ fs.IsSource dir n ∧ excluded [n] = false := by
  rw [placesIn, List.mem_append, ← mem_filesIn]
  constructor
  · rintro (hmem | hmem)
    · obtain ⟨m, hm, heq⟩ := List.mem_map.1 hmem
      cases heq
      exact hm
    · obtain ⟨c, -, hc⟩ := List.mem_flatMap.1 hmem
      obtain ⟨p, -, heq⟩ := List.mem_map.1 hc
      cases heq
  · intro hmem
    exact Or.inl (List.mem_map_of_mem hmem)

theorem mem_placesIn_inside {c : Text} {p : FilePlace} :
    p.inside c ∈ fs.placesIn (fuel + 1) excluded dir ↔
      (fs.IsInnerPackage dir c ∧ excluded [c] = false) ∧
        p ∈ fs.placesIn fuel (fun way => excluded (c :: way)) (dir ++ [c]) := by
  rw [placesIn, List.mem_append, ← mem_packagesIn]
  constructor
  · rintro (hmem | hmem)
    · obtain ⟨m, -, heq⟩ := List.mem_map.1 hmem
      cases heq
    · obtain ⟨d, hd, hmem⟩ := List.mem_flatMap.1 hmem
      obtain ⟨q, hq, heq⟩ := List.mem_map.1 hmem
      obtain ⟨rfl, rfl⟩ := FilePlace.inside_inj heq
      exact ⟨hd, hq⟩
  · rintro ⟨hc, hp⟩
    exact Or.inr (List.mem_flatMap.2 ⟨c, hc, List.mem_map_of_mem hp⟩)

/-- The listing has exactly the files that belong to the package. -/
theorem mem_placesIn (excluded : List Text → Bool) (hfuel : (fs.entriesBelow dir).length < fuel)
    (p : FilePlace) :
    p ∈ fs.placesIn fuel excluded dir ↔ p.IsListed fs excluded dir := by
  induction fuel generalizing excluded dir p with
  | zero => exact absurd hfuel (Nat.not_lt_zero _)
  | succ fuel ih =>
    obtain ⟨directories, n⟩ := p
    cases directories with
    | nil => rw [mem_placesIn_nil, FilePlace.isListed_nil]
    | cons c directories =>
      have hinside : (⟨c :: directories, n⟩ : FilePlace) = .inside c ⟨directories, n⟩ := rfl
      rw [hinside, mem_placesIn_inside, FilePlace.isListed_inside]
      refine and_congr_right fun hpackage => ih _ ?_ _
      -- The directory `c` is itself an entry that is no longer below it.
      have hentry : fs.entry? (dir ++ [c]) ≠ none := by
        rw [hpackage.1.directory]
        exact Option.some_ne_none _
      have hlt := length_entriesBelow_child hentry
      omega

section Order

variable (h : (fs.entries.map Prod.fst).Nodup)

include h

theorem pairwise_keptIn (excluded : List Text → Bool) (dir : Location) :
    (fs.keptIn excluded dir).Pairwise Text.Precedes :=
  (pairwise_names h dir).sublist List.filter_sublist

theorem pairwise_filesIn (excluded : List Text → Bool) (dir : Location) :
    (fs.filesIn excluded dir).Pairwise fun m n => FilePlace.Before ⟨[], m⟩ ⟨[], n⟩ := by
  have hfiles := (pairwise_keptIn h excluded dir).sublist
    (List.filter_sublist (p := fs.isSourceAt dir))
  unfold filesIn
  rw [List.pairwise_append]
  refine ⟨?_, ?_, ?_⟩
  · refine (hfiles.sublist List.filter_sublist).imp_of_mem fun {m n} hm hn hmn => ?_
    have hm := of_decide_eq_true (List.mem_filter.1 hm).2
    have hn := of_decide_eq_true (List.mem_filter.1 hn).2
    exact absurd (hm.trans hn.symm) hmn.2
  · refine (hfiles.sublist List.filter_sublist).imp_of_mem fun {m n} _ hn hmn => ?_
    exact .file (of_decide_eq_true (List.mem_filter.1 hn).2) hmn
  · intro m hm n hn
    rw [of_decide_eq_true (List.mem_filter.1 hm).2]
    exact .main (of_decide_eq_true (List.mem_filter.1 hn).2)

/-- The listing is in order. -/
theorem pairwise_placesIn (fuel : Nat) (excluded : List Text → Bool) (dir : Location) :
    (fs.placesIn fuel excluded dir).Pairwise FilePlace.Before := by
  induction fuel generalizing excluded dir with
  | zero => exact List.Pairwise.nil
  | succ fuel ih =>
    rw [placesIn, List.pairwise_append]
    refine ⟨?_, ?_, ?_⟩
    · rw [List.pairwise_map]
      exact pairwise_filesIn h excluded dir
    · rw [List.pairwise_flatMap]
      refine ⟨fun c _ => ?_, ?_⟩
      · rw [List.pairwise_map]
        exact (ih _ _).imp fun hpq => .inside c hpq
      · have hpackages : (fs.packagesIn excluded dir).Pairwise Text.Precedes :=
          (pairwise_keptIn h excluded dir).sublist List.filter_sublist
        refine hpackages.imp fun {c d} hcd p hp q hq => ?_
        obtain ⟨p, -, rfl⟩ := List.mem_map.1 hp
        obtain ⟨q, -, rfl⟩ := List.mem_map.1 hq
        exact .package hcd
    · intro p hp q hq
      obtain ⟨m, -, rfl⟩ := List.mem_map.1 hp
      obtain ⟨c, -, hq⟩ := List.mem_flatMap.1 hq
      obtain ⟨q, -, rfl⟩ := List.mem_map.1 hq
      exact .fileFirst

end Order

/-- The paths of a listing: those of the files, then those of each package. -/
theorem map_path_placesIn (p : Path) :
    (fs.placesIn (fuel + 1) excluded dir).map (FilePlace.path p) =
      (fs.filesIn excluded dir).map p.child ++ ((fs.packagesIn excluded dir).map fun c =>
        (fs.placesIn fuel (fun way => excluded (c :: way)) (dir ++ [c])).map
          (FilePlace.path (p.child c))).flatten := by
  rw [placesIn, List.map_append, List.map_map, List.map_flatMap, List.flatMap_def]
  simp only [List.map_map]
  rfl

end Places

end FileSystem

/-! ## The finder -/

namespace Finder

variable {fs : FileSystem} {p : Path} {dir : Location}

theorem isSource_memberAt (h : fs.IsTree p dir) {n : Text} (hn : fs.entry? (dir ++ [n]) ≠ none) :
    isSource (fs.memberAt p dir n) = fs.isSourceAt dir n := by
  unfold isSource FileSystem.isSourceAt FileSystem.memberAt
  rw [Path.extension?_child h.path_ne_nil (h.isName hn)]
  simp

theorem isPackage_memberAt (h : fs.IsTree p dir) (n : Text) :
    isPackage fs (fs.memberAt p dir n) = fs.isPackageAt dir n := by
  unfold isPackage FileSystem.isPackageAt FileSystem.memberAt
  by_cases hdirectory : fs.entry? (dir ++ [n]) = some .directory
  · rw [(h.child hdirectory).isFile_child (n := mainName) (by decide) (by decide)]
  · rw [decide_eq_false hdirectory]
    rfl

theorem sources_keptIn (h : fs.IsTree p dir) (excluded : List Text → Bool) :
    sources ((fs.keptIn excluded dir).map (fs.memberAt p dir)) =
      (fs.filesIn excluded dir).map p.child := by
  have hfiles : ((fs.keptIn excluded dir).map (fs.memberAt p dir)).filter isSource =
      ((fs.keptIn excluded dir).filter (fs.isSourceAt dir)).map (fs.memberAt p dir) := by
    rw [List.filter_map]
    refine congrArg _ (List.filter_congr fun n hn => ?_)
    exact isSource_memberAt h (FileSystem.entry?_ne_none_of_mem_keptIn hn)
  unfold sources FileSystem.filesIn
  dsimp only
  rw [hfiles, List.filter_map, List.filter_map, ← List.map_append, List.map_map]
  rfl

theorem packages_keptIn (h : fs.IsTree p dir) (excluded : List Text → Bool) :
    ((fs.keptIn excluded dir).map (fs.memberAt p dir)).filter (isPackage fs) =
      (fs.packagesIn excluded dir).map (fs.memberAt p dir) := by
  rw [List.filter_map]
  exact congrArg _ (List.filter_congr fun n _ => isPackage_memberAt h n)

/-- In a directory tree the listing always succeeds. -/
theorem filesBelow_eq (f : Finder) (h : fs.IsTree p dir) {fuel : Nat}
    (hfuel : (fs.entriesBelow dir).length < fuel) (below : List Text) :
    f.filesBelow fs fuel p below =
      .ok ((fs.placesIn fuel (fun way => f.isExcluded (below ++ way)) dir).map
        (FilePlace.path p)) := by
  induction fuel generalizing p dir below with
  | zero => exact absurd hfuel (Nat.not_lt_zero _)
  | succ fuel ih =>
    generalize hexcluded : (fun way => f.isExcluded (below ++ way)) = excluded
    have hkept : ((fs.names dir).map (fs.memberAt p dir)).filter
        (fun m => !f.isExcluded (below ++ [m.name])) =
        (fs.keptIn excluded dir).map (fs.memberAt p dir) := by
      rw [← hexcluded]
      exact List.filter_map
    have hinner : ((fs.packagesIn excluded dir).map (fs.memberAt p dir)).mapM
        (fun m => f.filesBelow fs fuel m.path (below ++ [m.name])) =
        .ok ((fs.packagesIn excluded dir).map fun c =>
          (fs.placesIn fuel (fun way => excluded (c :: way)) (dir ++ [c])).map
            (FilePlace.path (p.child c))) := by
      rw [mapM_eq_ok (g := fun m => (fs.placesIn fuel (fun way => excluded (m.name :: way))
        (dir ++ [m.name])).map (FilePlace.path m.path)), List.map_map]
      · rfl
      · intro m hm
        obtain ⟨c, hc, rfl⟩ := List.mem_map.1 hm
        have hpackage := (FileSystem.mem_packagesIn.1 hc).1
        have hlt := FileSystem.length_entriesBelow_child
          (FileSystem.entry?_ne_none_of_mem_keptIn (List.mem_filter.1 hc).1)
        have hbelow := ih (h.child hpackage.directory) (by omega) (below ++ [c])
        simp only [List.append_assoc, List.singleton_append] at hbelow
        rw [← hexcluded]
        exact hbelow
    rw [filesBelow, h.members_eq, FileSystem.map_path_placesIn]
    simp only [bind, Except.bind, hkept, packages_keptIn h, hinner, sources_keptIn h]
    rfl

theorem isName_of_isListed {excluded : List Text → Bool} (h : fs.IsTree p dir) {q : FilePlace}
    (hq : q.IsListed fs excluded dir) : ∀ n ∈ q.directories ++ [q.name], Path.isName n = true := by
  obtain ⟨e, he, -⟩ := hq.source.entry
  rw [List.append_assoc] at he
  have hmem := FileSystem.mem_entriesBelow_of_eq (by simp) he
  exact fun n hn => (h.named _ hmem n hn).1

theorem length_entriesBelow_lt_depthBound (fs : FileSystem) (dir : Location) :
    (fs.entriesBelow dir).length < depthBound fs := by
  have hle : (fs.entriesBelow dir).length ≤ fs.entries.length := List.length_filterMap_le _ _
  unfold depthBound FileSystem.maxLinks
  omega

/-- In a directory tree the files of a package can always be listed. The list has exactly the files
that belong to the package, each once and in order, and the files of every directory inside it are
one block of it. -/
theorem packageFiles_eq_listed (f : Finder) (h : fs.IsTree p dir) :
    ∃ places : List FilePlace,
      f.packageFiles fs p = .ok (places.map (FilePlace.path p)) ∧
      (places.map (FilePlace.path p)).Nodup ∧
      (∀ q : FilePlace, q ∈ places ↔ q.IsListed fs f.isExcluded dir) ∧
      places.Pairwise FilePlace.Before ∧
      ∀ ds : List Text, places.filter (ds.isPrefixOf ·.directories) <:+: places := by
  have hfuel := length_entriesBelow_lt_depthBound fs dir
  have hfiles := filesBelow_eq f h hfuel []
  have hmem := FileSystem.mem_placesIn f.isExcluded hfuel
  have hordered := FileSystem.pairwise_placesIn fs.distinct (depthBound fs) f.isExcluded dir
  refine ⟨_, ?_, ?_, hmem, hordered, ?_⟩
  · unfold packageFiles
    rw [hfiles]
    rfl
  · rw [List.nodup_iff_pairwise_ne, List.pairwise_map]
    refine hordered.imp_of_mem fun {q r} hq hr hqr hpath => hqr.ne ?_
    have hways := Path.below_inj h.path_ne_nil (by simp) (by simp)
      (isName_of_isListed h ((hmem q).1 hq)) (isName_of_isListed h ((hmem r).1 hr)) hpath
    obtain ⟨hdirectories, hname⟩ := List.append_inj' hways rfl
    obtain ⟨qs, m⟩ := q
    obtain ⟨rs, n⟩ := r
    cases hdirectories
    cases hname
    rfl
  · intro ds
    refine filter_infix_of_pairwise hordered fun q r s hqr hrs hq hs => ?_
    rw [List.isPrefixOf_iff_prefix] at hq hs ⊢
    exact hqr.between hrs hq hs

/-- The main file comes before a file with an earlier name, packages come behind all files, and what
a pattern leaves out is left out with all that is in it. -/
theorem packageFiles_eq_listed_nested :
    let file := FileEntry.file (.text [])
    let fs : FileSystem := ⟨[(["p".toList], .directory),
      (["p".toList, "b.py".toList], file), (["p".toList, "Z.py".toList], file),
      (["p".toList, "__init__.py".toList], file), (["p".toList, "__main__.py".toList], file),
      (["p".toList, "a".toList], .directory), (["p".toList, "a".toList, "__init__.py".toList], file),
      (["p".toList, "a".toList, "c.py".toList], .nullDevice),
      (["p".toList, "o".toList], .directory), (["p".toList, "o".toList, "__init__.py".toList], file),
      (["p".toList, "d".toList], .directory), (["p".toList, "d".toList, "c.py".toList], file)], [],
      by decide⟩
    let f : Finder := ⟨[], [[.char 'o']]⟩
    let paths := ["p/__init__.py", "p/Z.py", "p/b.py", "p/a/__init__.py", "p/a/c.py"].map
      fun t : String => Path.mk t.toList
    fs.IsTree ⟨"p/"⟩ ["p".toList] ∧ f.packageFiles fs ⟨"p/"⟩ = .ok paths ∧ paths.Nodup ∧
      ∃ places : List FilePlace, paths = places.map (FilePlace.path ⟨"p/"⟩) ∧
        (∀ q : FilePlace, q ∈ places ↔ q.IsListed fs f.isExcluded ["p".toList]) ∧
        places.Pairwise FilePlace.Before := by
  intro file fs f paths
  have h : fs.IsTree ⟨"p/"⟩ ["p".toList] :=
    ⟨by decide, by decide, by decide, by decide⟩
  have hpaths : f.packageFiles fs ⟨"p/"⟩ = .ok paths := by cbv
  obtain ⟨places, hplaces, hnodup, hmem, hordered, -⟩ := packageFiles_eq_listed f h
  rw [hpaths, Except.ok.injEq] at hplaces
  rw [← hplaces] at hnodup
  exact ⟨h, hpaths, hnodup, places, hplaces, hmem, hordered⟩

end Finder

end DocOutline
