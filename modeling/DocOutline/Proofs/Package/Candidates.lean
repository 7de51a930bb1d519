import DocOutline.Proofs.FileSystem.Growing
import DocOutline.Proofs.Package.Roots

/-!
# Candidates

All that a target can stand for is one list: each reading of the target under each root. The three
searches that resolve a target are one search through this list (`resolve_eq`), so a target is the
first of its candidates that is there, and is not found only if none is (`resolve_takes_first`). In a
package that was found, the main file is listed first (`head?_packageFiles`): it is looked up by its
path and listed by its name, and both lead to the same entry of the directory.
-/

namespace DocOutline

/-! ## Members that are files -/

theorem mem_of_mapM {ε α β : Type} {f : α → Except ε β} {as : List α} {bs : List β} {a : α} {b : β}
    (h : as.mapM f = .ok bs) (ha : a ∈ as) (hab : f a = .ok b) : b ∈ bs := by
  induction as generalizing bs with
  | nil => cases ha
  | cons c as ih =>
    rw [List.mapM_cons] at h
    obtain ⟨d, hd, h⟩ := bind_eq_ok.1 h
    obtain ⟨ds, hds, h⟩ := bind_eq_ok.1 h
    cases h
    rcases List.mem_cons.1 ha with rfl | ha
    · rw [Except.ok.inj (hab.symm.trans hd)]
      exact List.mem_cons_self
    · exact List.mem_cons_of_mem d (ih hds ha)

namespace FileSystem

variable {fs : FileSystem} {dir : Path} {loc : Location} {n : Text}

theorem exists_status_of_isDirectory (h : fs.isDirectory dir = true) :
    ∃ loc, fs.status .target dir = .ok (loc, .directory) := by
  unfold isDirectory at h
  split at h
  · next loc hstatus => exact ⟨loc, hstatus⟩
  · cases h

theorem members_of_directory (h : fs.status .target dir = .ok (loc, .directory)) :
    fs.members dir = (fs.names loc).mapM (fs.member dir loc) := by
  obtain ⟨found, hentry⟩ := exists_status_entry h
  unfold members
  simp only [listedStatus, hentry, h]
  rfl

section FileMember

variable (hn : Path.isName n = true) (hsize : Text.byteSize n ≤ maxName)
  (hdir : fs.status .target dir = .ok (loc, .directory)) (hfile : fs.isFile (dir.child n) = true)

include hn hsize hdir hfile

/-- What a directory holds under the name of a file in it, if it is no link. -/
theorem entry?_of_isFile (hlink : ∀ target, fs.entry? (loc ++ [n]) ≠ some (.link target)) :
    ∃ content, fs.entry? (loc ++ [n]) = some (.file content) := by
  obtain ⟨loc', content, hstatus⟩ := exists_status_of_isFile hfile
  have hfind := find_of_status hstatus
  have hshort := (isUsable_of_find hfind).short
  rw [find_child hn hsize hlink hshort (find_of_status hdir), Except.ok.injEq, Found.mk.injEq]
    at hfind
  exact ⟨content, hfind.2⟩

/-- A file in a directory is listed as a file, also if a link leads to it. -/
theorem member_of_isFile :
    n ∈ fs.names loc ∧ fs.member dir loc n = .ok ⟨n, dir.child n, false⟩ := by
  by_cases hlink : ∃ target, fs.entry? (loc ++ [n]) = some (.link target)
  · obtain ⟨target, htarget⟩ := hlink
    obtain ⟨loc', content, hstatus⟩ := exists_status_of_isFile hfile
    refine ⟨mem_names.2 (by rw [htarget]; exact Option.some_ne_none _), ?_⟩
    unfold member
    simp only [htarget, listedStatus, hstatus]
    rfl
  · have hlink' : ∀ target, fs.entry? (loc ++ [n]) ≠ some (.link target) := fun target htarget =>
      hlink ⟨target, htarget⟩
    obtain ⟨content, hcontent⟩ := entry?_of_isFile hn hsize hdir hfile hlink'
    refine ⟨mem_names.2 (by rw [hcontent]; exact Option.some_ne_none _), ?_⟩
    unfold member
    simp only [hcontent]
    rfl

end FileMember

end FileSystem

namespace Finder

variable {f : Finder} {fs : FileSystem} {target : Text}

/-! ## The main file of a package -/

theorem head?_sources {ms : List Member} {main : Path}
    (hmem : (⟨mainName, main, false⟩ : Member) ∈ ms) (hextension : main.extension? = some "py")
    (hpath : ∀ m ∈ ms, m.name = mainName → m.path = main) :
    (sources ms).head? = some main := by
  have hsource : isSource ⟨mainName, main, false⟩ = true := by simp [isSource, hextension]
  have hmain : (⟨mainName, main, false⟩ : Member) ∈
      (ms.filter isSource).filter (·.name = mainName) := by simp [hmem, hsource]
  obtain ⟨m, rest, hfirst⟩ := List.exists_cons_of_ne_nil (List.ne_nil_of_mem hmain)
  have hm : m ∈ (ms.filter isSource).filter (·.name = mainName) := by
    rw [hfirst]
    exact List.mem_cons_self
  obtain ⟨hms, hname⟩ := List.mem_filter.1 hm
  unfold sources
  simp only [hfirst, List.cons_append, List.map_cons, List.head?_cons]
  rw [hpath m (List.mem_filter.1 hms).1 (of_decide_eq_true hname)]

theorem isExcluded_singleton {n : Text} (h : ∀ g ∈ f.exclude, g.accepts n = false) :
    f.isExcluded [n] = false := by
  unfold isExcluded
  rw [List.any_eq_false]
  intro g hg
  rw [Text.join_singleton, h g hg]
  exact Bool.false_ne_true

section Main

variable {root : Path} {files : List Path} (hroot : fs.isDirectory root = true)
  (hmain : fs.isFile (root.child mainName) = true)
  (hkept : ∀ g ∈ f.exclude, g.accepts mainName = false)

include hroot hmain hkept

theorem head?_filesBelow {fuel : Nat} (h : f.filesBelow fs fuel root [] = .ok files) :
    files.head? = some (root.child mainName) := by
  obtain ⟨loc, hstatus⟩ := FileSystem.exists_status_of_isDirectory hroot
  have hname : Path.isName mainName = true := by decide
  have hne := (FileSystem.isUsable_of_find (FileSystem.find_of_status hstatus)).ne_nil
  obtain ⟨hnames, hmember⟩ :=
    FileSystem.member_of_isFile hname (by decide) hstatus hmain
  cases fuel with
  | zero => cases h
  | succ fuel =>
    rw [filesBelow, FileSystem.members_of_directory hstatus] at h
    obtain ⟨members, hmembers, h⟩ := bind_eq_ok.1 h
    obtain ⟨inner, -, h⟩ := bind_eq_ok.1 h
    cases h
    have hsources : (sources (members.filter fun m => !f.isExcluded ([] ++ [m.name]))).head? =
        some (root.child mainName) := by
      apply head?_sources
      · rw [List.mem_filter]
        exact ⟨mem_of_mapM hmembers hnames hmember, by
          rw [List.nil_append, isExcluded_singleton hkept]; rfl⟩
      · rw [Path.extension?_child hne hname]
        decide
      · intro m hm hmname
        obtain ⟨n, -, hn⟩ := exists_of_mem_mapM hmembers (List.mem_filter.1 hm).1
        rw [FileSystem.eq_of_member hn] at hmname ⊢
        exact congrArg root.child hmname
    rw [List.head?_append, hsources]
    rfl

/-- The main file comes first in the files of a package, unless a pattern leaves it out. -/
theorem head?_packageFiles (h : f.packageFiles fs root = .ok files) :
    files.head? = some (root.child mainName) := by
  unfold packageFiles at h
  split at h
  · cases h
  · next hfiles =>
    cases h
    exact head?_filesBelow hroot hmain hkept hfiles

end Main

/-- A package as it lies in its directory. -/
structure IsLaidOut (f : Finder) (fs : FileSystem) (p : Package) : Prop where
  isDirectory : fs.isDirectory p.root = true
  main_iff : ∀ q, p.main = some q ↔ q = p.root.child mainName ∧ fs.isFile q = true
  files_eq : f.packageFiles fs p.root = .ok p.files
  head_eq : fs.isFile (p.root.child mainName) = true →
    (∀ g ∈ f.exclude, g.accepts mainName = false) →
    p.files.head? = some (p.root.child mainName)

theorem isLaidOut_of_package {dir : Path} {t : Target} (hdir : fs.isDirectory dir = true)
    (h : f.package fs dir = .ok t) : ∃ p, t = .package p ∧ p.root = dir ∧ f.IsLaidOut fs p := by
  obtain ⟨files, hfiles, rfl⟩ := package_eq_ok h
  refine ⟨_, rfl, rfl, hdir, ?_, hfiles,
    fun hmain hkept => head?_packageFiles hdir hmain hkept hfiles⟩
  intro q
  cases hmain : fs.isFile (dir.child mainName) with
  | true =>
    rw [if_pos rfl, Option.some.injEq]
    constructor
    · rintro rfl
      exact ⟨rfl, hmain⟩
    · rintro ⟨rfl, -⟩
      rfl
  | false =>
    rw [if_neg Bool.false_ne_true]
    constructor
    · intro hnone
      cases hnone
    · rintro ⟨rfl, hfile⟩
      cases hmain.symm.trans hfile

/-! ## Candidates -/

/-- Something that a target can stand for. -/
inductive Candidate where
  | file (p : Path)
  | directory (p : Path)
  deriving DecidableEq, Repr

/-- Whether the path of a candidate leads to what the candidate is. -/
def Candidate.isThere (fs : FileSystem) : Candidate → Bool
  | .file p => fs.isFile p
  | .directory p => fs.isDirectory p

/-- The first of some candidates that is there. -/
inductive Candidate.First (fs : FileSystem) : List Candidate → Candidate → Prop
  | here {c : Candidate} {cs : List Candidate} (h : c.isThere fs = true) : First fs (c :: cs) c
  | later {c d : Candidate} {cs : List Candidate} (h : d.isThere fs = false)
    (rest : First fs cs c) : First fs (d :: cs) c

/-- The paths that a path stands for under some roots. -/
def placesUnder (roots : List Path) (p : Path) : List Path :=
  if p.isAbsolute then [p] else roots.map (·.join p)

/-- All that a target can stand for, in the order in which it is preferred. -/
def candidates (roots : List Path) (target : Text) : List Candidate :=
  let dotted := Path.ofDotted target
  if (".py" : Text).isSuffixOf target then (placesUnder roots ⟨target⟩).map .file
  else
    (placesUnder roots ⟨target⟩).map .directory ++
      ((placesUnder roots dotted).map .directory ++
        (placesUnder roots (dotted.withExtension "py")).map .file)

/-- What a candidate that is there gives. -/
inductive Answers (f : Finder) (fs : FileSystem) : Candidate → Except Error Target → Prop
  | sourceFile (p : Path) : Answers f fs (.file p) (.ok (.sourceFile p))
  | package (p : Package) : Answers f fs (.directory p.root) (.ok (.package p))
  | unlistable {dir : Path} {e : ListingError}
    (h : f.packageFiles fs dir = .error (.unlistable e)) :
    Answers f fs (.directory dir) (.error (.unlistable e))

namespace Candidate

variable {c : Candidate} {cs : List Candidate}

theorem first_iff : First fs cs c ↔ cs.find? (isThere fs) = some c := by
  constructor
  · intro h
    induction h with
    | here h => exact List.find?_cons_of_pos h
    | later h _ ih => rw [List.find?_cons_of_neg (by rw [h]; exact Bool.false_ne_true), ih]
  · intro h
    induction cs with
    | nil => cases h
    | cons d cs ih =>
      cases hd : d.isThere fs with
      | true =>
        rw [List.find?_cons_of_pos hd] at h
        cases h
        exact .here hd
      | false =>
        rw [List.find?_cons_of_neg (by rw [hd]; exact Bool.false_ne_true)] at h
        exact .later hd (ih h)

theorem exists_first (h : ∃ c ∈ cs, c.isThere fs = true) : ∃ c, First fs cs c := by
  obtain ⟨c, hfind⟩ := Option.isSome_iff_exists.1 (List.find?_isSome.2 h)
  exact ⟨c, first_iff.2 hfind⟩

end Candidate

theorem locate?_eq (p : Path) (test : Path → Bool) :
    f.locate? p test = (placesUnder f.roots p).find? test := by
  unfold locate? placesUnder
  split
  · cases htest : test p with
    | true => rw [if_pos rfl, List.find?_cons_of_pos htest]
    | false =>
      rw [if_neg Bool.false_ne_true,
        List.find?_cons_of_neg (by rw [htest]; exact Bool.false_ne_true)]
      rfl
  · rfl

/-- The search for a path under the roots is a search through candidates of one kind. -/
theorem find?_places {mk : Path → Candidate} {test : Path → Bool}
    (h : Candidate.isThere fs ∘ mk = test) (p : Path) :
    ((placesUnder f.roots p).map mk).find? (·.isThere fs) = (f.locate? p test).map mk := by
  rw [locate?_eq, List.find?_map, ← h]

/-- What comes of a candidate. -/
def settle (f : Finder) (fs : FileSystem) : Candidate → Except Error Target
  | .file p => .ok (.sourceFile p)
  | .directory p => f.package fs p

/-- The searches for the readings of a target are one search through its candidates. -/
theorem resolve_eq (f : Finder) (fs : FileSystem) (target : Text) :
    f.resolve fs target = ((candidates f.roots target).find? (·.isThere fs)).elim
      (.error (.moduleNotFound target)) (f.settle fs) := by
  have hfiles : Candidate.isThere fs ∘ .file = fs.isFile := rfl
  have hdirectories : Candidate.isThere fs ∘ .directory = fs.isDirectory := rfl
  unfold candidates
  by_cases htarget : (".py" : Text).isSuffixOf target = true
  · rw [if_pos htarget, find?_places hfiles]
    unfold resolve
    rw [if_pos htarget]
    cases f.locate? ⟨target⟩ fs.isFile <;> rfl
  rw [if_neg htarget, List.find?_append, List.find?_append, find?_places hdirectories,
    find?_places hdirectories, find?_places hfiles]
  cases hdirect : f.locate? ⟨target⟩ fs.isDirectory with
  | some dir => exact resolve_direct htarget hdirect
  | none =>
    cases hdotted : f.locate? (Path.ofDotted target) fs.isDirectory with
    | some dir => exact resolve_dotted htarget hdirect hdotted
    | none =>
      rw [resolve_file htarget hdirect hdotted]
      cases f.locate? ((Path.ofDotted target).withExtension "py") fs.isFile <;> rfl

theorem answers_settle (f : Finder) (fs : FileSystem) (c : Candidate) :
    f.Answers fs c (f.settle fs c) := by
  cases c with
  | file p => exact .sourceFile p
  | directory dir =>
    unfold settle
    dsimp only
    cases h : f.package fs dir with
    | ok t =>
      obtain ⟨p, rfl, rfl⟩ := root_of_package h
      exact .package p
    | error e =>
      obtain ⟨cause, rfl, hcause⟩ := package_eq_error h
      exact .unlistable hcause

theorem answers_of_first {c : Candidate} (h : Candidate.First fs (candidates f.roots target) c) :
    f.Answers fs c (f.resolve fs target) := by
  rw [resolve_eq, Candidate.first_iff.1 h]
  exact answers_settle f fs c

theorem resolve_of_none (h : ∀ c ∈ candidates f.roots target, c.isThere fs = false) :
    f.resolve fs target = .error (.moduleNotFound target) := by
  have hnone : (candidates f.roots target).find? (·.isThere fs) = none := by
    rw [List.find?_eq_none]
    intro c hc
    rw [h c hc]
    exact Bool.false_ne_true
  rw [resolve_eq, hnone]
  rfl

theorem Answers.ne_moduleNotFound {c : Candidate} {result : Except Error Target}
    (h : f.Answers fs c result) (t : Text) : result ≠ .error (.moduleNotFound t) := by
  intro heq
  cases h with
  | sourceFile _ => cases heq
  | package _ => cases heq
  | unlistable _ => cases heq

theorem resolve_eq_moduleNotFound_iff {t : Text} :
    f.resolve fs target = .error (.moduleNotFound t) ↔
      t = target ∧ ∀ c ∈ candidates f.roots target, c.isThere fs = false := by
  constructor
  · intro h
    have hnone : ∀ c ∈ candidates f.roots target, c.isThere fs = false := by
      intro c hc
      by_contra hthere
      obtain ⟨d, hd⟩ := Candidate.exists_first ⟨c, hc, Bool.not_eq_false _ ▸ hthere⟩
      exact (answers_of_first hd).ne_moduleNotFound t h
    rw [resolve_of_none hnone] at h
    cases h
    exact ⟨rfl, hnone⟩
  · rintro ⟨rfl, hnone⟩
    exact resolve_of_none hnone

/-- A target is not found exactly if none of its candidates is there, and otherwise it is the first
one that is. -/
theorem resolve_takes_first (f : Finder) (fs : FileSystem) (target : Text) :
    (∀ t, f.resolve fs target = .error (.moduleNotFound t) ↔
      t = target ∧ ∀ c ∈ candidates f.roots target, c.isThere fs = false) ∧
    ((∃ c ∈ candidates f.roots target, c.isThere fs = true) →
      ∃ c, Candidate.First fs (candidates f.roots target) c ∧
        f.Answers fs c (f.resolve fs target)) ∧
    (∀ q, f.resolve fs target = .ok (.sourceFile q) → fs.isFile q = true) ∧
    ∀ p, f.resolve fs target = .ok (.package p) → f.IsLaidOut fs p := by
  refine ⟨fun t => resolve_eq_moduleNotFound_iff, ?_, ?_, ?_⟩
  · intro hthere
    obtain ⟨c, hc⟩ := Candidate.exists_first hthere
    exact ⟨c, hc, answers_of_first hc⟩
  · intro q hq
    rcases resolve_cases hq with ⟨q', heq, hfile⟩ | ⟨dir, -, hpackage⟩
    · cases heq
      exact hfile
    · obtain ⟨p, heq, -⟩ := root_of_package hpackage
      cases heq
  · intro p hp
    rcases resolve_cases hp with ⟨q, heq, -⟩ | ⟨dir, hdir, hpackage⟩
    · cases heq
    · obtain ⟨p', heq, -, hlaid⟩ := isLaidOut_of_package hdir hpackage
      cases heq
      exact hlaid

/-- The directory of a dotted name under a further root comes before its file in the current
directory. -/
theorem resolve_takes_first_directory :
    let fs : FileSystem := ⟨[(["a".toList], .directory),
      (["a".toList, "b.py".toList], .file (.text "")), (["lib".toList], .directory),
      (["lib".toList, "a".toList], .directory),
      (["lib".toList, "a".toList, "b".toList], .directory),
      (["lib".toList, "a".toList, "b".toList, "__init__.py".toList], .file (.text ""))], [],
      by decide⟩
    let f : Finder := ⟨[⟨"."⟩, ⟨"lib"⟩], []⟩
    let p : Package := ⟨⟨"lib/a/b"⟩, some ⟨"lib/a/b/__init__.py"⟩, [⟨"lib/a/b/__init__.py"⟩]⟩
    Candidate.isThere fs (.file ⟨"./a/b.py"⟩) = true ∧
    f.resolve fs "a.b" = .ok (.package p) ∧ f.IsLaidOut fs p ∧
    (∃ c, Candidate.First fs (candidates f.roots "a.b") c ∧ f.Answers fs c (.ok (.package p))) ∧
    f.resolve fs "a.c" = .error (.moduleNotFound "a.c") := by
  intro fs f p
  have hfound : f.resolve fs "a.b" = .ok (.package p) := by decide +kernel
  obtain ⟨-, hfirst, -, hlaid⟩ := resolve_takes_first f fs "a.b"
  have hthere : ∃ c ∈ candidates f.roots "a.b", c.isThere fs = true := by decide +kernel
  have hmissing : ∀ c ∈ candidates f.roots "a.c", c.isThere fs = false := by decide +kernel
  refine ⟨by decide +kernel, hfound, hlaid p hfound, ?_,
    ((resolve_takes_first f fs "a.c").1 "a.c").2 ⟨rfl, hmissing⟩⟩
  rw [← hfound]
  exact hfirst hthere

end Finder

end DocOutline
