import DocOutline.Proofs.FileSystem.Writing

/-!
# Spellings of a path

Where a path leads can be read off its text as long as no symbolic link is on the way
(`location_eq_place`). Different parts can still lead to one place: a path may start with a dot or
at the root directory, and it may go up. Apart from that, the parts tell places apart
(`SpelledAlike.parts_eq`).
-/

namespace DocOutline

namespace Path

/-- The location that a path leads to from a directory, if there are no links. -/
def place (p : Path) (dir : Location) : Location :=
  p.pieces.foldl FileSystem.enter (if p.isAbsolute then [] else dir)

/-- Two paths that start in the same way and do not go up. -/
structure SpelledAlike (p q : Path) : Prop where
  absolute : p.isAbsolute = q.isAbsolute
  dotted : p.pieces.head? = some ".".toList ↔ q.pieces.head? = some ".".toList
  not_up : "..".toList ∉ p.pieces
  not_up' : "..".toList ∉ q.pieces

/-- The part that a path starts with, if it is no name. -/
def startParts (p : Path) : List Part :=
  if p.isAbsolute then [.root] else if p.pieces.head? = some ".".toList then [.here] else []

theorem head?_pieces_of_isAbsolute {p : Path} (h : p.isAbsolute = true) :
    p.pieces.head? = some [] := by
  obtain ⟨t⟩ := p
  cases t with
  | nil => cases h
  | cons c t =>
    have hc : c = slash := by simpa [isAbsolute] using h
    rw [hc, pieces, Text.pieces_cons_self]
    rfl

theorem parts_eq_startParts (p : Path) :
    p.parts = p.startParts ++ p.pieces.filterMap laterPart? := by
  obtain ⟨first, rest, hpieces⟩ := List.exists_cons_of_ne_nil (Text.pieces_ne_nil slash p.text)
  have hpieces' : p.pieces = first :: rest := hpieces
  have hlater : p.pieces.filterMap laterPart? =
      (laterPart? first).toList ++ rest.filterMap laterPart? := by
    rw [hpieces', List.filterMap_cons]
    cases laterPart? first <;> rfl
  unfold parts startParts
  rw [hlater, hpieces', List.head?_cons]
  dsimp only
  cases habsolute : p.isAbsolute with
  | true =>
    have hfirst := head?_pieces_of_isAbsolute habsolute
    rw [hpieces', List.head?_cons, Option.some.injEq] at hfirst
    rw [hfirst]
    rfl
  | false =>
    by_cases hfirst : first = ".".toList
    · rw [hfirst]
      rfl
    · rw [if_neg Bool.false_ne_true, if_neg hfirst, if_neg Bool.false_ne_true,
        if_neg (fun h => hfirst (Option.some.inj h)), List.nil_append]

/-- A piece that leads to another directory. -/
def isStep (n : Text) : Bool := !(n = [] || n = ".")

theorem not_isStep {n : Text} (h : (n = [] || n = ".") = true) : ¬isStep n = true := by
  rw [isStep, h]
  exact Bool.false_ne_true

theorem isStep_of_not {n : Text} (h : ¬(n = [] || n = ".") = true) : isStep n = true := by
  rw [isStep, Bool.eq_false_iff.2 h]
  rfl

section Pieces

variable {ns : List Text} (hup : "..".toList ∉ ns)

include hup

theorem filterMap_laterPart? : ns.filterMap laterPart? = (ns.filter isStep).map Part.name := by
  induction ns with
  | nil => rfl
  | cons n ns ih =>
    rw [List.mem_cons, not_or] at hup
    by_cases hskip : (n = [] || n = ".") = true
    · have hpart : laterPart? n = none := if_pos hskip
      rw [List.filterMap_cons_none hpart, List.filter_cons_of_neg (not_isStep hskip), ih hup.2]
    · have hpart : laterPart? n = some (.name n) := by
        rw [laterPart?, if_neg hskip, if_neg (Ne.symm hup.1)]
      rw [List.filterMap_cons_some hpart, List.filter_cons_of_pos (isStep_of_not hskip),
        List.map_cons, ih hup.2]

theorem foldl_enter (d : Location) : ns.foldl FileSystem.enter d = d ++ ns.filter isStep := by
  induction ns generalizing d with
  | nil => exact (List.append_nil d).symm
  | cons n ns ih =>
    rw [List.mem_cons, not_or] at hup
    rw [List.foldl_cons, ih hup.2, FileSystem.enter]
    by_cases hskip : (n = [] || n = ".") = true
    · rw [if_pos hskip, List.filter_cons_of_neg (not_isStep hskip)]
    · rw [if_neg hskip, if_neg (Ne.symm hup.1), List.filter_cons_of_pos (isStep_of_not hskip),
        List.append_assoc, List.singleton_append]

end Pieces

theorem SpelledAlike.startParts_eq {p q : Path} (h : p.SpelledAlike q) :
    p.startParts = q.startParts := by
  unfold startParts
  rw [h.absolute]
  simp only [h.dotted]

/-- Paths that are spelled alike have the same parts if they lead to the same place. -/
theorem SpelledAlike.parts_eq {p q : Path} (h : p.SpelledAlike q) {dir : Location}
    (hplace : p.place dir = q.place dir) : p.parts = q.parts := by
  unfold place at hplace
  rw [foldl_enter h.not_up, foldl_enter h.not_up', h.absolute] at hplace
  have hnames := List.append_cancel_left hplace
  rw [parts_eq_startParts, parts_eq_startParts, filterMap_laterPart? h.not_up,
    filterMap_laterPart? h.not_up', h.startParts_eq, hnames]

end Path

namespace FileSystem

variable {fs fs' : FileSystem} {purpose : Purpose} {p : Path} {found : Found}

/-- The path leads somewhere without a symbolic link on the way. -/
def FollowsNoLink (fs : FileSystem) (p : Path) : Prop :=
  ∃ found, fs.walkLinks .target 0 (if p.isAbsolute then [] else fs.here) p.pieces = .ok found

theorem walk_location {expand : Location → List Text → Except FileError Found}
    (hexpand : ∀ d ns found, expand d ns ≠ .ok found) {d : Location} {ns : List Text}
    (hwalk : fs.walk purpose expand d ns = .ok found) : found.location = ns.foldl enter d := by
  induction ns generalizing d with
  | nil =>
    rw [walk] at hwalk
    cases hwalk
    rfl
  | cons m rest ih =>
    rw [List.foldl_cons]
    cases step_of_walk hwalk with
    | skip hskip hrest => exact ih hrest
    | directory hm hentry hrest =>
      rw [hm.enter_eq]
      exact ih hrest
    | link target hm hentry hrest =>
      rw [hm.enter_eq]
      split at hrest
      · next hend =>
        cases hrest
        rw [Bool.and_eq_true, List.isEmpty_iff] at hend
        rw [hend.1]
        rfl
      · exact absurd hrest (hexpand _ _ _)
    | file hm htakes hend hfound =>
      subst hend hfound
      rw [hm.enter_eq]
      rfl

/-- A walk without links does not depend on how many could be followed. -/
theorem walkLinks_of_zero {d : Location} {ns : List Text}
    (h : fs.walkLinks purpose 0 d ns = .ok found) (k : Nat) :
    fs.walkLinks purpose k d ns = .ok (fs.seenIn found) := by
  cases k with
  | zero => exact (Rewritten.nil fs).walkLinks_eq h
  | succ k =>
    rw [walkLinks] at h
    rw [walkLinks]
    refine (Rewritten.nil fs).walk_eq ?_ h
    intro d ns found hexpand
    cases hexpand

theorem location_eq_place (hp : fs.FollowsNoLink p) (hfind : fs.find .target p = .ok found) :
    found.location = p.place fs.here := by
  obtain ⟨direct, hdirect⟩ := hp
  rw [find_eq_walkLinks (isUsable_of_find hfind), walkLinks_of_zero hdirect,
    Except.ok.injEq] at hfind
  rw [walkLinks] at hdirect
  have hlocation : direct.location = p.place fs.here := by
    refine walk_location ?_ hdirect
    intro d ns found hexpand
    cases hexpand
  rw [← hfind]
  exact hlocation

end FileSystem

end DocOutline
