import DocOutline.Outline.Links
import DocOutline.Proofs.Syntax.Numbered

/-!
# The table of links

What the link pass leaves in its table. `expected` gives the links of the definitions of a tree
without any table; in a tree with distinct numbers the table holds exactly these
(`linksOf_holds`). From there the climb from a definition to the root follows by recursion over
the tree: every step goes to the node whose children are being read (`EndsAt.definition`), so no
chain can run in circles. A climb stops at a file; a root that is no file is climbed past like a
definition (`endsAt_root`). So a climb takes at most one step more than the level of the definition
says, and no level exceeds the size of the table (`level_le_expected`).
-/

namespace DocOutline.Outline

open Syntax Signature

mutual

/-- The links of the definitions of a node, in source order. -/
def expected (owner : NumberedTree) (level : Nat) : NumberedTree → Links
  | .node id kind role text children =>
    let t := NumberedTree.node id kind role text children
    if isDefinition kind then (id, ⟨level + 1, some owner⟩) :: expectedAll t (level + 1) children
    else expectedAll owner level children

/-- The links of the definitions in nodes side by side. -/
def expectedAll (owner : NumberedTree) (level : Nat) : List NumberedTree → Links
  | [] => []
  | t :: ts => (if t.isNamed then expected owner level t else []) ++ expectedAll owner level ts

end

/-! ## The pass adds the expected links -/

mutual

theorem linkNode_eq : ∀ (t owner : NumberedTree) (level : Nat) (links : Links),
    linkNode owner level links t = (expected owner level t).reverse ++ links
  | .node id kind role text children, owner, level, links => by
    simp only [linkNode, expected]
    split
    · rw [linkNodes_eq children, List.reverse_cons, List.append_assoc]
      rfl
    · exact linkNodes_eq children owner level links

theorem linkNodes_eq : ∀ (ts : List NumberedTree) (owner : NumberedTree) (level : Nat)
    (links : Links),
    linkNodes owner level links ts = (expectedAll owner level ts).reverse ++ links
  | [], _, _, _ => rfl
  | t :: ts, owner, level, links => by
    simp only [linkNodes, expectedAll]
    rw [linkNodes_eq ts, List.reverse_append, List.append_assoc]
    split
    · rw [linkNode_eq t]
    · rfl

end

theorem linksOf_eq (root : NumberedTree) :
    linksOf root = (expectedAll root 0 root.children).reverse ++ [(root.id, ⟨0, none⟩)] :=
  linkNodes_eq root.children root 0 _

/-! ## No link replaces another one -/

mutual

theorem keys_expected : ∀ (t owner : NumberedTree) (level : Nat),
    ((expected owner level t).map Prod.fst).Sublist t.ids
  | .node id kind role text children, owner, level => by
    simp only [expected, NumberedTree.ids]
    split
    · rw [List.map_cons]
      exact (keys_expectedAll children _ _).cons_cons id
    · exact (keys_expectedAll children owner level).cons id

theorem keys_expectedAll : ∀ (ts : List NumberedTree) (owner : NumberedTree) (level : Nat),
    ((expectedAll owner level ts).map Prod.fst).Sublist (NumberedTree.idsAll ts)
  | [], _, _ => List.Sublist.refl []
  | t :: ts, owner, level => by
    simp only [expectedAll, NumberedTree.idsAll, List.map_append]
    refine List.Sublist.append ?_ (keys_expectedAll ts owner level)
    split
    · exact keys_expected t owner level
    · exact List.nil_sublist t.ids

end

/-! ## No level exceeds the size of the table -/

mutual

theorem level_le_expected : ∀ (t owner : NumberedTree) (level : Nat),
    ∀ p ∈ expected owner level t, p.2.level ≤ level + (expected owner level t).length
  | .node id kind role text children, owner, level => by
    intro p hp
    simp only [expected] at hp ⊢
    split at hp
    · rename_i hd
      rw [if_pos hd, List.length_cons]
      rcases List.mem_cons.1 hp with rfl | hp
      · change level + 1 ≤ _
        omega
      · have hle := level_le_expectedAll children _ (level + 1) p hp
        omega
    · rename_i hd
      rw [if_neg hd]
      exact level_le_expectedAll children owner level p hp

theorem level_le_expectedAll : ∀ (ts : List NumberedTree) (owner : NumberedTree) (level : Nat),
    ∀ p ∈ expectedAll owner level ts, p.2.level ≤ level + (expectedAll owner level ts).length
  | [], _, _ => by
    intro p hp
    cases hp
  | t :: ts, owner, level => by
    intro p hp
    rw [expectedAll] at hp ⊢
    rw [List.length_append]
    rcases List.mem_append.1 hp with hp | hp
    · split at hp
      · rename_i hn
        have hle := level_le_expected t owner level p hp
        rw [if_pos hn]
        omega
      · cases hp
    · have hle := level_le_expectedAll ts owner level p hp
      omega

end

theorem level_le_length {root : NumberedTree} {p : Nat × Link}
    (hp : p ∈ expectedAll root 0 root.children) : p.2.level ≤ (linksOf root).length := by
  have hle := level_le_expectedAll root.children root 0 p hp
  rw [linksOf_eq, List.length_append, List.length_reverse]
  omega

/-! ## What the table answers -/

/-- The table answers with these links, and no level among them exceeds its size. -/
def Links.Holds (links ls : Links) : Prop :=
  ∀ p ∈ ls, links.lookup p.1 = some p.2 ∧ p.2.level ≤ links.length

theorem Links.lookup_of_mem {links : Links} (hn : (links.map Prod.fst).Nodup) {p : Nat × Link}
    (hp : p ∈ links) : links.lookup p.1 = some p.2 := by
  induction links with
  | nil => cases hp
  | cons q links ih =>
    rw [List.map_cons, List.nodup_cons] at hn
    rcases List.mem_cons.1 hp with rfl | hp
    · exact List.lookup_cons_self
    · have hne : p.1 ≠ q.1 := fun he => hn.1 (he ▸ List.mem_map_of_mem hp)
      rw [List.lookup_cons, beq_false_of_ne hne]
      exact ih hn.2 hp

theorem nodup_keys_linksOf {root : NumberedTree} (hn : root.ids.Nodup) :
    ((linksOf root).map Prod.fst).Nodup := by
  cases root with
  | node id kind role text children =>
    rw [NumberedTree.ids, List.nodup_cons] at hn
    have hkeys := keys_expectedAll children (.node id kind role text children) 0
    -- The root itself has the oldest link; its number is not among those below it.
    rw [linksOf_eq, List.map_append, List.map_reverse, List.nodup_append]
    refine ⟨List.pairwise_reverse.2 ((hn.2.sublist hkeys).imp Ne.symm), ?_, ?_⟩
    · simp
    · intro k hk k' hk' he
      simp only [List.map_cons, List.map_nil, List.mem_singleton] at hk'
      have hmem : k ∈ NumberedTree.idsAll children := hkeys.subset (List.mem_reverse.1 hk)
      have hid : k = id := he.trans hk'
      exact hn.1 (hid ▸ hmem)

/-- The table of a tree with distinct numbers has the right link for every definition below the
root. -/
theorem linksOf_holds (root : NumberedTree) (hn : root.ids.Nodup) :
    (linksOf root).Holds (expectedAll root 0 root.children) := by
  intro p hp
  refine ⟨Links.lookup_of_mem (nodup_keys_linksOf hn) ?_, level_le_length hp⟩
  rw [linksOf_eq]
  exact List.mem_append_left _ (List.mem_reverse.2 hp)

theorem link?_root {root : NumberedTree} (hn : root.ids.Nodup) :
    (linksOf root).link? root = some ⟨0, none⟩ := by
  refine Links.lookup_of_mem (nodup_keys_linksOf hn) (p := (root.id, ⟨0, none⟩)) ?_
  rw [linksOf_eq]
  exact List.mem_append_right _ (List.mem_singleton.2 rfl)

theorem owner?_root {root : NumberedTree} (hn : root.ids.Nodup) :
    (linksOf root).owner? root = none := by
  unfold Links.owner?
  rw [link?_root hn]
  rfl

namespace Links.Holds

variable {links : Links} {owner : NumberedTree} {level : Nat}

theorem of_append {ls ms : Links} (h : links.Holds (ls ++ ms)) : links.Holds ls ∧ links.Holds ms :=
  ⟨fun p hp => h p (List.mem_append_left ms hp), fun p hp => h p (List.mem_append_right ls hp)⟩

/-- At a definition: its own link, and those of the definitions inside it. -/
theorem definition {t : NumberedTree} (hd : isDefinition t.kind = true)
    (h : links.Holds (expected owner level t)) :
    links.link? t = some ⟨level + 1, some owner⟩ ∧ level < links.length ∧
      links.Holds (expectedAll t (level + 1) t.children) := by
  cases t with
  | node id kind role text children =>
    change isDefinition kind = true at hd
    rw [expected, if_pos hd] at h
    obtain ⟨hlookup, hle⟩ := h _ List.mem_cons_self
    exact ⟨hlookup, hle, fun p hp => h p (List.mem_cons_of_mem _ hp)⟩

theorem transparent {t : NumberedTree} (hd : isDefinition t.kind = false)
    (h : links.Holds (expected owner level t)) :
    links.Holds (expectedAll owner level t.children) := by
  cases t with
  | node id kind role text children =>
    change isDefinition kind = false at hd
    rw [expected, hd] at h
    exact h

theorem head {t : NumberedTree} {ts : List NumberedTree} (hn : t.isNamed = true)
    (h : links.Holds (expectedAll owner level (t :: ts))) :
    links.Holds (expected owner level t) := by
  rw [expectedAll, if_pos hn] at h
  exact h.of_append.1

theorem tail {t : NumberedTree} {ts : List NumberedTree}
    (h : links.Holds (expectedAll owner level (t :: ts))) :
    links.Holds (expectedAll owner level ts) := by
  rw [expectedAll] at h
  exact h.of_append.2

end Links.Holds

/-! ## Climbing to the root -/

/-- The climb from an owner ends at `stop`, one step for each name on its way and one for the end.
The names are these, read from the outermost one inwards. -/
def Links.EndsAt (links : Links) (stop : Option NumberedTree) (owner : NumberedTree)
    (enclosing : List Text) : Prop :=
  ∀ steps names, enclosing.length < steps →
    links.climb steps names (some owner) = some (names ++ enclosing.reverse, stop)

theorem Links.levelOf_of_link? {links : Links} {t : NumberedTree} {link : Link}
    (hlink : links.link? t = some link) : links.levelOf t = link.level := by
  unfold Links.levelOf
  rw [hlink]
  rfl

theorem Links.owner?_of_link? {links : Links} {t owner : NumberedTree} {level : Nat}
    (hlink : links.link? t = some ⟨level, some owner⟩) : links.owner? t = some owner := by
  unfold Links.owner?
  rw [hlink]
  rfl

namespace Links.EndsAt

variable {links : Links} {stop : Option NumberedTree} {root owner : NumberedTree}
  {enclosing : List Text}

theorem file (hroot : root.kind = .sourceFile) : links.EndsAt (some root) root [] := by
  intro steps names hsteps
  obtain ⟨n, rfl⟩ := Nat.exists_eq_add_of_lt hsteps
  rw [Links.climb, if_pos hroot, List.reverse_nil, List.append_nil]

/-- A root that is no file gives its name, and the climb ends there for want of an owner. -/
theorem unowned (hroot : root.kind ≠ .sourceFile) (howner : links.owner? root = none) :
    links.EndsAt none root [nameOf root.tree] := by
  intro steps names hsteps
  match steps, hsteps with
  | n + 2, _ =>
    rw [Links.climb, if_neg hroot, howner, Links.climb]
    rfl

/-- One step of the climb: from a definition to the owner that the table has for it. -/
theorem definition {t : NumberedTree} {level : Nat} (h : links.EndsAt stop owner enclosing)
    (hd : isDefinition t.kind = true) (hlink : links.link? t = some ⟨level, some owner⟩) :
    links.EndsAt stop t (enclosing ++ [nameOf t.tree]) := by
  intro steps names hsteps
  have hfile : t.kind ≠ .sourceFile := by
    intro he
    rw [he] at hd
    exact absurd hd (by decide)
  rw [List.length_append, List.length_singleton] at hsteps
  match steps, hsteps with
  | n + 1, hsteps =>
    rw [Links.climb, if_neg hfile, Links.owner?_of_link? hlink,
      h n _ (Nat.lt_of_succ_lt_succ hsteps), List.reverse_append, List.append_assoc]
    rfl

theorem climbFrom {t : NumberedTree} {level : Nat} (h : links.EndsAt stop owner enclosing)
    (hlink : links.link? t = some ⟨level, some owner⟩) (hle : enclosing.length ≤ links.length) :
    links.climbFrom t = some ([nameOf t.tree] ++ enclosing.reverse, stop) := by
  unfold Links.climbFrom
  rw [Links.owner?_of_link? hlink]
  exact h _ _ (Nat.lt_succ_of_le hle)

theorem qualifiedName? {t : NumberedTree} {level : Nat} (h : links.EndsAt stop owner enclosing)
    (hlink : links.link? t = some ⟨level, some owner⟩) (hle : enclosing.length ≤ links.length) :
    links.qualifiedName? t = some (Text.join "." (enclosing ++ [nameOf t.tree])) := by
  unfold Links.qualifiedName?
  rw [h.climbFrom hlink hle]
  simp

end Links.EndsAt

section Root

variable {root : NumberedTree}

/-- Where climbs in a tree end. -/
def climbEnd (root : NumberedTree) : Option NumberedTree :=
  if root.kind = .sourceFile then some root else none

/-- The names that climbs in a tree meet above all definitions. -/
def rootNames (root : NumberedTree) : List Text :=
  if root.kind = .sourceFile then [] else [nameOf root.tree]

theorem length_rootNames_le (root : NumberedTree) : (rootNames root).length ≤ 1 := by
  unfold rootNames
  split <;> simp

theorem endsAt_root (hn : root.ids.Nodup) :
    (linksOf root).EndsAt (climbEnd root) root (rootNames root) := by
  unfold climbEnd rootNames
  split
  · next hroot => exact .file hroot
  · next hroot => exact .unowned hroot (owner?_root hn)

/-- A file whose nodes have distinct numbers: its table holds what the file as a whole should
have. -/
theorem linksOf_holds_file (hn : root.ids.Nodup) (hroot : root.kind = .sourceFile) :
    (linksOf root).Holds (expected root 0 root) := by
  have hholds := linksOf_holds root hn
  cases root with
  | node id kind role text children =>
    change kind = .sourceFile at hroot
    subst hroot
    exact hholds

end Root

end DocOutline.Outline
