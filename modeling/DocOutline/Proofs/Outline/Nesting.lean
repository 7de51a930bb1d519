import DocOutline.Proofs.Outline.Links
import Mathlib.Data.List.Chain
import Mathlib.Data.List.Nodup

/-!
# Definitions inside each other

The definitions of a tree in source order, each with the definitions around it (`nested`). Their
number is the level that the table of links has, and their names are those that a climb meets
(`places_nested`). Such a list is ordered like a stack: what is around a definition is found again
in front of it, and between the two there are only definitions that lie deeper (`Ordered`). In a
tree with distinct numbers the innermost definition around another one is the top of its stack
(`isDirectlyAround`). The root counts for nothing here, even if it is a definition.
-/

namespace DocOutline

namespace Syntax.NumberedTree

theorem children_induction {motive : NumberedTree → Prop}
    (step : ∀ t : NumberedTree, (∀ c ∈ t.children, motive c) → motive t) (t : NumberedTree) :
    motive t := by
  refine @NumberedTree.rec motive (fun ts => ∀ c ∈ ts, motive c) ?_ ?_ ?_ t
  · intro id kind role text children ih
    exact step _ ih
  · intro c hc
    cases hc
  · intro t ts ht hts c hc
    rcases List.mem_cons.1 hc with rfl | hc
    · exact ht
    · exact hts c hc

end Syntax.NumberedTree

namespace Outline

open Syntax Signature

/-! ## Definitions with what is around them -/

mutual

/-- The definitions of a node, itself included, in source order. -/
def definitions : NumberedTree → List NumberedTree
  | .node id kind role text children =>
    let t := NumberedTree.node id kind role text children
    (if isDefinition kind then [t] else []) ++ definitionsAll children

/-- The definitions of nodes side by side. -/
def definitionsAll : List NumberedTree → List NumberedTree
  | [] => []
  | t :: ts => (if t.isNamed then definitions t else []) ++ definitionsAll ts

end

theorem definitions_eq (t : NumberedTree) :
    definitions t = (if isDefinition t.kind then [t] else []) ++ definitionsAll t.children := by
  cases t with
  | node id kind role text children => rw [definitions]; rfl

/-- A definition with the definitions around it, the innermost first. -/
structure Nested where
  around : List NumberedTree
  tree : NumberedTree

mutual

/-- The definitions of a node in source order, given what is around the node. -/
def nested (around : List NumberedTree) : NumberedTree → List Nested
  | .node id kind role text children =>
    let t := NumberedTree.node id kind role text children
    if isDefinition kind then ⟨around, t⟩ :: nestedAll (t :: around) children
    else nestedAll around children

/-- The definitions of nodes side by side. -/
def nestedAll (around : List NumberedTree) : List NumberedTree → List Nested
  | [] => []
  | t :: ts => (if t.isNamed then nested around t else []) ++ nestedAll around ts

end

section Nested

variable {around : List NumberedTree} {t d : NumberedTree} {ts : List NumberedTree} {n : Nested}

theorem nested_definition (hd : isDefinition t.kind = true) :
    nested around t = ⟨around, t⟩ :: nestedAll (t :: around) t.children := by
  cases t with
  | node id kind role text children =>
    change isDefinition kind = true at hd
    rw [nested, if_pos hd]
    rfl

theorem nested_other (hd : isDefinition t.kind = false) :
    nested around t = nestedAll around t.children := by
  cases t with
  | node id kind role text children =>
    change isDefinition kind = false at hd
    rw [nested, hd]
    rfl

theorem mem_nestedAll :
    n ∈ nestedAll around ts ↔ ∃ c ∈ ts, c.isNamed = true ∧ n ∈ nested around c := by
  induction ts with
  | nil => simp [nestedAll]
  | cons t ts ih =>
    rw [nestedAll, List.mem_append, ih]
    cases ht : t.isNamed <;> simp [ht]

theorem mem_definitionsAll :
    d ∈ definitionsAll ts ↔ ∃ c ∈ ts, c.isNamed = true ∧ d ∈ definitions c := by
  induction ts with
  | nil => simp [definitionsAll]
  | cons t ts ih =>
    rw [definitionsAll, List.mem_append, ih]
    cases ht : t.isNamed <;> simp [ht]

theorem map_tree_nestedAll
    (h : ∀ c ∈ ts, ∀ around, (nested around c).map Nested.tree = definitions c)
    (around : List NumberedTree) : (nestedAll around ts).map Nested.tree = definitionsAll ts := by
  induction ts with
  | nil => rfl
  | cons t ts ih =>
    rw [nestedAll, definitionsAll, List.map_append,
      ih fun c hc => h c (List.mem_cons_of_mem t hc)]
    split
    · rw [h t List.mem_cons_self]
    · rfl

theorem map_tree_nested (t : NumberedTree) :
    ∀ around, (nested around t).map Nested.tree = definitions t := by
  induction t using NumberedTree.children_induction with
  | step t ih =>
    intro around
    cases hd : isDefinition t.kind with
    | true =>
      rw [nested_definition hd, definitions_eq, if_pos hd, List.map_cons, map_tree_nestedAll ih]
      rfl
    | false =>
      rw [nested_other hd, definitions_eq, hd, map_tree_nestedAll ih]
      rfl

end Nested

/-! ## The place of a definition -/

/-- The names of these definitions, the outermost first. -/
def namesOf (around : List NumberedTree) : List Text :=
  (around.map fun d => nameOf d.tree).reverse

theorem length_namesOf (around : List NumberedTree) :
    (namesOf around).length = around.length := by
  unfold namesOf
  rw [List.length_reverse, List.length_map]

theorem namesOf_cons (d : NumberedTree) (around : List NumberedTree) :
    namesOf (d :: around) = namesOf around ++ [nameOf d.tree] := by
  unfold namesOf
  rw [List.map_cons, List.reverse_cons]

/-- The table has a definition at its place: the level counts the definitions around it, and a climb
from it meets their names, then those above all definitions, and ends. -/
structure Links.Places (links : Links) (base : List Text) (stop : Option NumberedTree)
    (n : Nested) : Prop where
  link : ∃ owner, links.link? n.tree = some ⟨n.around.length + 1, some owner⟩
  climb : links.climbFrom n.tree = some ((base ++ namesOf (n.tree :: n.around)).reverse, stop)

section Places

variable {links : Links} {base : List Text} {stop : Option NumberedTree} {t root : NumberedTree}
  {n : Nested}

theorem Links.Places.level (h : links.Places base stop n) :
    links.levelOf n.tree = n.around.length + 1 := by
  obtain ⟨owner, hlink⟩ := h.link
  exact Links.levelOf_of_link? hlink

theorem Links.Places.qualifiedName? (h : links.Places base stop n) :
    links.qualifiedName? n.tree = some (Text.join "." (base ++ namesOf (n.tree :: n.around))) := by
  unfold Links.qualifiedName?
  rw [h.climb]
  simp

/-- These definitions are at their places, wherever the table has the right links for them. -/
def ArePlaced (links : Links) (base : List Text) (stop : Option NumberedTree) (t : NumberedTree) :
    Prop :=
  ∀ owner around, links.Holds (expected owner around.length t) →
    links.EndsAt stop owner (base ++ namesOf around) →
    ∀ n ∈ nested around t, links.Places base stop n

theorem places_nestedAll {ts : List NumberedTree} (h : ∀ c ∈ ts, ArePlaced links base stop c)
    {owner : NumberedTree} {around : List NumberedTree}
    (hholds : links.Holds (expectedAll owner around.length ts))
    (hends : links.EndsAt stop owner (base ++ namesOf around)) :
    ∀ n ∈ nestedAll around ts, links.Places base stop n := by
  induction ts with
  | nil => exact fun n hn => nomatch hn
  | cons t ts ih =>
    intro n hn
    rw [nestedAll, List.mem_append] at hn
    rcases hn with hn | hn
    · by_cases hnamed : t.isNamed = true
      · rw [if_pos hnamed] at hn
        exact h t List.mem_cons_self owner around (hholds.head hnamed) hends n hn
      · rw [if_neg hnamed] at hn
        cases hn
    · exact ih (fun c hc => h c (List.mem_cons_of_mem t hc)) hholds.tail n hn

theorem places_nested (hbase : base.length ≤ 1) (t : NumberedTree) :
    ArePlaced links base stop t := by
  induction t using NumberedTree.children_induction with
  | step t ih =>
    intro owner around hholds hends n hn
    cases hd : isDefinition t.kind with
    | false =>
      rw [nested_other hd] at hn
      exact places_nestedAll ih (hholds.transparent hd) hends n hn
    | true =>
      obtain ⟨hlink, hlt, hinside⟩ := hholds.definition hd
      rw [nested_definition hd] at hn
      rcases List.mem_cons.1 hn with rfl | hn
      · have hle : (base ++ namesOf around).length ≤ links.length := by
          rw [List.length_append, length_namesOf]
          omega
        refine ⟨⟨owner, hlink⟩, ?_⟩
        rw [hends.climbFrom hlink hle, namesOf_cons]
        simp
      · refine places_nestedAll ih hinside ?_ n hn
        rw [namesOf_cons, ← List.append_assoc]
        exact hends.definition hd hlink

/-- In a tree with distinct numbers, all definitions below the root are at their places. -/
theorem places_below_root (hn : root.ids.Nodup) :
    ∀ n ∈ nestedAll [] root.children,
      (linksOf root).Places (rootNames root) (climbEnd root) n := by
  refine places_nestedAll (fun c _ => places_nested (length_rootNames_le root) c)
    (linksOf_holds root hn) ?_
  change (linksOf root).EndsAt _ root (rootNames root ++ [])
  rw [List.append_nil]
  exact endsAt_root hn

theorem exists_place {d : NumberedTree} (hn : root.ids.Nodup)
    (hd : d ∈ definitionsAll root.children) :
    ∃ n, n.tree = d ∧ (linksOf root).Places (rootNames root) (climbEnd root) n := by
  rw [← map_tree_nestedAll (fun c _ => map_tree_nested c) []] at hd
  obtain ⟨n, hmem, rfl⟩ := List.mem_map.1 hd
  exact ⟨n, rfl, places_below_root hn n hmem⟩

/-- Every definition of a tree with distinct numbers has a qualified name, whatever the root is. -/
theorem exists_qualifiedName? {d : NumberedTree} (hn : root.ids.Nodup) (hd : d ∈ definitions root) :
    ∃ q, (linksOf root).qualifiedName? d = some q := by
  rw [definitions_eq, List.mem_append] at hd
  rcases hd with hd | hd
  · have hroot : d = root := by
      split at hd
      · exact List.mem_singleton.1 hd
      · cases hd
    subst hroot
    unfold Links.qualifiedName? Links.climbFrom
    rw [owner?_root hn]
    exact ⟨_, rfl⟩
  · obtain ⟨n, rfl, hplace⟩ := exists_place hn hd
    exact ⟨_, hplace.qualifiedName?⟩

end Places

/-! ## The order of definitions -/

/-- Definitions below `around` in the order of a walk that goes inside each of them before it goes
on. -/
structure Ordered (around : List NumberedTree) (ns : List Nested) : Prop where
  around_suffix : ∀ n ∈ ns, around <:+ n.around
  start : ∀ n ∈ ns.head?, n.around = around
  step : ns.IsChain fun n next => next.around.length ≤ n.around.length + 1
  owner : ∀ before n after, ns = before ++ n :: after → n.around = around ∨
    ∃ outer rest earlier between, n.around = outer :: rest ∧
      before = earlier ++ ⟨rest, outer⟩ :: between ∧
      ∀ m ∈ between, rest.length < m.around.length

namespace Ordered

variable {around : List NumberedTree} {ns ms : List Nested} {t : NumberedTree}

theorem nil (around : List NumberedTree) : Ordered around [] where
  around_suffix := nofun
  start := nofun
  step := .nil
  owner := by
    intro before n after h
    cases before <;> cases h

theorem cons (h : Ordered (t :: around) ns) : Ordered around (⟨around, t⟩ :: ns) where
  around_suffix := by
    intro n hn
    rcases List.mem_cons.1 hn with rfl | hn
    · exact List.suffix_refl around
    · exact (List.suffix_cons t around).trans (h.around_suffix n hn)
  start := by
    intro n hn
    cases hn
    rfl
  step := by
    rw [List.isChain_cons]
    refine ⟨?_, h.step⟩
    intro n hn
    rw [h.start n hn]
    exact Nat.le_refl _
  owner := by
    intro before n after heq
    cases before with
    | nil =>
      cases heq
      exact Or.inl rfl
    | cons m before =>
      rw [List.cons_append, List.cons.injEq] at heq
      obtain ⟨rfl, heq⟩ := heq
      right
      rcases h.owner before n after heq with hn | ⟨outer, rest, earlier, between, hn, rfl, hdeep⟩
      · refine ⟨t, around, [], before, hn, rfl, ?_⟩
        intro m hm
        have hm' : m ∈ ns := heq ▸ List.mem_append_left _ hm
        exact (h.around_suffix m hm').length_le
      · exact ⟨outer, rest, _ :: earlier, between, hn, rfl, hdeep⟩

theorem append (h : Ordered around ns) (h' : Ordered around ms) : Ordered around (ns ++ ms) where
  around_suffix := by
    intro n hn
    rcases List.mem_append.1 hn with hn | hn
    · exact h.around_suffix n hn
    · exact h'.around_suffix n hn
  start := by
    intro n hn
    cases ns with
    | nil => exact h'.start n hn
    | cons m ns => exact h.start n hn
  step := by
    rw [List.isChain_append]
    refine ⟨h.step, h'.step, ?_⟩
    intro n hn next hnext
    have hle := (h.around_suffix n (List.mem_of_getLast? hn)).length_le
    rw [h'.start next hnext]
    omega
  owner := by
    intro before n after heq
    rcases List.append_eq_append_iff.1 heq with ⟨middle, rfl, hms⟩ | ⟨middle, rfl, hns⟩
    · rcases h'.owner middle n after hms with hn | ⟨outer, rest, earlier, between, hn, rfl, hdeep⟩
      · exact Or.inl hn
      · exact Or.inr ⟨outer, rest, ns ++ earlier, between, hn, by simp, hdeep⟩
    · cases middle with
      | nil =>
        rcases h'.owner [] n after hns.symm with hn | ⟨outer, rest, earlier, between, -, hnil, -⟩
        · exact Or.inl hn
        · cases earlier <;> cases hnil
      | cons m middle =>
        rw [List.cons_append, List.cons.injEq] at hns
        obtain ⟨rfl, -⟩ := hns
        exact h.owner before n middle rfl

end Ordered

theorem ordered_nestedAll {ts : List NumberedTree}
    (h : ∀ c ∈ ts, ∀ around, Ordered around (nested around c)) (around : List NumberedTree) :
    Ordered around (nestedAll around ts) := by
  induction ts with
  | nil => exact .nil around
  | cons t ts ih =>
    rw [nestedAll]
    refine Ordered.append ?_ (ih fun c hc => h c (List.mem_cons_of_mem t hc))
    split
    · exact h t List.mem_cons_self around
    · exact .nil around

theorem ordered_nested (t : NumberedTree) : ∀ around, Ordered around (nested around t) := by
  induction t using NumberedTree.children_induction with
  | step t ih =>
    intro around
    cases hd : isDefinition t.kind with
    | true =>
      rw [nested_definition hd]
      exact (ordered_nestedAll ih _).cons
    | false =>
      rw [nested_other hd]
      exact ordered_nestedAll ih around

/-! ## Definitions inside each other -/

/-- A definition lies inside another node. -/
def IsInside (d outer : NumberedTree) : Prop := d ∈ definitionsAll outer.children

/-- Among the definitions inside a tree, the innermost one around `d`. -/
structure IsDirectlyAround (t outer d : NumberedTree) : Prop where
  mem : IsInside outer t
  inside : IsInside d outer
  innermost : ∀ other, IsInside other t → IsInside d other → other = outer ∨ IsInside outer other

section Inside

variable {around : List NumberedTree} {t d outer : NumberedTree} {n : Nested}

theorem mem_definitions_iff : d ∈ definitions t ↔
    (isDefinition t.kind = true ∧ d = t) ∨ d ∈ definitionsAll t.children := by
  rw [definitions_eq, List.mem_append]
  cases hd : isDefinition t.kind <;> simp

theorem tree_mem_definitions (hn : n ∈ nested around t) : n.tree ∈ definitions t := by
  rw [← map_tree_nested t around]
  exact List.mem_map_of_mem hn

theorem mem_nested_cases (hn : n ∈ nested around t) :
    (isDefinition t.kind = true ∧ n = ⟨around, t⟩) ∨
      ∃ c ∈ t.children, c.isNamed = true ∧
        n ∈ nested (if isDefinition t.kind then t :: around else around) c := by
  cases hd : isDefinition t.kind with
  | true =>
    rw [nested_definition hd] at hn
    rcases List.mem_cons.1 hn with rfl | hn
    · exact Or.inl ⟨rfl, rfl⟩
    · exact Or.inr (mem_nestedAll.1 hn)
  | false =>
    rw [nested_other hd] at hn
    exact Or.inr (mem_nestedAll.1 hn)

theorem mem_nested_of_child {c : NumberedTree} (hc : c ∈ t.children) (hnamed : c.isNamed = true)
    (hn : n ∈ nested (if isDefinition t.kind then t :: around else around) c) :
    n ∈ nested around t := by
  have hall := mem_nestedAll.2 ⟨c, hc, hnamed, hn⟩
  cases hd : isDefinition t.kind with
  | true =>
    rw [hd] at hall
    rw [nested_definition hd]
    exact List.mem_cons_of_mem _ hall
  | false =>
    rw [hd] at hall
    rw [nested_other hd]
    exact hall

/-- What is noted to be around a definition is around it. -/
theorem isInside_of_mem_around (t : NumberedTree) : ∀ around, ∀ n ∈ nested around t,
    ∀ d ∈ n.around, d ∈ around ∨ (d ∈ definitions t ∧ IsInside n.tree d) := by
  induction t using NumberedTree.children_induction with
  | step t ih =>
    intro around n hn d hd
    rcases mem_nested_cases hn with ⟨-, rfl⟩ | ⟨c, hc, hnamed, hn⟩
    · exact Or.inl hd
    · have htree : n.tree ∈ definitionsAll t.children :=
        mem_definitionsAll.2 ⟨c, hc, hnamed, tree_mem_definitions hn⟩
      rcases ih c hc _ n hn d hd with hd | ⟨hd, hinside⟩
      · split at hd
        · next hdef =>
          rcases List.mem_cons.1 hd with rfl | hd
          · exact Or.inr ⟨mem_definitions_iff.2 (Or.inl ⟨hdef, rfl⟩), htree⟩
          · exact Or.inl hd
        · exact Or.inl hd
      · have hmem := mem_definitionsAll.2 ⟨c, hc, hnamed, hd⟩
        exact Or.inr ⟨mem_definitions_iff.2 (Or.inr hmem), hinside⟩

/-- What is around a definition is noted to be around it, at one of its places. -/
theorem exists_nested_of_isInside (t : NumberedTree) : ∀ around, ∀ outer ∈ definitions t,
    ∀ d, IsInside d outer → ∃ n ∈ nested around t, n.tree = d ∧ outer ∈ n.around := by
  induction t using NumberedTree.children_induction with
  | step t ih =>
    intro around outer houter d hinside
    rcases mem_definitions_iff.1 houter with ⟨hdef, rfl⟩ | houter
    · obtain ⟨c, hc, hnamed, hd⟩ := mem_definitionsAll.1 hinside
      rw [← map_tree_nested c (outer :: around)] at hd
      obtain ⟨n, hn, rfl⟩ := List.mem_map.1 hd
      refine ⟨n, mem_nested_of_child hc hnamed ?_, rfl, ?_⟩
      · rwa [if_pos hdef]
      · exact ((ordered_nested c _).around_suffix n hn).subset List.mem_cons_self
    · obtain ⟨c, hc, hnamed, houter⟩ := mem_definitionsAll.1 houter
      obtain ⟨n, hn, htree, hmem⟩ := ih c hc _ outer houter d hinside
      exact ⟨n, mem_nested_of_child hc hnamed hn, htree, hmem⟩

end Inside

/-! ## Distinct numbers -/

theorem ids_definitionsAll {ts : List NumberedTree}
    (h : ∀ c ∈ ts, ((definitions c).map NumberedTree.id).Sublist c.ids) :
    ((definitionsAll ts).map NumberedTree.id).Sublist (NumberedTree.idsAll ts) := by
  induction ts with
  | nil => exact List.Sublist.refl []
  | cons t ts ih =>
    rw [definitionsAll, NumberedTree.idsAll, List.map_append]
    refine List.Sublist.append ?_ (ih fun c hc => h c (List.mem_cons_of_mem t hc))
    split
    · exact h t List.mem_cons_self
    · exact List.nil_sublist t.ids

theorem ids_definitions (t : NumberedTree) :
    ((definitions t).map NumberedTree.id).Sublist t.ids := by
  induction t using NumberedTree.children_induction with
  | step t ih =>
    have hall := ids_definitionsAll ih
    rw [definitions_eq, List.map_append]
    cases t with
    | node id kind role text children =>
      rw [NumberedTree.ids]
      split
      · exact hall.cons_cons id
      · exact hall.cons id

section Distinct

variable {t outer : NumberedTree} {n m : Nested}

theorem isInside_of_mem_nestedAll (hmem : n ∈ nestedAll [] t.children) : IsInside n.tree t := by
  unfold IsInside
  rw [← map_tree_nestedAll (fun c _ => map_tree_nested c) []]
  exact List.mem_map_of_mem hmem

/-- In a tree with distinct numbers, a definition stands at one place only. -/
theorem eq_of_tree_eq (hn : t.ids.Nodup) (hmem : n ∈ nestedAll [] t.children)
    (hmem' : m ∈ nestedAll [] t.children) (htree : n.tree = m.tree) : n = m := by
  have hchildren : (NumberedTree.idsAll t.children).Nodup := by
    cases t with
    | node id kind role text children =>
      rw [NumberedTree.ids] at hn
      exact (List.nodup_cons.1 hn).2
  have hnodup : ((nestedAll [] t.children).map Nested.tree).Nodup := by
    rw [map_tree_nestedAll fun c _ => map_tree_nested c]
    exact List.Nodup.of_map _ (hchildren.sublist (ids_definitionsAll fun c _ => ids_definitions c))
  exact List.inj_on_of_nodup_map hnodup hmem hmem' htree

theorem mem_around_iff (hn : t.ids.Nodup) (hmem : n ∈ nestedAll [] t.children)
    (houter : IsInside outer t) : outer ∈ n.around ↔ IsInside n.tree outer := by
  constructor
  · intro h
    obtain ⟨c, -, -, hc⟩ := mem_nestedAll.1 hmem
    rcases isInside_of_mem_around c [] n hc outer h with h | h
    · cases h
    · exact h.2
  · intro h
    obtain ⟨c, hc, hnamed, houter⟩ := mem_definitionsAll.1 houter
    obtain ⟨m, hm, htree, hin⟩ := exists_nested_of_isInside c [] outer houter n.tree h
    rwa [eq_of_tree_eq hn hmem (mem_nestedAll.2 ⟨c, hc, hnamed, hm⟩) htree.symm]

theorem isInside_of_mem_around_root (hmem : n ∈ nestedAll [] t.children)
    (houter : outer ∈ n.around) : IsInside outer t := by
  obtain ⟨c, hc, hnamed, hn⟩ := mem_nestedAll.1 hmem
  rcases isInside_of_mem_around c [] n hn outer houter with h | h
  · cases h
  · exact mem_definitionsAll.2 ⟨c, hc, hnamed, h.1⟩

theorem isDirectlyAround (hn : t.ids.Nodup) {rest : List NumberedTree}
    (hmem : n ∈ nestedAll [] t.children) (haround : n.around = outer :: rest)
    (houter : ⟨rest, outer⟩ ∈ nestedAll [] t.children) : IsDirectlyAround t outer n.tree where
  mem := isInside_of_mem_nestedAll houter
  inside := by
    rw [← mem_around_iff hn hmem (isInside_of_mem_nestedAll houter), haround]
    exact List.mem_cons_self
  innermost := by
    intro other hother hinside
    rw [← mem_around_iff hn hmem hother, haround] at hinside
    rcases List.mem_cons.1 hinside with rfl | hrest
    · exact Or.inl rfl
    · exact Or.inr ((mem_around_iff hn houter hother).1 hrest)

end Distinct

end Outline

end DocOutline
