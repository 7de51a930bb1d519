import DocOutline.Outline
import DocOutline.Proofs.Note
import DocOutline.Proofs.Outline.Nesting
import Mathlib.Data.List.Basic

/-!
# The nodes that a visit meets

The nodes that the visit pass goes through, in order (`walk`). The list depends on the tree alone,
not on the options and not on the table of links. An outline is what its nodes give one by one,
whatever the root of the tree is (`ofTree_eq_collect`).
-/

namespace DocOutline

namespace Noted

variable {α β γ : Type}

/-- The lists that a function gives on a list, one behind the other, with all their notes. -/
def collectAll (f : α → Noted (List β)) (as : List α) : Noted (List β) :=
  List.flatten <$> collect f as

@[simp] theorem value_collectAll (f : α → Noted (List β)) (as : List α) :
    (collectAll f as).value = as.flatMap fun a => (f a).value := by
  rw [collectAll, value_map, value_collect]
  rfl

@[simp] theorem notes_collectAll (f : α → Noted (List β)) (as : List α) :
    (collectAll f as).notes = as.flatMap fun a => (f a).notes := by
  rw [collectAll, notes_map, notes_collect]

theorem collectAll_cons (f : α → Noted (List β)) (a : α) (as : List α) :
    collectAll f (a :: as) = (f a).append (collectAll f as) := by
  ext1 <;> simp

theorem collectAll_append (f : α → Noted (List β)) (as bs : List α) :
    collectAll f (as ++ bs) = (collectAll f as).append (collectAll f bs) := by
  ext1 <;> simp

theorem collectAll_map (g : β → γ) (f : α → Noted (List β)) (as : List α) :
    collectAll (fun a => List.map g <$> f a) as = List.map g <$> collectAll f as := by
  ext1 <;> simp [List.map_flatMap]

theorem collectAll_congr {f g : α → Noted (List β)} {as : List α} (h : ∀ a ∈ as, f a = g a) :
    collectAll f as = collectAll g as := by
  ext1
  · rw [value_collectAll, value_collectAll]
    exact List.flatMap_congr fun a ha => by rw [h a ha]
  · rw [notes_collectAll, notes_collectAll]
    exact List.flatMap_congr fun a ha => by rw [h a ha]

end Noted

namespace Outline

open Syntax Signature

/-- A node that a visit meets, with the decorators above it. -/
structure Visited where
  decorators : List SyntaxTree
  tree : NumberedTree

mutual

/-- The nodes that the visit of a node meets, in order. -/
def walk (decorators : List SyntaxTree) : NumberedTree → List Visited
  | .node id kind role text children =>
    let t := NumberedTree.node id kind role text children
    ⟨decorators, t⟩ :: walkAll (decoratorsBelow t.tree) children

/-- The nodes that the visit of nodes side by side meets. -/
def walkAll (decorators : List SyntaxTree) : List NumberedTree → List Visited
  | [] => []
  | t :: ts => (if t.isNamed then walk decorators t else []) ++ walkAll decorators ts

end

theorem walk_eq (decorators : List SyntaxTree) (t : NumberedTree) :
    walk decorators t = ⟨decorators, t⟩ :: walkAll (decoratorsBelow t.tree) t.children := by
  cases t with
  | node id kind role text children => rw [walk]; rfl

theorem mem_walkAll {decorators : List SyntaxTree} {ts : List NumberedTree} {v : Visited} :
    v ∈ walkAll decorators ts ↔ ∃ c ∈ ts, c.isNamed = true ∧ v ∈ walk decorators c := by
  induction ts with
  | nil => simp [walkAll]
  | cons t ts ih =>
    rw [walkAll, List.mem_append, ih]
    cases ht : t.isNamed <;> simp [ht]

/-! ## The definitions among them -/

mutual

theorem definitions_walk : ∀ (t : NumberedTree) (decorators : List SyntaxTree),
    ((walk decorators t).filter fun v => isDefinition v.tree.kind).map Visited.tree = definitions t
  | .node id kind role text children, decorators => by
    simp only [walk, definitions, List.filter_cons, NumberedTree.kind]
    rw [← definitions_walkAll children (decoratorsBelow (NumberedTree.node id kind role text
      children).tree)]
    split <;> rfl

theorem definitions_walkAll : ∀ (ts : List NumberedTree) (decorators : List SyntaxTree),
    ((walkAll decorators ts).filter fun v => isDefinition v.tree.kind).map Visited.tree =
      definitionsAll ts
  | [], _ => rfl
  | t :: ts, decorators => by
    rw [walkAll, definitionsAll, List.filter_append, List.map_append,
      definitions_walkAll ts decorators]
    split
    · rw [definitions_walk t decorators]
    · rfl

end

theorem isDefinition_of_mem {t d : NumberedTree} (hd : d ∈ definitions t) :
    isDefinition d.kind = true := by
  rw [← definitions_walk t []] at hd
  obtain ⟨v, hv, rfl⟩ := List.mem_map.1 hd
  exact (List.mem_filter.1 hv).2

theorem mem_definitions_of_walk {decorators : List SyntaxTree} {t : NumberedTree} {v : Visited}
    (hv : v ∈ walk decorators t) (hd : isDefinition v.tree.kind = true) :
    v.tree ∈ definitions t := by
  rw [← definitions_walk t decorators]
  exact List.mem_map_of_mem (List.mem_filter.2 ⟨hv, hd⟩)

/-! ## What they give -/

/-- The entries of a node that a visit meets. -/
def entriesAt (options : OutlineOptions) (links : Links) (v : Visited) : Noted (List Entry) :=
  (ownEntries options links v.decorators v.tree).getD (pure [])

/-- All functions among these nodes have a qualified name. -/
def Links.Names (links : Links) (vs : List Visited) : Prop :=
  ∀ v ∈ vs, v.tree.kind = .functionDefinition → ∃ q, links.qualifiedName? v.tree = some q

section Visit

variable {options : OutlineOptions} {links : Links}

theorem ownEntries_eq_some (options : OutlineOptions) {v : Visited}
    (h : v.tree.kind = .functionDefinition → ∃ q, links.qualifiedName? v.tree = some q) :
    ownEntries options links v.decorators v.tree = some (entriesAt options links v) := by
  unfold entriesAt
  by_cases hk : v.tree.kind = .functionDefinition
  · obtain ⟨q, hq⟩ := h hk
    unfold ownEntries
    simp only [hk, hq]
    split <;> rfl
  · unfold ownEntries
    cases hc : v.tree.kind
    case functionDefinition => exact absurd hc hk
    all_goals rfl

mutual

theorem visit_eq_collect : ∀ (t : NumberedTree) (decorators : List SyntaxTree),
    links.Names (walk decorators t) →
    visit options links decorators t =
      some (Noted.collectAll (entriesAt options links) (walk decorators t))
  | .node id kind role text children, decorators, h => by
    rw [walk] at h ⊢
    have hown := ownEntries_eq_some options (h _ List.mem_cons_self)
    have hinner := visitAll_eq_collect children _ fun v hv => h v (List.mem_cons_of_mem _ hv)
    rw [visit, Noted.collectAll_cons]
    simp only [hown, hinner]
    rfl

theorem visitAll_eq_collect : ∀ (ts : List NumberedTree) (decorators : List SyntaxTree),
    links.Names (walkAll decorators ts) →
    visitAll options links decorators ts =
      some (Noted.collectAll (entriesAt options links) (walkAll decorators ts))
  | [], _, _ => rfl
  | t :: ts, decorators, h => by
    rw [walkAll] at h ⊢
    have hrest := visitAll_eq_collect ts decorators fun v hv => h v (List.mem_append_right _ hv)
    rw [visitAll, hrest, Noted.collectAll_append]
    by_cases hn : t.isNamed = true
    · rw [if_pos hn] at h
      rw [if_pos hn, if_pos hn,
        visit_eq_collect t decorators fun v hv => h v (List.mem_append_left _ hv)]
      rfl
    · rw [if_neg hn, if_neg hn]
      rfl

end

end Visit

theorem names_walk {t : NumberedTree} (hn : t.ids.Nodup) : (linksOf t).Names (walk [] t) := by
  intro v hv hk
  refine exists_qualifiedName? hn (mem_definitions_of_walk hv ?_)
  rw [hk]
  rfl

/-- The outline of a tree with distinct numbers is what its nodes give. -/
theorem ofNumbered?_eq_collect (options : OutlineOptions) {t : NumberedTree} (hn : t.ids.Nodup) :
    ofNumbered? options t =
      some (Noted.collectAll (entriesAt options (linksOf t)) (walk [] t)) :=
  visit_eq_collect t [] (names_walk hn)

theorem ofTree_eq_collect (options : OutlineOptions) (t : SyntaxTree) :
    ofTree options t =
      Noted.collectAll (entriesAt options (linksOf t.numbered)) (walk [] t.numbered) := by
  unfold ofTree
  rw [ofNumbered?_eq_collect options t.nodup_ids_numbered]
  rfl

end Outline

end DocOutline
