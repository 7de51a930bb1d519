import DocOutline.Syntax.Numbered

/-!
# Numbering a tree

Numbering keeps the tree (`tree_numbered`) and gives no number twice (`nodup_ids_numbered`): the
numbers of a tree are consecutive, from the first one on.
-/

namespace DocOutline.Syntax

namespace NumberedTree

@[simp] theorem trees_eq_map : ∀ ts : List NumberedTree, trees ts = ts.map tree
  | [] => rfl
  | t :: ts => by rw [trees, trees_eq_map ts, List.map_cons]

@[simp] theorem kind_tree (t : NumberedTree) : t.tree.kind = t.kind := by
  cases t with
  | node i k r x cs => rw [tree]; rfl

@[simp] theorem children_tree (t : NumberedTree) : t.tree.children = t.children.map tree := by
  cases t with
  | node i k r x cs => rw [tree, trees_eq_map]; rfl

@[simp] theorem isNamed_tree (t : NumberedTree) : t.tree.isNamed = t.isNamed := by
  unfold SyntaxTree.isNamed isNamed
  rw [kind_tree]

end NumberedTree

namespace SyntaxTree

open NumberedTree

mutual

theorem tree_numberFrom : ∀ (t : SyntaxTree) (next : Nat), (numberFrom next t).1.tree = t
  | .node k r x cs, next => by
    simp only [numberFrom, tree]
    rw [trees_numberAllFrom cs]

theorem trees_numberAllFrom : ∀ (ts : List SyntaxTree) (next : Nat),
    trees (numberAllFrom next ts).1 = ts
  | [], _ => rfl
  | t :: ts, next => by
    simp only [numberAllFrom, trees]
    rw [tree_numberFrom t, trees_numberAllFrom ts]

end

mutual

/-- The numbers of a tree are consecutive. -/
theorem ids_numberFrom : ∀ (t : SyntaxTree) (next : Nat), ∃ n,
    (numberFrom next t).1.ids = List.range' next n ∧ (numberFrom next t).2 = next + n
  | .node k r x cs, next => by
    obtain ⟨n, hids, hrest⟩ := ids_numberAllFrom cs (next + 1)
    refine ⟨n + 1, ?_, ?_⟩
    · simp only [numberFrom, ids]
      rw [hids, List.range'_succ]
    · simp only [numberFrom]
      omega

theorem ids_numberAllFrom : ∀ (ts : List SyntaxTree) (next : Nat), ∃ n,
    idsAll (numberAllFrom next ts).1 = List.range' next n ∧ (numberAllFrom next ts).2 = next + n
  | [], next => ⟨0, rfl, rfl⟩
  | t :: ts, next => by
    obtain ⟨n, hids, hrest⟩ := ids_numberFrom t next
    obtain ⟨m, hids', hrest'⟩ := ids_numberAllFrom ts (numberFrom next t).2
    refine ⟨n + m, ?_, ?_⟩
    · simp only [numberAllFrom, idsAll]
      rw [hids, hids', hrest, List.range'_append_1]
    · simp only [numberAllFrom]
      omega

end

@[simp] theorem tree_numbered (t : SyntaxTree) : t.numbered.tree = t := tree_numberFrom t 0

theorem nodup_ids_numbered (t : SyntaxTree) : t.numbered.ids.Nodup := by
  obtain ⟨n, hids, -⟩ := ids_numberFrom t 0
  unfold numbered
  rw [hids]
  exact List.nodup_range'

end SyntaxTree

end DocOutline.Syntax
