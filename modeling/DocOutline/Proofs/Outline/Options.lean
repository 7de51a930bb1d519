import DocOutline.Proofs.Outline.Walk
import DocOutline.Proofs.Syntax.File

/-!
# Independent options

Each option of an outline has one effect and leaves everything else alone, whatever the others say.
All of them act on the entries of a single node (`entriesAt`), and which nodes there are does not
depend on them. So it is enough to compare the entries of one node.

With the docstring of the module an outline has one more entry for each module that the tree holds.
A file is one, and it comes first; a source that breaks off has none, and there the option has no
effect.
-/

namespace DocOutline

/-- The entry with another layout of its docstring. Only functions have a layout. -/
def Entry.withStyle (style : DocStyle) (e : Entry) : Entry :=
  match e.subject with
  | .functionDef _ => { e with subject := .functionDef style }
  | _ => e

namespace Outline

open Syntax Signature

/-- Whether a node is a function whose own name starts with two underscores. -/
def isPrivateFunction (t : NumberedTree) : Bool :=
  t.kind = .functionDefinition && ("__" : Text).isPrefixOf (nameOf t.tree)

/-! ## One node -/

section Node

variable (options : OutlineOptions) (links : Links) (v : Visited)

theorem value_entriesAt_public :
    (entriesAt { options with privateMembers := false } links v).value =
      if isPrivateFunction v.tree then []
      else (entriesAt { options with privateMembers := true } links v).value := by
  unfold entriesAt ownEntries
  by_cases hk : v.tree.kind = .functionDefinition
  · have hprivate : isPrivateFunction v.tree = ("__" : Text).isPrefixOf (nameOf v.tree.tree) := by
      rw [isPrivateFunction, decide_eq_true hk, Bool.true_and]
    simp only [hk, hprivate, isHidden, Bool.not_false, Bool.true_and, Bool.not_true, Bool.false_and]
    split <;> rfl
  · have hprivate : isPrivateFunction v.tree = false := by
      rw [isPrivateFunction, decide_eq_false hk, Bool.false_and]
    rw [hprivate, if_neg Bool.false_ne_true]
    cases hc : v.tree.kind
    case functionDefinition => exact absurd hc hk
    all_goals rfl

theorem entriesAt_style (style : DocStyle) :
    entriesAt { options with style } links v =
      List.map (Entry.withStyle style) <$> entriesAt options links v := by
  have hhidden : isHidden { options with style } v.tree.tree = isHidden options v.tree.tree := rfl
  unfold entriesAt ownEntries
  cases hc : v.tree.kind
  case sourceFile => cases options.moduleDocstring <;> rfl
  case classDefinition =>
    simp only [Option.getD_some, map_bind, map_pure]
    rfl
  case functionDefinition =>
    simp only [hhidden]
    cases isHidden options v.tree.tree with
    | true => rfl
    | false =>
      cases links.qualifiedName? v.tree with
      | none => rfl
      | some q =>
        simp only [functionEntry, Bool.false_eq_true, if_false, Option.bind_eq_bind,
          Option.bind_some, Option.pure_def, Option.getD_some, bind_assoc, pure_bind, map_bind,
          map_pure]
        rfl
  all_goals rfl

theorem entriesAt_moduleDocstring (b : Bool) (hk : v.tree.kind ≠ .sourceFile) :
    entriesAt { options with moduleDocstring := b } links v = entriesAt options links v := by
  unfold entriesAt ownEntries
  cases hc : v.tree.kind
  case sourceFile => exact absurd hc hk
  all_goals rfl

theorem entriesAt_file (hk : v.tree.kind = .sourceFile) :
    entriesAt options links v =
      pure (if options.moduleDocstring then [.ofModule (docstring? v.tree.tree)] else []) := by
  unfold entriesAt ownEntries
  simp only [hk]
  rfl

theorem isModule_of_mem_entriesAt (hoff : options.moduleDocstring = false) {e : Entry}
    (he : e ∈ (entriesAt options links v).value) : e.isModule = false := by
  unfold entriesAt ownEntries at he
  cases hc : v.tree.kind
  case sourceFile =>
    simp only [hc, hoff] at he
    cases he
  case classDefinition =>
    simp only [hc] at he
    rw [List.mem_singleton.1 he]
    rfl
  case functionDefinition =>
    simp only [hc] at he
    split at he
    · cases he
    · cases hname : links.qualifiedName? v.tree with
      | none =>
        rw [hname] at he
        cases he
      | some q =>
        rw [hname] at he
        rw [List.mem_singleton.1 he]
        rfl
  all_goals
    simp only [hc] at he
    cases he

end Node

/-! ## All nodes of a tree -/

/-- The entries of a tree, each with the node that it documents. -/
def located (options : OutlineOptions) (t : SyntaxTree) : List (NumberedTree × Entry) :=
  (walk [] t.numbered).flatMap fun v =>
    (entriesAt options (linksOf t.numbered) v).value.map (v.tree, ·)

section Tree

variable (options : OutlineOptions) {t : SyntaxTree}

theorem value_ofTree_eq_located (t : SyntaxTree) :
    (ofTree options t).value = (located options t).map Prod.snd := by
  rw [ofTree_eq_collect, Noted.value_collectAll, located, List.map_flatMap]
  refine List.flatMap_congr fun v _ => ?_
  rw [List.map_map]
  exact (List.map_id _).symm

/-- Nodes that lose their entries under an option are filtered out. -/
theorem located_filter {options options' : OutlineOptions} (keep : NumberedTree → Bool)
    (h : ∀ links v, (entriesAt options links v).value =
      if keep v.tree then (entriesAt options' links v).value else []) (t : SyntaxTree) :
    located options t = (located options' t).filter fun p => keep p.1 := by
  unfold located
  rw [List.filter_flatMap]
  refine List.flatMap_congr fun v _ => ?_
  rw [h, List.filter_map]
  cases hv : keep v.tree <;> simp [Function.comp_def, hv]

theorem located_public (t : SyntaxTree) :
    located { options with privateMembers := false } t =
      (located { options with privateMembers := true } t).filter (!isPrivateFunction ·.1) := by
  refine located_filter (fun d => !isPrivateFunction d) ?_ t
  intro links v
  rw [value_entriesAt_public]
  cases isPrivateFunction v.tree <;> rfl

theorem located_noModule (t : SyntaxTree) :
    located { options with moduleDocstring := false } t =
      (located { options with moduleDocstring := true } t).filter (·.1.kind != .sourceFile) := by
  refine located_filter (fun d => d.kind != .sourceFile) ?_ t
  intro links v
  by_cases hk : v.tree.kind = .sourceFile
  · rw [entriesAt_file _ links v hk, hk]
    rfl
  · rw [entriesAt_moduleDocstring options links v true hk,
      entriesAt_moduleDocstring options links v false hk, if_pos (bne_iff_ne.2 hk)]

theorem kind_ne_of_walk (t : NumberedTree) : ∀ decorators, t.tree.IsInner →
    ∀ v ∈ walk decorators t, v.tree.kind ≠ .sourceFile := by
  induction t using NumberedTree.children_induction with
  | step t ih =>
    intro decorators ht v hv
    obtain ⟨hkind, hinner⟩ := SyntaxTree.isInner_iff.1 ht
    rw [walk_eq] at hv
    rcases List.mem_cons.1 hv with rfl | hv
    · rw [← NumberedTree.kind_tree]
      exact hkind.ne_sourceFile
    · obtain ⟨c, hc, -, hv⟩ := mem_walkAll.1 hv
      rw [NumberedTree.children_tree, SyntaxTree.allInner_iff] at hinner
      exact ih c hc _ (hinner _ (List.mem_map_of_mem hc)) v hv

/-- With no file inside it, a tree has one more entry for its root if that is a file, and otherwise
the same entries. -/
theorem ofTree_moduleDocstring (hinner : ∀ c ∈ t.children, c.IsInner) :
    ofTree { options with moduleDocstring := true } t =
      (if t.kind = .sourceFile then (Entry.ofModule (docstring? t) :: ·) else id) <$>
        ofTree { options with moduleDocstring := false } t := by
  have hsame : ∀ decorators, ∀ v ∈ walkAll decorators t.numbered.children,
      entriesAt { options with moduleDocstring := true } (linksOf t.numbered) v =
        entriesAt { options with moduleDocstring := false } (linksOf t.numbered) v := by
    intro decorators v hv
    obtain ⟨c, hc, -, hv⟩ := mem_walkAll.1 hv
    have hc' : c.tree ∈ t.children := by
      rw [← t.tree_numbered, NumberedTree.children_tree]
      exact List.mem_map_of_mem hc
    have hk := kind_ne_of_walk c decorators (hinner _ hc') v hv
    rw [entriesAt_moduleDocstring options _ v true hk,
      entriesAt_moduleDocstring options _ v false hk]
  have hkind : t.numbered.kind = t.kind := by rw [← NumberedTree.kind_tree, t.tree_numbered]
  rw [ofTree_eq_collect, ofTree_eq_collect, walk_eq, Noted.collectAll_cons, Noted.collectAll_cons,
    Noted.collectAll_congr (hsame _)]
  split
  · next hroot =>
    rw [entriesAt_file _ _ _ (hkind.trans hroot), entriesAt_file _ _ _ (hkind.trans hroot),
      t.tree_numbered]
    ext1 <;> simp
  · next hroot =>
    have hne : t.numbered.kind ≠ .sourceFile := fun h => hroot (hkind.symm.trans h)
    rw [entriesAt_moduleDocstring options _ ⟨[], t.numbered⟩ true hne,
      entriesAt_moduleDocstring options _ ⟨[], t.numbered⟩ false hne, id_map]

theorem isModule_of_mem_ofTree {options : OutlineOptions} (hoff : options.moduleDocstring = false)
    {e : Entry} (he : e ∈ (ofTree options t).value) : e.isModule = false := by
  rw [ofTree_eq_collect, Noted.value_collectAll] at he
  obtain ⟨v, -, he⟩ := List.mem_flatMap.1 he
  exact isModule_of_mem_entriesAt options _ v hoff he

theorem ofTree_style (style : DocStyle) (t : SyntaxTree) :
    ofTree { options with style } t = List.map (Entry.withStyle style) <$> ofTree options t := by
  rw [ofTree_eq_collect, ofTree_eq_collect, ← Noted.collectAll_map]
  exact Noted.collectAll_congr fun v _ => entriesAt_style options _ v style

end Tree

/-- In every tree, leaving private members out removes the functions with a private name of their
own and nothing else, not even what is inside them. Leaving the docstring of the module out removes
the entries of modules; that is the first entry of a file, and nothing of a tree without a module.
The style of docstrings changes the style of functions and nothing else. -/
theorem options_independent (options : OutlineOptions) (t : SyntaxTree) :
    (∀ options, (ofTree options t).value = (located options t).map Prod.snd) ∧
    located { options with privateMembers := false } t =
      (located { options with privateMembers := true } t).filter (!isPrivateFunction ·.1) ∧
    located { options with moduleDocstring := false } t =
      (located { options with moduleDocstring := true } t).filter (·.1.kind != .sourceFile) ∧
    ((∀ c ∈ t.children, c.IsInner) → ofTree { options with moduleDocstring := true } t =
      (if t.kind = .sourceFile then (Entry.ofModule (docstring? t) :: ·) else id) <$>
        ofTree { options with moduleDocstring := false } t) ∧
    ∀ style, ofTree { options with style } t =
      List.map (Entry.withStyle style) <$> ofTree options t :=
  ⟨fun options => value_ofTree_eq_located options t, located_public options t,
    located_noModule options t, ofTree_moduleDocstring options,
    fun style => ofTree_style options style t⟩

/-- A function inside a private one stays at its place. -/
theorem options_independent_nested :
    let t := parse "'m'\nclass A:\n def __f():\n  def g(): 'd'\n"
    let titles := fun options => (ofTree options t).value.map fun e => (e.title, e.level)
    (∀ c ∈ t.children, c.IsInner) ∧ t.kind = .sourceFile ∧ docstring? t = some "m".toList ∧
      titles ⟨true, true, .pre⟩ =
        [([], 0), ("A()".toList, 1), ("A.__f()".toList, 2), ("A.__f.g()".toList, 3)] ∧
      titles ⟨true, false, .pre⟩ = [([], 0), ("A()".toList, 1), ("A.__f.g()".toList, 3)] ∧
      located ⟨true, false, .pre⟩ t =
        (located ⟨true, true, .pre⟩ t).filter (!isPrivateFunction ·.1) ∧
      ofTree ⟨true, false, .quote⟩ t =
        List.map (Entry.withStyle .quote) <$> ofTree ⟨true, false, .pre⟩ t ∧
      ofTree ⟨true, false, .pre⟩ t =
        (if t.kind = .sourceFile then (Entry.ofModule (docstring? t) :: ·) else id) <$>
          ofTree ⟨false, false, .pre⟩ t := by
  intro t titles
  have hinner : ∀ c ∈ t.children, c.IsInner := isInner_of_mem_parse _
  refine ⟨hinner, by decide +kernel, by decide +kernel, by decide +kernel, by decide +kernel,
    ?_, ?_, ?_⟩
  · exact (options_independent ⟨true, true, .pre⟩ t).2.1
  · exact (options_independent ⟨true, false, .pre⟩ t).2.2.2.2 .quote
  · exact (options_independent ⟨true, false, .pre⟩ t).2.2.2.1 hinner

/-- A source that breaks off in open brackets has no module, so its docstring is not shown with the
option either. -/
theorem module_docstring_of_broken_off :
    let t := parse ("'m'\nclass A: pass\n" ++ List.replicate 25 '(')
    let entries := fun options => (ofTree options t).value
    ((entries ⟨true, true, .pre⟩).map fun e => (e.title, e.level)) = [("A()".toList, 1)] ∧
      entries ⟨true, true, .pre⟩ = entries ⟨false, true, .pre⟩ ∧
      ∀ e, entries ⟨true, true, .pre⟩ ≠ e :: entries ⟨false, true, .pre⟩ := by
  intro t entries
  have hsame : entries ⟨true, true, .pre⟩ = entries ⟨false, true, .pre⟩ := by decide +kernel
  refine ⟨by decide +kernel, hsame, ?_⟩
  intro e he
  exact List.cons_ne_self e _ (he.symm.trans hsame)

end Outline

end DocOutline
