import DocOutline.Proofs.Outline.Scopes
import DocOutline.Proofs.Signature.HeaderComments
import Mathlib.Data.List.Basic

/-!
# Comments and outlines

The outline of a tree against the outline of the same tree without its comments. Docstrings, names,
levels and the order of entries never depend on comments. Definitions do in the two cases that
`Signature.Disturbed` describes, so that the outlines are the same exactly if no entry shows a
disturbed expression.
-/

namespace DocOutline.Outline

open Syntax Signature

/-! ## Docstrings -/

section Docstrings

variable {t : SyntaxTree}

theorem literal?_withoutComments (t : SyntaxTree) :
    Docstring.literal? t.withoutComments = Docstring.literal? t := by
  have hparts : t.withoutComments.namedChildren.filter (·.kind = .string) =
      (t.namedChildren.filter (·.kind = .string)).map SyntaxTree.withoutComments := by
    rw [SyntaxTree.namedChildren_withoutComments,
      SyntaxTree.filter_map_withoutComments _ _ fun c => by rw [SyntaxTree.kind_withoutComments],
      SyntaxTree.parts, List.filter_filter]
    congr 1
    apply List.filter_congr
    intro c _
    by_cases hc : c.kind = .string
    · simp [SyntaxTree.isComment, hc]
    · simp [hc]
  unfold Docstring.literal?
  rw [SyntaxTree.kind_withoutComments, SyntaxTree.text_withoutComments, hparts, List.mapM_map]
  simp only [Function.comp_def, SyntaxTree.text_withoutComments]

theorem soleExpression?_withoutComments (hs : t.hasShape = true) :
    Docstring.soleExpression? t.withoutComments =
      (Docstring.soleExpression? t).map SyntaxTree.withoutComments := by
  unfold Docstring.soleExpression?
  rw [SyntaxTree.kind_withoutComments]
  by_cases hk : t.kind = .expressionStatement
  · have hfree : ∀ c ∈ t.children, c.isComment = false := by
      simpa [SyntaxTree.hasShape, hk] using hs
    have hparts : t.parts = t.namedChildren := List.filter_eq_self.2 fun c hc => by
      simp [hfree c (SyntaxTree.mem_children_of_mem_namedChildren hc)]
    rw [if_pos hk, if_pos hk, SyntaxTree.namedChildren_withoutComments, hparts]
    rcases t.namedChildren with - | ⟨e, - | ⟨d, rest⟩⟩
    · rfl
    · rfl
    · rfl
  · rw [if_neg hk, if_neg hk]
    rfl

theorem docstring?_withoutComments (hg : t.IsGrammatical) :
    docstring? t.withoutComments = docstring? t := by
  unfold docstring?
  rw [SyntaxTree.parts_withoutComments, List.head?_map]
  cases hfirst : t.parts.head? with
  | none => rfl
  | some first =>
    have hgf := hg.child (SyntaxTree.mem_children_of_mem_parts (List.mem_of_head? hfirst))
    simp only [Option.map_some, Option.bind_eq_bind, Option.bind_some,
      soleExpression?_withoutComments hgf.shape, Option.bind_map, Function.comp_def,
      literal?_withoutComments]

theorem definitionDocstring?_withoutComments (hg : t.IsGrammatical) :
    definitionDocstring? t.withoutComments = definitionDocstring? t := by
  unfold definitionDocstring?
  rw [hg.child?_withoutComments (by decide)]
  cases hbody : t.child? .body with
  | none => rfl
  | some body =>
    exact docstring?_withoutComments (hg.child (SyntaxTree.mem_children_of_child? hbody))

end Docstrings

/-! ## Scopes -/

namespace Placed

/-- A scope without the comments in it. -/
def withoutComments (s : Placed) : Placed :=
  ⟨s.enclosing, s.decorators.map SyntaxTree.withoutComments, s.tree.withoutComments⟩

@[simp] theorem tree_withoutComments (s : Placed) :
    s.withoutComments.tree = s.tree.withoutComments := rfl

@[simp] theorem decorators_withoutComments (s : Placed) :
    s.withoutComments.decorators = s.decorators.map SyntaxTree.withoutComments := rfl

@[simp] theorem level_withoutComments (s : Placed) : s.withoutComments.level = s.level := rfl

theorem dottedName_withoutComments {s : Placed} (hg : s.tree.IsGrammatical) :
    s.withoutComments.dottedName = s.dottedName := by
  unfold dottedName
  exact congrArg (fun name => Text.join "." (s.enclosing ++ [name])) (nameOf_withoutComments hg)

/-- Whether the outline shows a definition. -/
def isShown (options : OutlineOptions) (s : Placed) : Bool :=
  s.tree.kind ≠ .functionDefinition || !isHidden options s.tree

end Placed

theorem namesInside_withoutComments {t : SyntaxTree} (hg : t.IsGrammatical)
    (enclosing : List Text) :
    namesInside enclosing t.withoutComments = namesInside enclosing t := by
  unfold namesInside
  rw [SyntaxTree.kind_withoutComments, nameOf_withoutComments hg]

theorem decoratorsBelow_withoutComments (t : SyntaxTree) :
    decoratorsBelow t.withoutComments =
      (decoratorsBelow t).map SyntaxTree.withoutComments := by
  unfold decoratorsBelow
  rw [SyntaxTree.kind_withoutComments]
  split
  · rw [SyntaxTree.namedChildren_withoutComments,
      SyntaxTree.filter_map_withoutComments _ _ fun c => by rw [SyntaxTree.kind_withoutComments],
      SyntaxTree.parts, List.filter_filter]
    congr 1
    apply List.filter_congr
    intro c _
    by_cases hc : c.kind = .decorator
    · simp [SyntaxTree.isComment, hc]
    · simp [hc]
  · rfl

/-- There are no scopes in a comment. -/
theorem placedAll_comment {c : SyntaxTree} (hc : c.isComment = true) (hleaf : c.children = [])
    (enclosing : List Text) (decorators : List SyntaxTree) :
    Scope.placedAll enclosing (scopesOf decorators c) = [] := by
  have hk : c.kind = .comment := of_decide_eq_true hc
  rw [placedAll_scopesOf_other (by rw [hk]; rfl), hleaf]
  rfl

/-- The walk inside a node passes over comments. -/
theorem placedAll_inner {t : SyntaxTree} (hg : t.IsGrammatical) (enclosing : List Text)
    (decorators : List SyntaxTree) :
    Scope.placedAll enclosing (scopesOfAll decorators t.children) =
      t.parts.flatMap fun c => Scope.placedAll enclosing (scopesOf decorators c) := by
  rw [placedAll_scopesOfAll]
  change t.namedChildren.flatMap _ = _
  have hcomment : ∀ c ∈ t.namedChildren, c.isComment = true →
      Scope.placedAll enclosing (scopesOf decorators c) = [] := fun c hc hcm =>
    placedAll_comment hcm (hg.comment (SyntaxTree.mem_children_of_mem_namedChildren hc) hcm).1 _ _
  unfold SyntaxTree.parts
  generalize t.namedChildren = cs at hcomment
  induction cs with
  | nil => rfl
  | cons c cs ih =>
    have ih' := ih fun c' hc' => hcomment c' (List.mem_cons_of_mem c hc')
    rw [List.flatMap_cons, ih']
    cases hcm : c.isComment with
    | true =>
      rw [hcomment c List.mem_cons_self hcm, List.filter_cons_of_neg (by simp [hcm])]
      rfl
    | false => rw [List.filter_cons_of_pos (by simp [hcm]), List.flatMap_cons]

theorem placedAll_withoutComments (t : SyntaxTree) :
    ∀ (enclosing : List Text) (decorators : List SyntaxTree), t.IsGrammatical →
      Scope.placedAll enclosing
          (scopesOf (decorators.map SyntaxTree.withoutComments) t.withoutComments) =
        (Scope.placedAll enclosing (scopesOf decorators t)).map Placed.withoutComments := by
  induction t using SyntaxTree.below_induction with
  | step t ih =>
    intro enclosing decorators hg
    have hinner : ∀ names, Scope.placedAll names
          (scopesOfAll (decoratorsBelow t.withoutComments) t.withoutComments.children) =
        (Scope.placedAll names (scopesOfAll (decoratorsBelow t) t.children)).map
          Placed.withoutComments := by
      intro names
      rw [placedAll_scopesOfAll, placedAll_inner hg, List.map_flatMap]
      change t.withoutComments.namedChildren.flatMap _ = _
      rw [SyntaxTree.namedChildren_withoutComments, List.flatMap_map,
        decoratorsBelow_withoutComments]
      apply List.flatMap_congr
      intro c hc
      have hc' := SyntaxTree.mem_children_of_mem_parts hc
      exact ih c hc' c c.self_mem_nodes names (decoratorsBelow t) (hg.child hc')
    cases hscope : opensScope t.kind with
    | true =>
      have hscope' : opensScope t.withoutComments.kind = true := by
        rwa [SyntaxTree.kind_withoutComments]
      rw [placedAll_scopesOf_scope hscope, placedAll_scopesOf_scope hscope',
        namesInside_withoutComments hg, hinner, List.map_cons]
      rfl
    | false =>
      have hscope' : opensScope t.withoutComments.kind = false := by
        rwa [SyntaxTree.kind_withoutComments]
      rw [placedAll_scopesOf_other hscope, placedAll_scopesOf_other hscope', hinner]

theorem placedIn_withoutComments {t : SyntaxTree} (hg : t.IsGrammatical) :
    placedIn t.withoutComments = (placedIn t).map Placed.withoutComments :=
  placedAll_withoutComments t [] [] hg

/-! ## Entries -/

section Entries

variable (options : OutlineOptions) {s : Placed}

theorem isHidden_withoutComments {t : SyntaxTree} (hg : t.IsGrammatical) :
    isHidden options t.withoutComments = isHidden options t := by
  unfold isHidden
  rw [nameOf_withoutComments hg]

/-- A scope gives an entry without its comments exactly if it gives one with them, and the two are
the same unless the entry shows a disturbed expression. -/
structure Agrees (options : OutlineOptions) (s : Placed) : Prop where
  isSome_eq : (s.withoutComments.entry? options).value.isSome = (s.entry? options).value.isSome
  eq_iff : (s.withoutComments.entry? options).value = (s.entry? options).value ↔
    (s.isShown options = true → ∀ slot ∈ slotsOf s.decorators s.tree, ¬ slot.IsDisturbed)

theorem agrees_class (hg : s.tree.IsGrammatical) (hk : s.tree.kind = .classDefinition) :
    Agrees options s := by
  have hplain := value_entry?_class options (s := s.withoutComments) (by simpa using hk)
  rw [Placed.tree_withoutComments, Placed.level_withoutComments, nameOf_withoutComments hg,
    definitionDocstring?_withoutComments hg] at hplain
  refine ⟨by rw [hplain, value_entry?_class options hk]; rfl, ?_⟩
  have hshown : s.isShown options = true := by simp [Placed.isShown, hk]
  have hslots : slotsOf s.decorators s.tree = baseSlots s.tree := by simp only [slotsOf, hk]
  calc (s.withoutComments.entry? options).value = (s.entry? options).value
      ↔ (classHeader s.tree.withoutComments).value = (classHeader s.tree).value := by
        rw [hplain, value_entry?_class options hk]
        simp [Entry.make]
    _ ↔ ¬ ∃ slot ∈ baseSlots s.tree, slot.IsDisturbed := (shifted_classHeader hg).eq_iff
    _ ↔ _ := by simp [hshown, hslots]

/-- The lines of decorators that show no disturbed expression. -/
theorem lines_withoutComments {decorators : List SyntaxTree}
    (hd : ∀ d ∈ decorators, d.IsGrammatical)
    (hfree : ∀ d ∈ decorators, ∀ slot ∈ decoratorSlots d, ¬ slot.IsDisturbed) :
    (decorators.map SyntaxTree.withoutComments).map (fun d => (decoratorLine d).value) =
      decorators.map fun d => (decoratorLine d).value := by
  rw [List.map_map]
  apply List.map_congr_left
  intro d hmem
  exact (shifted_decoratorLine (hd d hmem)).eq_iff.2
    fun ⟨slot, hslot, hdis⟩ => hfree d hmem slot hslot hdis

theorem agrees_function (hs : s.IsGrammatical) (hk : s.tree.kind = .functionDefinition) :
    Agrees options s := by
  obtain ⟨hg, hd⟩ := hs
  have hplain := value_entry?_function options (s := s.withoutComments)
    (by simpa using hk)
  rw [Placed.tree_withoutComments, Placed.level_withoutComments, Placed.decorators_withoutComments,
    Placed.dottedName_withoutComments hg, isHidden_withoutComments options hg,
    definitionDocstring?_withoutComments hg] at hplain
  have hcommented := value_entry?_function options hk
  by_cases hidden : isHidden options s.tree = true
  · rw [if_pos hidden] at hplain hcommented
    have hshown : s.isShown options = false := by simp [Placed.isShown, hk, hidden]
    exact ⟨by rw [hplain, hcommented], by simp [hplain, hcommented, hshown]⟩
  · rw [if_neg hidden] at hplain hcommented
    have hshown : s.isShown options = true := by simp [Placed.isShown, hidden]
    have hheader := (shifted_functionHeader hg hk hd s.dottedName).eq_iff
    refine ⟨by rw [hplain, hcommented]; rfl, ?_⟩
    rw [hplain, hcommented]
    refine ⟨fun heq _ slot hslot hdis => ?_, fun hfree => ?_⟩
    · simp only [Entry.make, Option.some.injEq, Entry.mk.injEq] at heq
      exact hheader.1 heq.2.2.1 ⟨slot, hslot, hdis⟩
    · have hnone : ¬ ∃ slot ∈ slotsOf s.decorators s.tree, slot.IsDisturbed :=
        fun ⟨slot, hslot, hdis⟩ => hfree hshown slot hslot hdis
      rw [hheader.2 hnone, lines_withoutComments hd]
      intro d hd' slot hslot hdis
      refine hnone ⟨slot, ?_, hdis⟩
      simp only [slotsOf, hk]
      exact List.mem_append_left _ (List.mem_append_left _ (List.mem_flatMap.2 ⟨d, hd', hslot⟩))

theorem agrees_of_no_slots (hs : s.tree.kind ≠ .classDefinition)
    (hf : s.tree.kind ≠ .functionDefinition)
    (heq : (s.withoutComments.entry? options).value = (s.entry? options).value) :
    Agrees options s := by
  have hslots : slotsOf s.decorators s.tree = [] := by
    unfold slotsOf
    split <;> simp_all
  exact ⟨by rw [heq], by simp [heq, hslots]⟩

theorem agrees (hs : s.IsGrammatical) : Agrees options s := by
  by_cases hc : s.tree.kind = .classDefinition
  · exact agrees_class options hs.1 hc
  by_cases hf : s.tree.kind = .functionDefinition
  · exact agrees_function options hs hf
  apply agrees_of_no_slots options hc hf
  by_cases hfile : s.tree.kind = .sourceFile
  · rw [value_entry?_file options hfile, value_entry?_file options (by simpa using hfile),
      Placed.tree_withoutComments, docstring?_withoutComments hs.1]
  · have hother : opensScope s.tree.kind = false := by
      simp [opensScope, isDefinition, hc, hf, hfile]
    rw [value_entry?_other options hother, value_entry?_other options (by simpa using hother)]

end Entries

/-! ## Outlines -/

theorem filterMap_eq_iff {α β : Type} {f g : α → Option β} {as : List α}
    (h : ∀ a ∈ as, (f a).isSome = (g a).isSome) :
    as.filterMap f = as.filterMap g ↔ ∀ a ∈ as, f a = g a := by
  refine ⟨fun heq => ?_, List.filterMap_congr⟩
  induction as with
  | nil => simp
  | cons a as ih =>
    have ih' := ih fun b hb => h b (List.mem_cons_of_mem a hb)
    have ha := h a List.mem_cons_self
    rw [List.forall_mem_cons]
    cases hf : f a with
    | none =>
      have hg : g a = none := by simpa [hf] using ha.symm
      rw [List.filterMap_cons_none hf, List.filterMap_cons_none hg] at heq
      exact ⟨hg.symm, ih' heq⟩
    | some b =>
      obtain ⟨c, hg⟩ : ∃ c, g a = some c := Option.isSome_iff_exists.1 (by rw [← ha, hf]; rfl)
      rw [List.filterMap_cons_some hf, List.filterMap_cons_some hg, List.cons.injEq] at heq
      exact ⟨by rw [hg, heq.1], ih' heq.2⟩

/-- The outline of a tree is that of the tree without its comments, exactly if no entry shows an
expression in which a comment stands behind the head of a generic type or inside a member type. -/
theorem outline_withoutComments_iff (options : OutlineOptions) {t : SyntaxTree}
    (hg : t.IsGrammatical) (hroot : t.kind = .sourceFile) :
    (ofTree options t.withoutComments).value = (ofTree options t).value ↔
      ∀ s ∈ placedIn t, s.isShown options = true →
        ∀ slot ∈ slotsOf s.decorators s.tree, ¬ slot.IsDisturbed := by
  have hagrees : ∀ s ∈ placedIn t, Agrees options s :=
    fun s hs => agrees options (grammatical_of_mem_placedIn hg hs)
  rw [ofTree_eq_preorder options (by simpa using hroot), ofTree_eq_preorder options hroot]
  unfold preorder
  rw [Noted.value_collectSome, Noted.value_collectSome, placedIn_withoutComments hg,
    List.filterMap_map]
  -- Comments neither add nor remove an entry, so the outlines can be compared entry by entry.
  exact (filterMap_eq_iff fun s hs => (hagrees s hs).isSome_eq).trans
    (forall₂_congr fun s hs => (hagrees s hs).eq_iff)

/-- A comment behind the head of a generic type takes the head away. -/
theorem outline_commented_generic :
    let t := parse "def f(x: A # c\n [b]): pass\n"
    t.IsGrammatical ∧ t.kind = .sourceFile ∧
      (ofTree ⟨false, false, .pre⟩ t).value.map (·.definition) = ["def f(x: [b]):".toList] ∧
      (ofTree ⟨false, false, .pre⟩ t.withoutComments).value.map (·.definition) =
        ["def f(x: A[b]):".toList] ∧
      ¬ ∀ s ∈ placedIn t, s.isShown ⟨false, false, .pre⟩ = true →
        ∀ slot ∈ slotsOf s.decorators s.tree, ¬ slot.IsDisturbed := by
  intro t
  have hg : t.IsGrammatical := by decide +kernel
  have hroot : t.kind = .sourceFile := by decide +kernel
  have hcommented : (ofTree ⟨false, false, .pre⟩ t).value.map (·.definition) =
      ["def f(x: [b]):".toList] := by
    rw [ofTree_eq_preorder _ hroot]
    decide +kernel
  have hplain : (ofTree ⟨false, false, .pre⟩ t.withoutComments).value.map (·.definition) =
      ["def f(x: A[b]):".toList] := by
    rw [ofTree_eq_preorder _ (by simpa using hroot)]
    decide +kernel
  refine ⟨hg, hroot, hcommented, hplain, ?_⟩
  rw [← outline_withoutComments_iff ⟨false, false, .pre⟩ hg hroot]
  intro heq
  rw [heq, hcommented] at hplain
  exact absurd hplain (by decide)

end DocOutline.Outline
