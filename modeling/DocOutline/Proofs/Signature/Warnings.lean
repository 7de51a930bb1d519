import DocOutline.Proofs.Signature.RoundTrip

/-!
# Warnings about expressions

The notes of a rendering are those of the parts, in order, and one more for an unknown form or for a
minus sign before an operand of a wrong form. So a rendering is silent exactly if the expression is
built from the known forms only: nothing is left out silently (`silent_iff_supported`).
-/

namespace DocOutline.Signature

open Syntax

/-- A rendering without a warning. -/
def IsSilent (t : SyntaxTree) : Prop := ∀ n ∈ (render t).notes, n.severity ≠ .warning

instance (t : SyntaxTree) : Decidable (IsSilent t) :=
  inferInstanceAs (Decidable (∀ n ∈ (render t).notes, n.severity ≠ .warning))

section Notes

variable {t : SyntaxTree}

theorem isSilent_of_notes (h : (render t).notes = []) : IsSilent t := by
  intro n hn
  rw [h] at hn
  cases hn

theorem isSilent_iff_of_flatMap {ts : List SyntaxTree}
    (h : (render t).notes = ts.flatMap fun c => (render c).notes) :
    IsSilent t ↔ ∀ c ∈ ts, IsSilent c := by
  unfold IsSilent
  rw [h]
  constructor
  · intro hn c hc n hmem
    exact hn n (List.mem_flatMap.2 ⟨c, hc, hmem⟩)
  · intro hc n hn
    obtain ⟨c, hmem, hn⟩ := List.mem_flatMap.1 hn
    exact hc c hmem n hn

theorem isSilent_of_text (hk : t.kind ≠ .typeHint)
    (hf : bareForm t = .name ∨ bareForm t = .constant) : IsSilent t := by
  apply isSilent_of_notes
  rw [render_of_text hk hf]
  rfl

theorem notes_genericParts (head : Text) (ts : List SyntaxTree) :
    (genericParts head (ts.map rendered)).notes = ts.flatMap fun c =>
      if c.kind = .typeParameter then c.namedChildren.flatMap fun a => (render a).notes
      else (render c).notes := by
  induction ts generalizing head with
  | nil => rfl
  | cons c cs ih =>
    rw [List.map_cons, genericParts, rendered_tree, List.flatMap_cons]
    by_cases hk : c.kind = .typeParameter
    · rw [if_pos hk, if_pos hk, parts_rendered, Noted.notes_bind, Noted.notes_bind, ih,
        Noted.notes_collect, Noted.notes_pure, List.append_nil]
    · rw [if_neg hk, if_neg hk, Noted.notes_bind, ih]
      rfl

end Notes

/-! ## The notes of the parts -/

section Parts

variable {t : SyntaxTree}

theorem notes_attribute (hg : t.IsGrammatical) (ht : t.IsTidy) (hk : t.kind = .attribute) :
    (render t).notes = t.namedChildren.flatMap fun c => (render c).notes := by
  obtain ⟨object, attr, hparts, ho, ha, hkind⟩ := hg.parts_attribute hk
  have hattr : render attr = pure attr.text :=
    render_of_text (by rw [hkind]; decide) (.inl (by simp only [bareForm, hkind]))
  rw [← ht.parts_eq, hparts, render_attribute hk ho ha]
  simp [hattr]

theorem notes_memberType (hk : t.kind = .memberType) :
    (render t).notes = t.namedChildren.flatMap fun c => (render c).notes := by
  rw [render_memberType hk]
  simp

theorem notes_subscript (hg : t.IsGrammatical) (ht : t.IsTidy) (hk : t.kind = .subscript) :
    (render t).notes = t.namedChildren.flatMap fun c => (render c).notes := by
  obtain ⟨value, rest, he, hpart, hv, hrest⟩ := hg.subscript hk
  have hnamed : t.namedChildren = value :: rest.filter SyntaxTree.isNamed := by
    rw [← ht.parts_eq, SyntaxTree.parts_eq_elements, he,
      List.filter_cons_of_pos (SyntaxTree.isPart_iff.1 hpart).1]
  rw [render_subscript hk hv, subscripts_eq ht he hpart hrest, hnamed]
  simp

theorem notes_list (ht : t.IsTidy) (hk : t.kind = .list) :
    (render t).notes = t.namedChildren.flatMap fun c => (render c).notes := by
  rw [render_list hk, ht.parts_eq]
  simp

theorem notes_typeHint (hg : t.IsGrammatical) (hk : t.kind = .typeHint) :
    (render t).notes = t.namedChildren.flatMap fun c => (render c).notes := by
  obtain ⟨inner, -, hn, -, hi⟩ := SyntaxTree.shape_typeHint hg.shape hk
  rw [render_of_sole hk hn hi, hn]
  simp

theorem showsParts_iff {k : Kind} : showsParts k = true ↔ k = .typeHint ∨ k = .attribute ∨
    k = .memberType ∨ k = .subscript ∨ k = .list := by
  cases k <;> decide

/-- Where all parts of a node show, its notes are those of the parts. -/
theorem notes_of_showsParts (hg : t.IsGrammatical) (ht : t.IsTidy) (hs : showsParts t.kind = true) :
    (render t).notes = t.namedChildren.flatMap fun c => (render c).notes := by
  rcases showsParts_iff.1 hs with hk | hk | hk | hk | hk
  · exact notes_typeHint hg hk
  · exact notes_attribute hg ht hk
  · exact notes_memberType hk
  · exact notes_subscript hg ht hk
  · exact notes_list ht hk

theorem notes_genericType (hg : t.IsGrammatical) (ht : t.IsTidy) (hk : t.kind = .genericType) :
    ∃ head args, t.children = [head, args] ∧ head.kind = .identifier ∧ args.kind = .typeParameter ∧
      (render t).notes = args.namedChildren.flatMap fun c => (render c).notes := by
  obtain ⟨head, args, he, hparts, hhead, hargs⟩ := SyntaxTree.shape_genericType hg.shape hk
  have hname : render head = pure head.text :=
    render_of_text (by rw [hhead]; decide) (.inl (by simp only [bareForm, hhead]))
  refine ⟨head, args, by rw [← ht.elements_eq, he], hhead, hargs, ?_⟩
  rw [render_genericType hk, ← ht.parts_eq, hparts, Noted.notes_bind, notes_genericParts]
  simp [hhead, hargs, hname]

theorem notes_negation {operand : SyntaxTree} (hf : bareForm t = .negation)
    (ho : t.child? .argument = some operand) :
    (render t).notes = if formOf operand ∈ operandForms then (render operand).notes
      else [.unknownOperand t.text] := by
  rw [render_negation hf, ho, Option.filter_some]
  by_cases hform : formOf operand ∈ operandForms
  · rw [if_pos hform, if_pos (by simpa using hform), Option.map_some, Option.getD_some]
    simp
  · rw [if_neg hform, if_neg (by simpa using hform)]
    rfl

end Parts

/-! ## Silent renderings -/

section Silent

variable {t : SyntaxTree}

theorem isSupported_of_text (hf : bareForm t = .name ∨ bareForm t = .constant) :
    isSupported t = true := by
  have hunary : t.kind ≠ .unaryOperator := by
    intro hk
    simp only [bareForm, hk] at hf
    split at hf
    · split at hf <;> simp at hf
    · simp at hf
  have hgeneric : t.kind ≠ .genericType := by
    intro hk
    simp [bareForm, hk] at hf
  have hshows : ¬ showsParts t.kind = true := by
    rw [showsParts_iff]
    rintro (hk | hk | hk | hk | hk) <;> simp [bareForm, hk] at hf
  rw [isSupported_eq, if_neg hgeneric, if_neg hunary, if_neg hshows]
  simpa using hf

theorem supportedAll_children_iff :
    supportedAll t.children = true ↔ ∀ c ∈ t.namedChildren, isSupported c = true := by
  rw [supportedAll_iff]
  simp only [SyntaxTree.namedChildren, List.mem_filter, and_imp]

theorem supportedGeneric_pair {head args : SyntaxTree} (hhead : head.kind = .identifier)
    (hargs : args.kind = .typeParameter) :
    supportedGeneric [head, args] = supportedAll args.children := by
  have hname : isSupported head = true :=
    isSupported_of_text (.inl (by simp only [bareForm, hhead]))
  cases head with
  | node k r x cs =>
    cases args with
    | node k' r' x' cs' =>
      change k = .identifier at hhead
      change k' = .typeParameter at hargs
      rw [hhead] at hname
      simp [supportedGeneric, hhead, hargs, hname, SyntaxTree.children]

theorem isSupported_iff_of_showsParts (hs : showsParts t.kind = true) :
    isSupported t = true ↔ ∀ c ∈ t.namedChildren, isSupported c = true := by
  have hgeneric : t.kind ≠ .genericType := fun he => by rw [he] at hs; cases hs
  have hunary : t.kind ≠ .unaryOperator := fun he => by rw [he] at hs; cases hs
  rw [isSupported_eq, if_neg hgeneric, if_neg hunary, if_pos hs, supportedAll_children_iff]

theorem silent_iff_of_showsParts (hg : t.IsGrammatical) (ht : t.IsTidy)
    (hs : showsParts t.kind = true)
    (ih : ∀ c ∈ t.children, IsSilent c ↔ isSupported c = true) :
    IsSilent t ↔ isSupported t = true := by
  rw [isSilent_iff_of_flatMap (notes_of_showsParts hg ht hs), isSupported_iff_of_showsParts hs]
  exact forall₂_congr fun c hc => ih c (SyntaxTree.mem_children_of_mem_namedChildren hc)

theorem silent_iff_of_genericType (hg : t.IsGrammatical) (ht : t.IsTidy)
    (hk : t.kind = .genericType)
    (ih : ∀ c ∈ t.children, ∀ n ∈ c.nodes, IsSilent n ↔ isSupported n = true) :
    IsSilent t ↔ isSupported t = true := by
  obtain ⟨head, args, hc, hhead, hargs, hnotes⟩ := notes_genericType hg ht hk
  have hsupported : isSupported t = true ↔ ∀ c ∈ args.namedChildren, isSupported c = true := by
    rw [isSupported_eq, if_pos hk, hc, supportedGeneric_pair hhead hargs, supportedAll_children_iff]
  rw [isSilent_iff_of_flatMap hnotes, hsupported]
  refine forall₂_congr fun c hmem => ih args (by simp [hc]) c ?_
  exact SyntaxTree.mem_nodes_of_child (SyntaxTree.mem_children_of_mem_namedChildren hmem)
    c.self_mem_nodes

theorem silent_iff_of_negation (hg : t.IsGrammatical) (ht : t.IsTidy) (hf : bareForm t = .negation)
    (ih : ∀ c ∈ t.children, IsSilent c ↔ isSupported c = true) :
    IsSilent t ↔ isSupported t = true := by
  have hk := kind_of_negation hf
  have hgeneric : t.kind ≠ .genericType := fun he => by rw [he] at hk; cases hk
  obtain ⟨operand, hparts, ho⟩ := hg.parts_unaryOperator hk
  have hsupported : isSupported t = true ↔
      formOf operand ∈ operandForms ∧ isSupported operand = true := by
    have hall : supportedAll t.children = true ↔ isSupported operand = true := by
      rw [supportedAll_children_iff, ← ht.parts_eq, hparts, List.forall_mem_singleton]
    rw [isSupported_eq, if_neg hgeneric, if_pos hk, Bool.and_eq_true, hall]
    simp [isNegation, hf, ho]
  have hnotes := notes_negation hf ho
  rw [hsupported]
  by_cases hform : formOf operand ∈ operandForms
  · rw [if_pos hform] at hnotes
    rw [and_iff_right hform, ← ih operand (SyntaxTree.mem_children_of_child? ho)]
    unfold IsSilent
    rw [hnotes]
  · rw [if_neg hform] at hnotes
    refine iff_of_false (fun h => h (.unknownOperand t.text) ?_ rfl) fun h => hform h.1
    rw [hnotes]
    exact List.mem_singleton_self _

theorem not_isSilent_of_other (hk : t.kind ≠ .typeHint) (hf : bareForm t = .other) :
    ¬ IsSilent t := by
  intro h
  refine h (.unknownForm t.text t.kind) ?_ rfl
  rw [render_other hk hf]
  exact List.mem_singleton_self _

end Silent

/-- A rendering is silent exactly if the expression is supported. -/
theorem silent_iff (t : SyntaxTree) (hg : t.IsGrammatical) (ht : t.IsTidy) :
    IsSilent t ↔ isSupported t = true := by
  induction t using SyntaxTree.below_induction with
  | step t ih =>
    -- The arguments of a generic type are not its children: they stand one level further down.
    have ihNode : ∀ c ∈ t.children, ∀ n ∈ c.nodes, IsSilent n ↔ isSupported n = true :=
      fun c hc n hn => ih c hc n hn ((hg.child hc).node hn) ((ht.child hc).node hn)
    have ihChild : ∀ c ∈ t.children, IsSilent c ↔ isSupported c = true :=
      fun c hc => ihNode c hc c c.self_mem_nodes
    by_cases hs : showsParts t.kind = true
    · exact silent_iff_of_showsParts hg ht hs ihChild
    · have hk : t.kind ≠ .typeHint := fun hk => hs (showsParts_iff.2 (.inl hk))
      cases formed t with
      | text hf => exact iff_of_true (isSilent_of_text hk hf) (isSupported_of_text hf)
      | genericType hb => exact silent_iff_of_genericType hg ht hb ihNode
      | negation hf => exact silent_iff_of_negation hg ht hf ihChild
      | other hf =>
        exact iff_of_false (not_isSilent_of_other hk hf) fun h => bareForm_ne_other h hk hf
      | dotted ha => exact absurd (showsParts_iff.2 (by simp [ha])) hs
      | memberType hm => exact absurd (showsParts_iff.2 (by simp [hm])) hs
      | subscript hb => exact absurd (showsParts_iff.2 (by simp [hb])) hs
      | list hl => exact absurd (showsParts_iff.2 (by simp [hl])) hs

/-- The first type hint in a source. -/
def firstHint (source : Text) : SyntaxTree :=
  ((parse source).nodes.find? (·.kind = .typeHint)).getD default

end DocOutline.Signature
