import DocOutline.Proofs.Signature.Comments

/-!
# Comments in headers

A header with its comments follows the header without them: both are built from the same slots, and
the two differ exactly if a slot that shows holds a disturbed expression.
-/

namespace DocOutline.Signature

open Syntax

namespace Slot

/-- A slot without the comments in its expression. -/
def withoutComments (s : Slot) : Slot := ⟨s.place, s.tree.withoutComments⟩

/-- A slot that shows a disturbed expression. -/
def IsDisturbed (s : Slot) : Prop := s.IsAccepted ∧ Disturbed s.tree

theorem isAccepted_withoutComments {s : Slot} (hg : s.tree.IsGrammatical) :
    s.withoutComments.IsAccepted ↔ s.IsAccepted := by
  unfold IsAccepted
  exact Iff.of_eq (congrArg (· ∈ s.place.forms) (formOf_withoutComments hg))

theorem shifted_marked (mark : Text) {s : Slot} (hg : s.tree.IsGrammatical) :
    Shifted s.IsDisturbed (marked mark s.withoutComments.fragment?) (marked mark s.fragment?) := by
  by_cases ha : s.IsAccepted
  · rw [fragment?_of_accepted ha, fragment?_of_accepted ((isAccepted_withoutComments hg).2 ha)]
    exact ((follows s.tree hg).shifted.append_left mark).congr (and_iff_right ha).symm
  · rw [fragment?_of_not_accepted ha,
      fragment?_of_not_accepted fun h => ha ((isAccepted_withoutComments hg).1 h)]
    exact .refl (fun h => ha h.1) []

end Slot

theorem shifted_fragments {slots : List Slot} (hg : ∀ s ∈ slots, s.tree.IsGrammatical) :
    Shifted (∃ s ∈ slots, s.IsDisturbed)
      (Text.join ", " (fragments (slots.map Slot.withoutComments)))
      (Text.join ", " (fragments slots)) := by
  have hplain : fragments (slots.map Slot.withoutComments) =
      (slots.filter fun s => decide s.IsAccepted).map
        fun s => (render s.tree.withoutComments).value := by
    rw [fragments_eq, List.filter_map, List.map_map]
    congr 1
    apply List.filter_congr
    intro s hs
    exact decide_eq_decide.2 (Slot.isAccepted_withoutComments (hg s hs))
  rw [hplain, fragments_eq]
  have hfollows : ∀ s ∈ slots.filter fun s => decide s.IsAccepted, Follows s.tree := fun s hs =>
    follows s.tree (hg s (List.mem_filter.1 hs).1)
  refine (Shifted.join ", " _ fun s hs => (hfollows s hs).shifted).congr ?_
  refine ⟨fun ⟨s, hs, hd⟩ => ?_, fun ⟨s, hs, ha, hd⟩ => ?_⟩
  · obtain ⟨hs, ha⟩ := List.mem_filter.1 hs
    exact ⟨s, hs, of_decide_eq_true ha, hd⟩
  · exact ⟨s, List.mem_filter.2 ⟨hs, decide_eq_true ha⟩, hd⟩

section Parts

variable {t : SyntaxTree}

theorem nameOf_withoutComments (hg : t.IsGrammatical) : nameOf t.withoutComments = nameOf t := by
  unfold nameOf
  rw [hg.child?_withoutComments (by decide), Option.map_map]
  congr 2
  funext c
  exact c.text_withoutComments

theorem shifted_markedChild (hg : t.IsGrammatical) {role : Role} (hr : role ≠ .plain)
    (place : Place)
    (mark : Text) :
    Shifted (∃ s ∈ childSlot t role place, s.IsDisturbed)
      (markedChild t.withoutComments role place mark).value (markedChild t role place mark).value := by
  rw [value_markedChild, value_markedChild, hg.child?_withoutComments hr, childSlot]
  cases hc : t.child? role with
  | none => exact .refl (by simp) _
  | some c =>
    have hgc := hg.child (SyntaxTree.mem_children_of_child? hc)
    exact (Slot.shifted_marked (s := ⟨place, c⟩) mark hgc).congr (by simp)

/-! ## Classes -/

theorem baseSlots_withoutComments (hg : t.IsGrammatical) :
    baseSlots t.withoutComments = (baseSlots t).map Slot.withoutComments := by
  unfold baseSlots
  rw [hg.child?_withoutComments (by decide)]
  cases t.child? .superclasses with
  | none => rfl
  | some bases =>
    simp only [Option.map_some, Option.toList_some, List.flatMap_cons, List.flatMap_nil,
      List.append_nil, List.map_map]
    rw [SyntaxTree.parts_withoutComments,
      SyntaxTree.filter_map_withoutComments _ _ fun c => by rw [SyntaxTree.kind_withoutComments],
      List.map_map]
    rfl

theorem shifted_classHeader (hg : t.IsGrammatical) :
    Shifted (∃ s ∈ baseSlots t, s.IsDisturbed) (classHeader t.withoutComments).value
      (classHeader t).value := by
  rw [value_classHeader, value_classHeader, nameOf_withoutComments hg, baseSlots_withoutComments hg]
  have hbases := shifted_fragments fun s hs => grammatical_of_mem_baseSlots hg hs
  exact (hbases.append_left _).append_right "):"

/-! ## Decorators -/

theorem subject_withoutComments (d : SyntaxTree) :
    d.withoutComments.parts.head? = d.parts.head?.map SyntaxTree.withoutComments := by
  rw [SyntaxTree.parts_withoutComments, List.head?_map]

theorem decoratorTarget?_withoutComments (hg : t.IsGrammatical) :
    decoratorTarget? t.withoutComments =
      (decoratorTarget? t).map SyntaxTree.withoutComments := by
  unfold decoratorTarget?
  rw [subject_withoutComments]
  cases he : t.parts.head? with
  | none => rfl
  | some e =>
    have hge := hg.child (SyntaxTree.mem_children_of_mem_parts (List.mem_of_head? he))
    simp only [Option.map_some, Option.bind_some, SyntaxTree.kind_withoutComments]
    split
    · exact hge.child?_withoutComments (by decide)
    · rfl

theorem decoratorOperands_withoutComments (hg : t.IsGrammatical) :
    decoratorOperands t.withoutComments =
      (decoratorOperands t).map SyntaxTree.withoutComments := by
  unfold decoratorOperands
  rw [subject_withoutComments]
  cases he : t.parts.head? with
  | none => rfl
  | some e =>
    have hge := hg.child (SyntaxTree.mem_children_of_mem_parts (List.mem_of_head? he))
    simp only [Option.map_some, Option.toList_some, List.flatMap_cons, List.flatMap_nil,
      List.append_nil, SyntaxTree.kind_withoutComments]
    split
    · rw [hge.child?_withoutComments (by decide)]
      cases e.child? .arguments with
      | none => rfl
      | some args =>
        simp only [Option.map_some, Option.toList_some, List.flatMap_cons, List.flatMap_nil,
          List.append_nil, SyntaxTree.kind_withoutComments]
        split
        · exact args.parts_withoutComments
        · rfl
    · rfl

theorem operandSlots_withoutComments (hg : t.IsGrammatical) :
    operandSlots t.withoutComments = (operandSlots t).map Slot.withoutComments := by
  unfold operandSlots
  rw [decoratorOperands_withoutComments hg, List.map_map, List.map_map]
  rfl

theorem shifted_decoratorName (hg : t.IsGrammatical) :
    Shifted (∃ s ∈ targetSlots t, s.IsDisturbed) (decoratorName t.withoutComments)
      (decoratorName t) := by
  unfold decoratorName targetSlots
  rw [decoratorTarget?_withoutComments hg]
  cases he : decoratorTarget? t with
  | none => exact .refl (by simp) []
  | some e =>
    have hname := Slot.shifted_marked (s := ⟨.decoratorArgument, e⟩) []
      (grammatical_of_decoratorTarget? hg he)
    rw [marked_nil, marked_nil] at hname
    exact hname.congr (by simp)

/-- A decorator that is no call has no arguments. -/
theorem operandSlots_of_not_call (hc : ¬ t.parts.head?.any (·.kind = .call) = true) :
    operandSlots t = [] := by
  unfold operandSlots decoratorOperands
  cases he : t.parts.head? with
  | none => rfl
  | some e =>
    rw [he] at hc
    simp_all

theorem shifted_decoratorTail (hg : t.IsGrammatical) :
    Shifted (∃ s ∈ operandSlots t, s.IsDisturbed) (decoratorTail t.withoutComments)
      (decoratorTail t) := by
  have hcall : t.withoutComments.parts.head?.any (·.kind = .call) =
      t.parts.head?.any (·.kind = .call) := by
    rw [subject_withoutComments]
    cases t.parts.head? with
    | none => rfl
    | some e => simp
  unfold decoratorTail
  rw [hcall, operandSlots_withoutComments hg]
  split
  · have hargs := shifted_fragments fun s hs =>
      grammatical_of_mem_decoratorSlots hg (List.mem_append_right (targetSlots t) hs)
    exact (hargs.append_left "(").append_right ")"
  · rename_i hc
    rw [operandSlots_of_not_call hc]
    exact .refl (by simp) []

theorem shifted_decoratorLine (hg : t.IsGrammatical) :
    Shifted (∃ s ∈ decoratorSlots t, s.IsDisturbed) (decoratorLine t.withoutComments).value
      (decoratorLine t).value := by
  rw [value_decoratorLine, value_decoratorLine]
  refine (((shifted_decoratorName hg).append_left "@").append (shifted_decoratorTail hg)).congr ?_
  simp only [decoratorSlots, List.mem_append, or_and_right, exists_or]

/-! ## Functions -/

theorem exists_mem_flatMap {ts : List SyntaxTree} {slots : SyntaxTree → List Slot}
    {holds : Slot → Prop} :
    (∃ s, s ∈ ts.flatMap slots ∧ holds s) ↔ ∃ t ∈ ts, ∃ s ∈ slots t, holds s := by
  refine ⟨fun ⟨s, hs, h⟩ => ?_, fun ⟨t, ht, s, hs, h⟩ => ⟨s, List.mem_flatMap.2 ⟨t, ht, hs⟩, h⟩⟩
  obtain ⟨t, ht, hs⟩ := List.mem_flatMap.1 hs
  exact ⟨t, ht, s, hs, h⟩

theorem text_target_withoutComments (hg : t.IsGrammatical) (hk : t.kind = .typedParameter) :
    t.withoutComments.namedChildren.head?.map SyntaxTree.text =
      t.namedChildren.head?.map SyntaxTree.text := by
  obtain ⟨target, colon, type, he, -, hhead, -⟩ := hg.typedParameter hk
  have hnamed : target.isNamed = true := (List.mem_filter.1 (List.mem_of_head? hhead)).2
  have hparts : t.parts.head? = some target := by
    rw [SyntaxTree.parts_eq_elements, he, List.filter_cons_of_pos hnamed]
    rfl
  rw [SyntaxTree.namedChildren_withoutComments, List.head?_map, hparts, hhead]
  exact congrArg some target.text_withoutComments

theorem shifted_parameterText (hg : t.IsGrammatical) :
    Shifted (∃ s ∈ parameterSlots t, s.IsDisturbed) (parameterText t.withoutComments)
      (parameterText t) := by
  have htype := shifted_markedChild hg (by decide : Role.type ≠ .plain) .parameterType ": "
  have hvalue := shifted_markedChild hg (by decide : Role.value ≠ .plain) .defaultValue " = "
  by_cases hk : t.kind = .typedParameter
  · simp only [parameterText, parameterSlots, SyntaxTree.kind_withoutComments, hk,
      text_target_withoutComments hg hk]
    exact htype.append_left _
  by_cases hk : t.kind = .defaultParameter
  · simp only [parameterText, parameterSlots, SyntaxTree.kind_withoutComments, hk,
      nameOf_withoutComments hg]
    exact hvalue.append_left _
  by_cases hk : t.kind = .typedDefaultParameter
  · simp only [parameterText, parameterSlots, SyntaxTree.kind_withoutComments, hk,
      nameOf_withoutComments hg]
    refine ((htype.append_left _).append hvalue).congr ?_
    simp only [List.mem_append, or_and_right, exists_or]
  · have hslots : parameterSlots t = [] := by
      unfold parameterSlots
      split <;> simp_all
    have htext : parameterText t.withoutComments = parameterText t := by
      unfold parameterText
      rw [SyntaxTree.kind_withoutComments]
      split <;> simp_all
    rw [hslots, htext]
    exact .refl (by simp) _

theorem parametersOf_withoutComments (hg : t.IsGrammatical) :
    parametersOf t.withoutComments = (parametersOf t).map SyntaxTree.withoutComments := by
  unfold parametersOf
  rw [hg.child?_withoutComments (by decide)]
  cases t.child? .parameters with
  | none => rfl
  | some params =>
    simp only [Option.map_some, Option.toList_some, List.flatMap_cons, List.flatMap_nil,
      List.append_nil, SyntaxTree.parts_withoutComments]

theorem isAsync_withoutComments (hs : t.hasShape = true) (hk : t.kind = .functionDefinition) :
    isAsync t.withoutComments = isAsync t := by
  simp only [SyntaxTree.hasShape, hk, Bool.and_eq_true] at hs
  rw [isAsync_eq, isAsync_eq, SyntaxTree.children_withoutComments, List.head?_map,
    SyntaxTree.head?_children hs.1]
  cases t.elements.head? with
  | none => rfl
  | some c => simp

theorem shifted_functionHeader (hg : t.IsGrammatical) (hk : t.kind = .functionDefinition)
    {decorators : List SyntaxTree} (hd : ∀ d ∈ decorators, d.IsGrammatical) (qualified : Text) :
    Shifted (∃ s ∈ slotsOf decorators t, s.IsDisturbed)
      (functionHeader t.withoutComments qualified
        ((decorators.map SyntaxTree.withoutComments).map fun d => (decoratorLine d).value)).value
      (functionHeader t qualified (decorators.map fun d => (decoratorLine d).value)).value := by
  have hlines : Shifted (∃ d ∈ decorators, ∃ s ∈ decoratorSlots d, s.IsDisturbed)
      (decorators.flatMap fun d => (decoratorLine d.withoutComments).value ++ ['\n'])
      (decorators.flatMap fun d => (decoratorLine d).value ++ ['\n']) :=
    Shifted.flatMap decorators fun d hmem => (shifted_decoratorLine (hd d hmem)).append_right _
  have hparams : Shifted (∃ p ∈ parametersOf t, ∃ s ∈ parameterSlots p, s.IsDisturbed)
      (Text.join ", " ((parametersOf t).map fun p => parameterText p.withoutComments))
      (Text.join ", " ((parametersOf t).map parameterText)) :=
    Shifted.join ", " (parametersOf t)
      fun p hp => shifted_parameterText (grammatical_of_mem_parametersOf hg hp)
  have hresult := shifted_markedChild hg (by decide : Role.returnType ≠ .plain) .returnType " -> "
  rw [value_functionHeader, value_functionHeader, isAsync_withoutComments hg.shape hk,
    parametersOf_withoutComments hg]
  simp only [List.map_map, List.flatMap_map]
  refine (((((((hlines.append_right _).append_right _).append_right _).append hparams).append_right
    _).append hresult).append_right _).congr ?_
  simp only [slotsOf, hk, List.mem_append, or_and_right, exists_or, exists_mem_flatMap]

end Parts

end DocOutline.Signature
