import DocOutline.Proofs.Outline.Scopes
import DocOutline.Proofs.Signature.Rendering
import DocOutline.Proofs.Signature.Slots
import DocOutline.Proofs.Text

/-!
# Expressions that leave nothing

A place looks at the outermost form of an expression only, but a part of an unknown form inside it
is left out. For some expressions nothing is left then, and the header shows the mark of a slot
with nothing behind it. `Hollow` says which expressions these are, without rendering them: an
unknown form, a minus sign before an operand of a wrong form, and attributes of such an object.
-/

namespace DocOutline.Signature

open Syntax

/-- An expression for which nothing is written. -/
inductive Hollow : SyntaxTree → Prop
  | other {t : SyntaxTree} (hf : formOf t = .other) : Hollow t
  | attributeOf {t object : SyntaxTree} (hk : t.unwrapped.kind = .attribute)
      (ho : t.unwrapped.child? .object = some object) (h : Hollow object) : Hollow t
  | negation {t : SyntaxTree} (hf : formOf t = .negation)
      (ho : ∀ operand, t.unwrapped.child? .argument = some operand →
        formOf operand ∉ operandForms) : Hollow t

namespace Hollow

theorem of_unwrapped_eq {t u : SyntaxTree} (h : Hollow t) (hu : t.unwrapped = u.unwrapped) :
    Hollow u := by
  have hform : formOf t = formOf u := congrArg bareForm hu
  cases h with
  | other hf => exact .other (hform ▸ hf)
  | attributeOf hk ho h => exact .attributeOf (hu ▸ hk) (hu ▸ ho) h
  | negation hf ho => exact .negation (hform ▸ hf) (hu ▸ ho)

/-- Only attributes, negations and unknown forms can be hollow. -/
theorem form {t : SyntaxTree} (h : Hollow t) :
    formOf t = .other ∨ t.unwrapped.kind = .attribute ∨ formOf t = .negation := by
  cases h with
  | other hf => exact .inl hf
  | attributeOf hk _ _ => exact .inr (.inl hk)
  | negation hf _ => exact .inr (.inr hf)

end Hollow

/-! ## Nothing is written for hollow expressions only -/

section Bare

variable {t : SyntaxTree}

theorem text_ne_nil (hs : t.hasShape = true) (hf : bareForm t = .name ∨ bareForm t = .constant) :
    t.text ≠ [] := by
  intro hnil
  unfold SyntaxTree.hasShape at hs
  cases hk : t.kind with
  | unaryOperator =>
    simp only [bareForm, hk] at hf
    split at hf
    · split at hf <;> simp at hf
    · simp at hf
  | _ => simp_all [bareForm]

theorem withArguments_ne_nil (head : Text) (args : List Text) : withArguments head args ≠ [] := by
  unfold withArguments
  simp

theorem render_memberType_ne_nil (hs : t.hasShape = true) (hk : t.kind = .memberType) :
    (render t).value ≠ [] := by
  obtain ⟨type, dot, member, -, hparts, -⟩ := SyntaxTree.shape_memberType hs hk
  rw [value_memberType hk]
  apply Text.join_ne_nil (by simp)
  rw [List.length_map]
  calc 2 = t.parts.length := by rw [hparts]; rfl
    _ ≤ t.namedChildren.length := List.length_filter_le _ _

/-- Nothing is written for an attribute exactly if nothing is written for its object. -/
theorem render_attribute_eq_nil_iff (hg : t.IsGrammatical) (hk : t.kind = .attribute) :
    ∃ object, t.child? .object = some object ∧
      ((render t).value = [] ↔ (render object).value = []) := by
  obtain ⟨object, dot, attr, -, -, -, ho, ha⟩ := hg.attribute hk
  refine ⟨object, ho, ?_⟩
  rw [value_attribute hk ho ha]
  by_cases h : (render object).value = []
  · simp [h]
  · simp [h]

/-- Nothing is written for a negation exactly if its operand has a wrong form. -/
theorem render_negation_eq_nil_iff (hf : bareForm t = .negation) :
    (render t).value = [] ↔
      ∀ operand, t.child? .argument = some operand → formOf operand ∉ operandForms := by
  rw [value_negation hf]
  cases t.child? .argument with
  | none => simp
  | some operand =>
    by_cases ho : formOf operand ∈ operandForms
    · simp [Option.filter_some, ho]
    · simp [Option.filter_some, ho]

/-- An expression of a solid form is neither empty nor hollow. -/
theorem render_eq_nil_iff_of_solid (hne : (render t).value ≠ []) (hk : t.kind ≠ .typeHint)
    (hattr : t.kind ≠ .attribute) (hf : bareForm t ∉ [.other, .negation]) :
    (render t).value = [] ↔ Hollow t := by
  refine ⟨fun h => absurd h hne, fun h => ?_⟩
  have h' := h.form
  rw [formOf_of_ne hk, unwrapped_of_ne hk] at h'
  rcases h' with hother | hattr' | hneg
  · exact absurd (by simp [hother]) hf
  · exact absurd hattr' hattr
  · exact absurd (by simp [hneg]) hf

/-- One step: nothing is written for a tree exactly if it is hollow, when this holds of its parts.
-/
theorem render_eq_nil_iff_of_children (hg : t.IsGrammatical) (hk : t.kind ≠ .typeHint)
    (ih : ∀ c ∈ t.children, (render c).value = [] ↔ Hollow c) :
    (render t).value = [] ↔ Hollow t := by
  have hself : t.unwrapped = t := unwrapped_of_ne hk
  cases formed t with
  | text hf =>
    have hne := text_ne_nil hg.shape hf
    rw [← value_of_text hk hf] at hne
    refine render_eq_nil_iff_of_solid hne hk ?_ ?_
    · intro ha
      simp [bareForm, ha] at hf
    · rcases hf with hf | hf <;> simp [hf]
  | dotted ha =>
    obtain ⟨object, ho, hnil⟩ := render_attribute_eq_nil_iff hg ha
    rw [hnil, ih object (SyntaxTree.mem_children_of_child? ho)]
    refine ⟨fun h => .attributeOf (by rw [hself, ha]) (by rw [hself, ho]) h, fun h => ?_⟩
    cases h with
    | other hf => simp [formOf_of_ne hk, bareForm, ha] at hf
    | attributeOf _ ho' h =>
      rw [hself, ho] at ho'
      cases ho'
      exact h
    | negation hf _ => simp [formOf_of_ne hk, bareForm, ha] at hf
  | memberType hm =>
    exact render_eq_nil_iff_of_solid (render_memberType_ne_nil hg.shape hm) hk (by simp [hm])
      (by simp [bareForm, hm])
  | subscript hs =>
    refine render_eq_nil_iff_of_solid ?_ hk (by simp [hs]) (by simp [bareForm, hs])
    obtain ⟨value, rest, -, -, hv, -⟩ := hg.subscript hs
    rw [value_subscript hs hv]
    exact withArguments_ne_nil _ _
  | genericType hs =>
    refine render_eq_nil_iff_of_solid ?_ hk (by simp [hs]) (by simp [bareForm, hs])
    rw [value_genericType hs]
    exact withArguments_ne_nil _ _
  | list hl =>
    refine render_eq_nil_iff_of_solid ?_ hk (by simp [hl]) (by simp [bareForm, hl])
    rw [value_list hl]
    exact withArguments_ne_nil _ _
  | negation hf =>
    rw [render_negation_eq_nil_iff hf]
    refine ⟨fun h => .negation (by rw [formOf_of_ne hk, hf]) (by rwa [hself]), fun h => ?_⟩
    cases h with
    | other hother => simp [formOf_of_ne hk, hf] at hother
    | attributeOf ha _ _ =>
      rw [hself] at ha
      simp [bareForm, ha] at hf
    | negation _ ho => rwa [hself] at ho
  | other hf =>
    exact ⟨fun _ => .other (by rw [formOf_of_ne hk, hf]), fun _ => value_other hk hf⟩

end Bare

/-- Nothing is written exactly for the hollow expressions. -/
theorem render_eq_nil_iff (t : SyntaxTree) (hg : t.IsGrammatical) :
    (render t).value = [] ↔ Hollow t := by
  induction t using SyntaxTree.below_induction with
  | step t ih =>
    by_cases hk : t.kind = .typeHint
    · obtain ⟨inner, hc, hn, -, hi⟩ := SyntaxTree.shape_typeHint hg.shape hk
      have hmem : inner ∈ t.children := by rw [hc]; exact List.mem_singleton_self inner
      have heq : t.unwrapped = inner.unwrapped := by
        rw [unwrapped_of_sole hk hn, unwrapped_of_ne hi]
      -- Both sides look through the wrapper, so they speak of the tree inside it.
      rw [render_of_sole hk hn hi, ih inner hmem inner inner.self_mem_nodes (hg.child hmem)]
      exact ⟨fun h => h.of_unwrapped_eq heq.symm, fun h => h.of_unwrapped_eq heq⟩
    · exact render_eq_nil_iff_of_children hg hk
        fun c hc => ih c hc c c.self_mem_nodes (hg.child hc)

/-! ## Empty slots -/

theorem fragment?_eq_some_nil_iff {slot : Slot} (hg : slot.tree.IsGrammatical) :
    slot.fragment? = some [] ↔ slot.IsAccepted ∧ Hollow slot.tree := by
  by_cases ha : slot.IsAccepted
  · rw [Slot.fragment?_of_accepted ha, Option.some.injEq, render_eq_nil_iff _ hg]
    exact (and_iff_right ha).symm
  · rw [Slot.fragment?_of_not_accepted ha]
    simp [ha]

/-- A decorator without a name: what it names is missing, not accepted or hollow. -/
theorem decoratorName_ne_nil_iff {d : SyntaxTree} (hg : d.IsGrammatical) :
    decoratorName d ≠ [] ↔ ∃ e, decoratorTarget? d = some e ∧
      Slot.IsAccepted ⟨.decoratorArgument, e⟩ ∧ ¬ Hollow e := by
  unfold decoratorName
  cases he : decoratorTarget? d with
  | none => simp
  | some e =>
    have hge : e.IsGrammatical := grammatical_of_decoratorTarget? hg he
    simp only [Option.bind_some, Option.some.injEq, exists_eq_left']
    by_cases ha : Slot.IsAccepted ⟨.decoratorArgument, e⟩
    · rw [Slot.fragment?_of_accepted ha, Option.getD_some, ne_eq, render_eq_nil_iff e hge]
      exact (and_iff_right ha).symm
    · rw [Slot.fragment?_of_not_accepted ha]
      simp [ha]

/-- In a header every fragment is non-empty and every decorator has a name, exactly if no accepted
slot holds a hollow expression and every decorator names an accepted expression that is not
hollow. -/
theorem fragments_ne_nil_iff {root : SyntaxTree} (hg : root.IsGrammatical) {s : Outline.Placed}
    (hs : s ∈ Outline.placedIn root) :
    ((∀ slot ∈ slotsOf s.decorators s.tree, slot.fragment? ≠ some []) ∧
        (s.tree.kind = .functionDefinition → ∀ d ∈ s.decorators, decoratorName d ≠ [])) ↔
      (∀ slot ∈ slotsOf s.decorators s.tree, slot.IsAccepted → ¬ Hollow slot.tree) ∧
        (s.tree.kind = .functionDefinition → ∀ d ∈ s.decorators, ∃ e, decoratorTarget? d = some e ∧
          Slot.IsAccepted ⟨.decoratorArgument, e⟩ ∧ ¬ Hollow e) := by
  obtain ⟨ht, hd⟩ := Outline.grammatical_of_mem_placedIn hg hs
  refine and_congr (forall₂_congr fun slot hslot => ?_)
    (forall_congr' fun _ => forall₂_congr fun d hmem => decoratorName_ne_nil_iff (hd d hmem))
  rw [ne_eq, fragment?_eq_some_nil_iff (grammatical_of_mem_slotsOf ht hd hslot), not_and]

/-- The value `-y[0]` has the form of a negation, but nothing is written for it. -/
theorem fragments_negated_subscript :
    let root := parse "def f(x=-y[0]): pass\n"
    root.IsGrammatical ∧ ∃ s ∈ Outline.placedIn root,
      (functionHeader s.tree s.dottedName []).value = "def f(x = ):" ∧
        ¬ ((∀ slot ∈ slotsOf s.decorators s.tree, slot.fragment? ≠ some []) ∧
          (s.tree.kind = .functionDefinition → ∀ d ∈ s.decorators, decoratorName d ≠ [])) := by
  intro root
  have hg : root.IsGrammatical := by decide +kernel
  have hfound : ∃ s ∈ Outline.placedIn root,
      (functionHeader s.tree s.dottedName []).value = "def f(x = ):" ∧
        ∃ slot ∈ slotsOf s.decorators s.tree, slot.IsAccepted ∧ formOf slot.tree = .negation ∧
          (slot.tree.unwrapped.child? .argument).all (formOf · ∉ operandForms) = true := by
    decide +kernel
  obtain ⟨s, hs, hheader, slot, hslot, ha, hf, ho⟩ := hfound
  refine ⟨hg, s, hs, hheader, ?_⟩
  rw [fragments_ne_nil_iff hg hs]
  intro h
  apply h.1 slot hslot ha
  apply Hollow.negation hf
  intro operand he
  rw [he] at ho
  exact of_decide_eq_true ho

end DocOutline.Signature
