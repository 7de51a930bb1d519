import DocOutline.Proofs.Signature.Hollow
import DocOutline.Proofs.Syntax.Comments

/-!
# Comments in expressions

Two kinds of types take the comments between their parts for parts. A comment behind the head of a
generic type replaces the head, for which nothing is written then, and a comment in a member type
adds a dot. All other expressions pass over comments. `Disturbed` says where such a comment has an
effect.

No two effects cancel out: both raise the number of dots in proportion to the other characters,
which `dotExcess` measures, and nothing lowers it.
-/

namespace DocOutline.Signature

open Syntax

/-! ## Texts that comments may change -/

/-- How many dots a text has more than other characters. -/
def dotExcess (t : Text) : Int := 2 * t.count '.' - t.length

@[simp] theorem dotExcess_nil : dotExcess [] = 0 := rfl

@[simp] theorem dotExcess_append (t u : Text) : dotExcess (t ++ u) = dotExcess t + dotExcess u := by
  unfold dotExcess
  rw [List.count_append, List.length_append]
  omega

/-- A text without and with the effect of comments, where `d` says whether they have one. -/
structure Shifted (d : Prop) (plain commented : Text) : Prop where
  same : ¬ d → commented = plain
  more : d → dotExcess plain < dotExcess commented

namespace Shifted

variable {d e : Prop} {plain commented plain' commented' : Text}

theorem refl (hd : ¬ d) (t : Text) : Shifted d t t :=
  ⟨fun _ => rfl, fun h => absurd h hd⟩

theorem le (h : Shifted d plain commented) : dotExcess plain ≤ dotExcess commented := by
  by_cases hd : d
  · exact Int.le_of_lt (h.more hd)
  · exact Int.le_of_eq (congrArg dotExcess (h.same hd).symm)

theorem eq_iff (h : Shifted d plain commented) : plain = commented ↔ ¬ d := by
  refine ⟨fun heq hd => ?_, fun hd => (h.same hd).symm⟩
  have hlt := h.more hd
  rw [heq] at hlt
  exact absurd hlt (Int.lt_irrefl _)

theorem congr (h : Shifted d plain commented) (hde : d ↔ e) : Shifted e plain commented :=
  ⟨fun he => h.same fun hd => he (hde.1 hd), fun he => h.more (hde.2 he)⟩

theorem append (h : Shifted d plain commented) (h' : Shifted e plain' commented') :
    Shifted (d ∨ e) (plain ++ plain') (commented ++ commented') := by
  refine ⟨fun hde => ?_, fun hde => ?_⟩
  · rw [h.same fun hd => hde (.inl hd), h'.same fun he => hde (.inr he)]
  · rw [dotExcess_append, dotExcess_append]
    rcases hde with hd | he
    · have hlt := h.more hd
      have hle := h'.le
      omega
    · have hle := h.le
      have hlt := h'.more he
      omega

theorem append_left (t : Text) (h : Shifted d plain commented) :
    Shifted d (t ++ plain) (t ++ commented) :=
  ((refl not_false t).append h).congr (Iff.of_eq (false_or d))

theorem append_right (h : Shifted d plain commented) (t : Text) :
    Shifted d (plain ++ t) (commented ++ t) :=
  (h.append (refl not_false t)).congr (Iff.of_eq (or_false d))

/-- Comments have no effect where nothing is written. -/
theorem not_of_nil (h : Shifted d [] []) : ¬ d :=
  fun hd => absurd (h.more hd) (Int.lt_irrefl _)

section Lists

variable {α : Type} {disturbed : α → Prop} {f g : α → Text}

theorem join (sep : Text) : ∀ (ts : List α), (∀ t ∈ ts, Shifted (disturbed t) (f t) (g t)) →
    Shifted (∃ t ∈ ts, disturbed t) (Text.join sep (ts.map f)) (Text.join sep (ts.map g))
  | [], _ => refl (by simp) []
  | [t], h => by
    simp only [List.map_cons, List.map_nil, Text.join_singleton]
    exact (h t List.mem_cons_self).congr (by simp)
  | t :: u :: ts, h => by
    have hrest := join sep (u :: ts) fun v hv => h v (List.mem_cons_of_mem t hv)
    have hfirst := (h t List.mem_cons_self).append_right sep
    simp only [List.map_cons] at hrest ⊢
    rw [Text.join_cons_cons, Text.join_cons_cons]
    exact (hfirst.append hrest).congr (by simp)

theorem flatMap : ∀ (ts : List α), (∀ t ∈ ts, Shifted (disturbed t) (f t) (g t)) →
    Shifted (∃ t ∈ ts, disturbed t) (ts.flatMap f) (ts.flatMap g)
  | [], _ => refl (by simp) []
  | t :: ts, h => by
    have hrest := flatMap ts fun v hv => h v (List.mem_cons_of_mem t hv)
    rw [List.flatMap_cons, List.flatMap_cons]
    exact ((h t List.mem_cons_self).append hrest).congr (by simp)

/-- Arguments in brackets. Those that nothing is written for do not show. -/
theorem withArguments {head head' : Text} (hhead : Shifted d head head') (ts : List α)
    (h : ∀ t ∈ ts, Shifted (disturbed t) (f t) (g t)) (hempty : ∀ t ∈ ts, f t = [] ↔ g t = []) :
    Shifted (d ∨ ∃ t ∈ ts, disturbed t) (Signature.withArguments head (ts.map f))
      (Signature.withArguments head' (ts.map g)) := by
  have hf : nonEmpty (ts.map f) = (ts.filter fun t => !(f t).isEmpty).map f := by
    rw [nonEmpty, List.filter_map]
    rfl
  have hg : nonEmpty (ts.map g) = (ts.filter fun t => !(f t).isEmpty).map g := by
    rw [nonEmpty, List.filter_map]
    congr 1
    apply List.filter_congr
    intro t ht
    rw [Function.comp_apply, Bool.eq_iff_iff]
    simp [hempty t ht]
  have hargs := join ", " (ts.filter fun t => !(f t).isEmpty)
    fun t ht => h t (List.mem_filter.1 ht).1
  unfold Signature.withArguments
  rw [hf, hg]
  refine (((hhead.append_right "[").append hargs).append_right "]").congr (or_congr_right ?_)
  refine ⟨fun ⟨t, ht, hd⟩ => ⟨t, (List.mem_filter.1 ht).1, hd⟩, fun ⟨t, ht, hd⟩ => ⟨t, ?_, hd⟩⟩
  refine List.mem_filter.2 ⟨ht, ?_⟩
  have hne : f t ≠ [] := by
    intro hnil
    have ht' := h t ht
    rw [(hempty t ht).1 hnil, hnil] at ht'
    exact ht'.not_of_nil hd
  simpa using hne

end Lists

end Shifted

/-! ## Where comments have an effect -/

/-- The parts of an expression that show in what is written for it. -/
def shownParts (t : SyntaxTree) : List SyntaxTree :=
  match t.kind with
  | .typeHint | .memberType | .list => t.parts
  | .attribute => (t.child? .object).toList
  | .subscript => (t.child? .value).toList ++ t.children.filter (·.role = .subscript)
  | .genericType => (t.parts.filter (·.kind = .typeParameter)).flatMap SyntaxTree.parts
  | .unaryOperator =>
    if bareForm t = .negation then
      ((t.child? .argument).filter fun a => operandForms.contains (formOf a)).toList
    else []
  | _ => []

/-- The child of a generic type that is taken for its head: the last one that holds no arguments. -/
def headOf? (t : SyntaxTree) : Option SyntaxTree :=
  (t.namedChildren.filter (·.kind ≠ .typeParameter)).getLast?

/-- Expressions with a comment that changes what is written for them. -/
inductive Disturbed : SyntaxTree → Prop
  | head {t c : SyntaxTree} (hk : t.kind = .genericType) (hc : headOf? t = some c)
      (hcomment : c.isComment = true) : Disturbed t
  | member {t c : SyntaxTree} (hk : t.kind = .memberType) (hc : c ∈ t.children)
      (hcomment : c.isComment = true) : Disturbed t
  | inside {t c : SyntaxTree} (hc : c ∈ shownParts t) (h : Disturbed c) : Disturbed t

section Forms

variable {t : SyntaxTree}

theorem disturbed_iff_inside (hg : t.kind ≠ .genericType) (hm : t.kind ≠ .memberType) :
    Disturbed t ↔ ∃ c ∈ shownParts t, Disturbed c := by
  refine ⟨fun h => ?_, fun ⟨c, hc, h⟩ => .inside hc h⟩
  cases h with
  | head hk _ _ => exact absurd hk hg
  | member hk _ _ => exact absurd hk hm
  | inside hc h => exact ⟨_, hc, h⟩

/-- Names, literals and unknown forms show no parts. -/
theorem not_disturbed_of_form (hk : t.kind ≠ .typeHint)
    (hf : bareForm t = .name ∨ bareForm t = .constant ∨ bareForm t = .other) : ¬ Disturbed t := by
  have hneg : bareForm t ≠ .negation := by
    rcases hf with hf | hf | hf <;> simp [hf]
  have hshown : shownParts t = [] := by
    by_cases hu : t.kind = .unaryOperator
    · simp only [shownParts, hu, if_neg hneg]
    · unfold shownParts
      split <;> first | rfl | simp_all [bareForm]
  rw [disturbed_iff_inside, hshown]
  · simp
  · intro hgeneric
    simp [bareForm, hgeneric] at hf
  · intro hmember
    simp [bareForm, hmember] at hf

theorem unwrapped_withoutComments (hg : t.IsGrammatical) :
    t.withoutComments.unwrapped = t.unwrapped.withoutComments := by
  by_cases hk : t.kind = .typeHint
  · obtain ⟨inner, hc, hn, hcomment, -⟩ := SyntaxTree.shape_typeHint hg.shape hk
    have hparts : t.parts = [inner] := by
      rw [SyntaxTree.parts, hn, List.filter_cons_of_pos (by simp [hcomment]), List.filter_nil]
    rw [unwrapped_of_sole hk hn]
    apply unwrapped_of_sole
    · rw [SyntaxTree.kind_withoutComments, hk]
    · rw [SyntaxTree.namedChildren_withoutComments, hparts]
      rfl
  · rw [unwrapped_of_ne hk, unwrapped_of_ne (by rwa [SyntaxTree.kind_withoutComments])]

theorem bareForm_withoutComments (hg : t.IsGrammatical) :
    bareForm t.withoutComments = bareForm t := by
  unfold bareForm
  rw [SyntaxTree.kind_withoutComments, hg.child?_withoutComments (by decide)]
  cases t.child? .operator with
  | none => rfl
  | some op => simp only [Option.map_some, SyntaxTree.text_withoutComments]

theorem grammatical_unwrapped (hg : t.IsGrammatical) : t.unwrapped.IsGrammatical := by
  by_cases hk : t.kind = .typeHint
  · obtain ⟨inner, hc, hn, -⟩ := SyntaxTree.shape_typeHint hg.shape hk
    rw [unwrapped_of_sole hk hn]
    exact hg.child (by rw [hc]; exact List.mem_singleton_self inner)
  · rwa [unwrapped_of_ne hk]

theorem formOf_withoutComments (hg : t.IsGrammatical) : formOf t.withoutComments = formOf t := by
  rw [formOf, unwrapped_withoutComments hg, bareForm_withoutComments (grammatical_unwrapped hg)]
  rfl

end Forms

/-! ## Renderings with and without comments -/

/-- What is written for a tree with its comments follows what is written for it without them. -/
structure Follows (t : SyntaxTree) : Prop where
  shifted : Shifted (Disturbed t) (render t.withoutComments).value (render t).value
  empty_iff : (render t.withoutComments).value = [] ↔ (render t).value = []

section Follows

variable {t : SyntaxTree}

theorem render_comment {c : SyntaxTree} (hc : c.isComment = true) : (render c).value = [] := by
  have hk : c.kind = .comment := of_decide_eq_true hc
  exact value_other (by simp [hk]) (by simp [bareForm, hk])

theorem follows_text (hg : t.IsGrammatical) (hk : t.kind ≠ .typeHint)
    (hf : bareForm t = .name ∨ bareForm t = .constant) : Follows t := by
  have hplain : (render t.withoutComments).value = t.text := by
    rw [value_of_text (by simpa using hk) (by rwa [bareForm_withoutComments hg]),
      SyntaxTree.text_withoutComments]
  have hd : ¬ Disturbed t := not_disturbed_of_form hk (hf.imp_right .inl)
  rw [← value_of_text hk hf] at hplain
  exact ⟨hplain ▸ .refl hd _, by rw [hplain]⟩

theorem follows_attribute (hg : t.IsGrammatical) (hk : t.kind = .attribute)
    (ih : ∀ c ∈ t.children, Follows c) : Follows t := by
  obtain ⟨object, dot, attr, -, -, -, ho, ha⟩ := hg.attribute hk
  have hobject := ih object (SyntaxTree.mem_children_of_child? ho)
  have hd : Disturbed t ↔ Disturbed object := by
    rw [disturbed_iff_inside (by simp [hk]) (by simp [hk])]
    simp [shownParts, hk, ho]
  have hcommented := value_attribute hk ho ha
  have hplain := value_attribute (t := t.withoutComments) (by simpa using hk)
    (by rw [hg.child?_withoutComments (by decide), ho]; rfl)
    (by rw [hg.child?_withoutComments (by decide), ha]; rfl)
  rw [SyntaxTree.text_withoutComments] at hplain
  by_cases hnil : (render object).value = []
  · have hnil' := hobject.empty_iff.2 hnil
    have hd' := hobject.shifted
    rw [hnil, hnil'] at hd'
    simp only [hnil, hnil', List.isEmpty_nil, if_true] at hplain hcommented
    rw [← hd] at hd'
    exact ⟨by rwa [hplain, hcommented], by rw [hplain, hcommented]⟩
  · have hnil' : (render object.withoutComments).value ≠ [] := fun h => hnil (hobject.empty_iff.1 h)
    rw [if_neg (by simpa using hnil)] at hcommented
    rw [if_neg (by simpa using hnil')] at hplain
    refine ⟨?_, by simp [hplain, hcommented]⟩
    rw [hplain, hcommented]
    exact ((hobject.shifted.append_right ".").append_right attr.text).congr hd.symm

/-- What is written for these parts in brackets. -/
theorem shifted_arguments {d : Prop} {head head' : Text} (hhead : Shifted d head head')
    {ts : List SyntaxTree} (ih : ∀ c ∈ ts, Follows c) :
    Shifted (d ∨ ∃ c ∈ ts, Disturbed c)
      (withArguments head ((ts.map SyntaxTree.withoutComments).map fun c => (render c).value))
      (withArguments head' (ts.map fun c => (render c).value)) := by
  rw [List.map_map]
  exact hhead.withArguments ts (fun c hc => (ih c hc).shifted) fun c hc => (ih c hc).empty_iff

theorem follows_subscript (hg : t.IsGrammatical) (hk : t.kind = .subscript)
    (ih : ∀ c ∈ t.children, Follows c) : Follows t := by
  obtain ⟨value, rest, -, -, hv, -⟩ := hg.subscript hk
  have hvalue := ih value (SyntaxTree.mem_children_of_child? hv)
  have hcommented := value_subscript hk hv
  have hplain := value_subscript (t := t.withoutComments) (by simpa using hk)
    (by rw [hg.child?_withoutComments (by decide), hv]; rfl)
  rw [hg.filter_role_withoutComments (by decide)] at hplain
  have hd : Disturbed t ↔
      Disturbed value ∨ ∃ c ∈ t.children.filter (·.role = .subscript), Disturbed c := by
    rw [disturbed_iff_inside (by simp [hk]) (by simp [hk])]
    simp only [shownParts, hk, hv, Option.toList_some, List.singleton_append, List.mem_cons,
      exists_eq_or_imp]
  refine ⟨?_, by simp [hplain, hcommented, withArguments_ne_nil]⟩
  rw [hplain, hcommented]
  exact (shifted_arguments hvalue.shifted fun c hc => ih c (List.mem_filter.1 hc).1).congr hd.symm

theorem follows_list (hk : t.kind = .list) (ih : ∀ c ∈ t.children, Follows c) : Follows t := by
  have hcommented := value_list hk
  have hplain := value_list (t := t.withoutComments) (by simpa using hk)
  rw [SyntaxTree.parts_withoutComments] at hplain
  refine ⟨?_, by simp [hplain, hcommented, withArguments_ne_nil]⟩
  rw [hplain, hcommented]
  refine (shifted_arguments (.refl not_false [])
    fun c hc => ih c (SyntaxTree.mem_children_of_mem_parts hc)).congr ?_
  rw [disturbed_iff_inside (by simp [hk]) (by simp [hk]), false_or]
  simp only [shownParts, hk]

theorem follows_negation (hg : t.IsGrammatical) (hf : bareForm t = .negation)
    (ih : ∀ c ∈ t.children, Follows c) : Follows t := by
  have hk : t.kind = .unaryOperator := kind_of_negation hf
  obtain ⟨op, operand, -, -, -, ho⟩ := hg.unaryOperator hk
  have hmem := SyntaxTree.mem_children_of_child? ho
  have hcommented := value_negation hf
  have hplain := value_negation (t := t.withoutComments) (by rwa [bareForm_withoutComments hg])
  rw [hg.child?_withoutComments (by decide), ho, Option.map_some, Option.filter_some,
    formOf_withoutComments (hg.child hmem)] at hplain
  rw [ho, Option.filter_some] at hcommented
  have hd : Disturbed t ↔ operandForms.contains (formOf operand) = true ∧ Disturbed operand := by
    rw [disturbed_iff_inside (by simp [hk]) (by simp [hk])]
    simp only [shownParts, hk, hf, if_true, ho, Option.filter_some]
    split
    · rename_i hform
      simp [List.contains_iff_mem.1 hform]
    · rename_i hform
      simpa using fun hmem => absurd (List.contains_iff_mem.2 hmem) hform
  by_cases hform : operandForms.contains (formOf operand) = true
  · rw [if_pos hform] at hplain hcommented
    refine ⟨?_, by simp [hplain, hcommented]⟩
    rw [hplain, hcommented]
    exact ((ih operand hmem).shifted.append_left "-").congr (by rw [hd, and_iff_right hform])
  · rw [if_neg hform] at hplain hcommented
    refine ⟨?_, by simp [hplain, hcommented]⟩
    rw [hplain, hcommented]
    exact .refl (fun h => hform (hd.1 h).1) []

theorem follows_other (hg : t.IsGrammatical) (hk : t.kind ≠ .typeHint) (hf : bareForm t = .other) :
    Follows t := by
  have hcommented := value_other hk hf
  have hplain := value_other (t := t.withoutComments) (by simpa using hk)
    (by rwa [bareForm_withoutComments hg])
  refine ⟨?_, by simp [hplain, hcommented]⟩
  rw [hplain, hcommented]
  exact .refl (not_disturbed_of_form hk (.inr (.inr hf))) []

/-! ### Generic types -/

theorem headIn_eq (start : Text) (ts : List SyntaxTree) :
    headIn start ts = ((ts.filter (·.kind ≠ .typeParameter)).getLast?.map
      fun c => (render c).value).getD start := by
  induction ts generalizing start with
  | nil => rfl
  | cons c cs ih =>
    rw [headIn, ih]
    by_cases hk : c.kind = .typeParameter
    · rw [if_pos hk, List.filter_cons_of_neg (by simp [hk])]
    · rw [if_neg hk, List.filter_cons_of_pos (by simp [hk]), List.getLast?_cons]
      cases (cs.filter (·.kind ≠ .typeParameter)).getLast? with
      | none => rfl
      | some last => rfl

theorem dotExcess_identifier (hs : t.hasShape = true) (hk : t.kind = .identifier) :
    dotExcess t.text < 0 := by
  have htext : t.text ≠ [] ∧ '.' ∉ t.text := by simpa [SyntaxTree.hasShape, hk] using hs
  have hcount : t.text.count '.' = 0 := List.count_eq_zero.2 htext.2
  have hlength : 0 < t.text.length := List.length_pos_iff.2 htext.1
  unfold dotExcess
  omega

/-- A generic type shows its head, unless a comment stands behind it. -/
theorem shifted_head (hg : t.IsGrammatical) {head args : SyntaxTree}
    (hparts : t.parts = [head, args])
    (hhead : head.kind = .identifier) (hargs : args.kind = .typeParameter) :
    Shifted (∃ c, headOf? t = some c ∧ c.isComment = true) head.text
      (headIn [] t.namedChildren) := by
  have hmem : head ∈ t.parts := by rw [hparts]; exact List.mem_cons_self
  have hfound : head ∈ t.namedChildren.filter (·.kind ≠ .typeParameter) :=
    List.mem_filter.2 ⟨(List.mem_filter.1 hmem).1, by simp [hhead]⟩
  have hgh := hg.child (SyntaxTree.mem_children_of_mem_parts hmem)
  rw [headIn_eq]
  change Shifted _ _ (((headOf? t).map fun c => (render c).value).getD [])
  cases hlast : headOf? t with
  | none =>
    rw [List.getLast?_eq_none_iff.1 hlast] at hfound
    cases hfound
  | some c =>
    obtain ⟨hc, hck⟩ := List.mem_filter.1 (List.mem_of_getLast? hlast)
    by_cases hcomment : c.isComment = true
    -- A comment in the place of the head takes away a name, which has no dots.
    · rw [Option.map_some, Option.getD_some, render_comment hcomment]
      exact ⟨fun hd => absurd ⟨c, rfl, hcomment⟩ hd, fun _ => dotExcess_identifier hgh.shape hhead⟩
    · have hcp : c ∈ t.parts := List.mem_filter.2 ⟨hc, by simp [hcomment]⟩
      rw [hparts] at hcp
      have hch : c = head := by
        rcases List.mem_cons.1 hcp with h | h
        · exact h
        · rw [List.mem_singleton.1 h] at hck
          simp [hargs] at hck
      subst hch
      rw [Option.map_some, Option.getD_some,
        value_of_text (by simp [hhead]) (.inl (by simp [bareForm, hhead]))]
      refine .refl ?_ _
      rintro ⟨c', hc', hcomment'⟩
      cases hc'
      exact hcomment hcomment'

/-- Nothing is written for comments among arguments. -/
theorem withArguments_namedChildren (head : Text) (args : SyntaxTree) :
    withArguments head (args.namedChildren.map fun c => (render c).value) =
      withArguments head (args.parts.map fun c => (render c).value) := by
  have hne : nonEmpty (args.namedChildren.map fun c => (render c).value) =
      nonEmpty (args.parts.map fun c => (render c).value) := by
    unfold nonEmpty SyntaxTree.parts
    rw [List.filter_map, List.filter_map, List.filter_filter]
    congr 1
    apply List.filter_congr
    intro c _
    cases hc : c.isComment with
    | true => simp [render_comment hc]
    | false => simp
  unfold withArguments
  rw [hne]

theorem follows_genericType (hg : t.IsGrammatical) (hk : t.kind = .genericType)
    (ih : ∀ c ∈ t.children, ∀ n ∈ c.nodes, Follows n) : Follows t := by
  obtain ⟨head, args, -, hparts, hhead, hargs⟩ := SyntaxTree.shape_genericType hg.shape hk
  have hargsMem : args ∈ t.children :=
    SyntaxTree.mem_children_of_mem_parts (by rw [hparts]; simp)
  have hcommented : (render t).value = withArguments (headIn [] t.namedChildren)
      (args.parts.map fun c => (render c).value) := by
    have hfilter : t.namedChildren.filter (·.kind = .typeParameter) = [args] := by
      calc t.namedChildren.filter (·.kind = .typeParameter)
          = t.parts.filter (·.kind = .typeParameter) := by
            rw [SyntaxTree.parts, List.filter_filter]
            apply List.filter_congr
            intro c _
            by_cases hc : c.kind = .typeParameter
            · simp [SyntaxTree.isComment, hc]
            · simp [hc]
        _ = [args] := by simp [hparts, hhead, hargs]
    rw [value_genericType hk, argumentsIn, hfilter, List.flatMap_singleton,
      withArguments_namedChildren]
  have hplain : (render t.withoutComments).value = withArguments head.text
      ((args.parts.map SyntaxTree.withoutComments).map fun c => (render c).value) := by
    rw [value_genericType (by simpa using hk), SyntaxTree.namedChildren_withoutComments, hparts]
    have htext : (render head.withoutComments).value = head.text := by
      rw [value_of_text (by simp [hhead]) (.inl (by simp [bareForm, hhead])),
        SyntaxTree.text_withoutComments]
    simp [headIn, argumentsIn, hhead, hargs, htext, SyntaxTree.namedChildren_withoutComments]
  have hd : Disturbed t ↔ (∃ c, headOf? t = some c ∧ c.isComment = true) ∨
      ∃ c ∈ args.parts, Disturbed c := by
    have hshown : shownParts t = args.parts := by
      simp [shownParts, hk, hparts, hhead, hargs]
    refine ⟨fun h => ?_, fun h => ?_⟩
    · cases h with
      | head _ hc hcomment => exact .inl ⟨_, hc, hcomment⟩
      | member hm _ _ => rw [hk] at hm; cases hm
      | inside hc h => exact .inr ⟨_, hshown ▸ hc, h⟩
    · rcases h with ⟨c, hc, hcomment⟩ | ⟨c, hc, h⟩
      · exact .head hk hc hcomment
      · exact .inside (hshown ▸ hc) h
  refine ⟨?_, by simp [hplain, hcommented, withArguments_ne_nil]⟩
  rw [hplain, hcommented]
  refine (shifted_arguments (shifted_head hg hparts hhead hargs) fun c hc => ?_).congr hd.symm
  have hc' :=
    SyntaxTree.mem_nodes_of_child (SyntaxTree.mem_children_of_mem_parts hc) c.self_mem_nodes
  exact ih args hargsMem c hc'

/-! ### Member types -/

theorem dotExcess_dot (t : Text) : dotExcess ("." ++ t) = dotExcess t + 1 := by
  have hdot : dotExcess ".".toList = 1 := by decide
  rw [dotExcess_append, hdot, Int.add_comm]

theorem dotExcess_join (f : SyntaxTree → Text) : ∀ cs : List SyntaxTree, cs ≠ [] →
    dotExcess (Text.join "." (cs.map f)) + 1 = dotExcess (cs.flatMap fun c => "." ++ f c)
  | [c], _ => by
    rw [List.map_cons, List.map_nil, Text.join_singleton, List.flatMap_singleton, dotExcess_dot]
  | c :: d :: cs, _ => by
    have ih := dotExcess_join f (d :: cs) (List.cons_ne_nil d cs)
    have hjoin : dotExcess (Text.join "." ((c :: d :: cs).map f)) =
        dotExcess (f c) + (dotExcess (Text.join "." ((d :: cs).map f)) + 1) := by
      rw [List.map_cons, List.map_cons, Text.join_cons_cons, List.append_assoc, dotExcess_append,
        dotExcess_dot]
    rw [hjoin, ih, List.flatMap_cons (x := c), dotExcess_append, dotExcess_dot]
    omega

/-- Each comment between the parts of a member type stands for one more dot. -/
theorem dotExcess_comments (cs : List SyntaxTree) :
    dotExcess (cs.flatMap fun c => "." ++ (render c).value) =
      dotExcess ((cs.filter (!·.isComment)).flatMap fun c => "." ++ (render c).value) +
        (cs.filter SyntaxTree.isComment).length := by
  induction cs with
  | nil => rfl
  | cons c cs ih =>
    rw [List.flatMap_cons, dotExcess_append, dotExcess_dot, ih]
    cases hc : c.isComment with
    | true =>
      rw [List.filter_cons_of_neg (by simp [hc]), List.filter_cons_of_pos hc, render_comment hc,
        dotExcess_nil, List.length_cons]
      omega
    | false =>
      rw [List.filter_cons_of_pos (by simp [hc]), List.filter_cons_of_neg (by simp [hc]),
        List.flatMap_cons, dotExcess_append, dotExcess_dot]
      omega

theorem mem_namedChildren_of_comment {c : SyntaxTree} (hc : c ∈ t.children)
    (hcomment : c.isComment = true) : c ∈ t.namedChildren := by
  have hk : c.kind = .comment := of_decide_eq_true hcomment
  exact List.mem_filter.2 ⟨hc, by rw [SyntaxTree.isNamed, hk]; rfl⟩

theorem follows_memberType (hg : t.IsGrammatical) (hk : t.kind = .memberType)
    (ih : ∀ c ∈ t.children, Follows c) : Follows t := by
  obtain ⟨type, dot, member, -, hparts, -⟩ := SyntaxTree.shape_memberType hg.shape hk
  have ihParts : ∀ c ∈ t.parts, Follows c := fun c hc =>
    ih c (SyntaxTree.mem_children_of_mem_parts hc)
  have hcommented := value_memberType hk
  have hplain := value_memberType (t := t.withoutComments) (by simpa using hk)
  rw [SyntaxTree.namedChildren_withoutComments, List.map_map] at hplain
  have hempty : (render t.withoutComments).value ≠ [] := by
    rw [hplain, hparts]
    exact Text.join_ne_nil (by simp) (by simp)
  refine ⟨?_, by simp [hempty, render_memberType_ne_nil hg.shape hk]⟩
  rw [hplain, hcommented]
  by_cases hfree : ∀ c ∈ t.namedChildren, c.isComment = false
  · have hnamed : t.namedChildren = t.parts :=
      (List.filter_eq_self.2 fun c hc => by simp [hfree c hc]).symm
    rw [hnamed]
    refine (Shifted.join "." t.parts fun c hc => (ihParts c hc).shifted).congr ?_
    refine ⟨fun ⟨c, hc, h⟩ => .inside (by simpa only [shownParts, hk] using hc) h, fun h => ?_⟩
    cases h with
    | head hg _ _ => rw [hk] at hg; cases hg
    | member _ hc hcomment =>
      rw [hfree _ (mem_namedChildren_of_comment hc hcomment)] at hcomment
      cases hcomment
    | inside hc h => exact ⟨_, by simpa only [shownParts, hk] using hc, h⟩
  · obtain ⟨c, hc, hcomment⟩ : ∃ c ∈ t.namedChildren, c.isComment = true := by
      simpa using hfree
    have hd : Disturbed t :=
      .member hk (SyntaxTree.mem_children_of_mem_namedChildren hc) hcomment
    refine ⟨fun h => absurd hd h, fun _ => ?_⟩
    -- The parts lose no dots by their own comments, and each comment between them adds one.
    have hpos : 0 < (t.namedChildren.filter SyntaxTree.isComment).length :=
      List.length_pos_of_mem (List.mem_filter.2 ⟨hc, hcomment⟩)
    have htype := (ihParts type (by rw [hparts]; simp)).shifted.le
    have hmember := (ihParts member (by rw [hparts]; simp)).shifted.le
    have hdots := dotExcess_comments t.namedChildren
    change _ = dotExcess (t.parts.flatMap _) + _ at hdots
    rw [← dotExcess_join _ _ (List.ne_nil_of_mem hc)] at hdots
    have hdots' := dotExcess_join ((fun c => (render c).value) ∘ SyntaxTree.withoutComments) t.parts
      (by simp [hparts])
    simp only [hparts, List.flatMap_cons, List.flatMap_nil, dotExcess_append,
      dotExcess_nil, Function.comp_apply] at hdots hdots' ⊢
    omega

/-! ### All expressions -/

theorem follows_typeHint (hg : t.IsGrammatical) (hk : t.kind = .typeHint)
    (ih : ∀ c ∈ t.children, Follows c) : Follows t := by
  obtain ⟨inner, hc, hn, hcomment, hi⟩ := SyntaxTree.shape_typeHint hg.shape hk
  have hparts : t.parts = [inner] := by
    rw [SyntaxTree.parts, hn, List.filter_cons_of_pos (by simp [hcomment]), List.filter_nil]
  have hinner := ih inner (by rw [hc]; exact List.mem_singleton_self inner)
  have hcommented := render_of_sole hk hn hi
  have hplain : render t.withoutComments = render inner.withoutComments :=
    render_of_sole (by simpa using hk)
      (by rw [SyntaxTree.namedChildren_withoutComments, hparts]; rfl) (by simpa using hi)
  refine ⟨?_, by rw [hplain, hcommented, hinner.empty_iff]⟩
  rw [hplain, hcommented]
  refine hinner.shifted.congr ?_
  rw [disturbed_iff_inside (t := t) (by simp [hk]) (by simp [hk])]
  simp [shownParts, hk, hparts]

theorem follows (t : SyntaxTree) (hg : t.IsGrammatical) : Follows t := by
  induction t using SyntaxTree.below_induction with
  | step t ih =>
    have ihNode : ∀ c ∈ t.children, ∀ n ∈ c.nodes, Follows n :=
      fun c hc n hn => ih c hc n hn ((hg.child hc).node hn)
    have ihChild : ∀ c ∈ t.children, Follows c := fun c hc => ihNode c hc c c.self_mem_nodes
    by_cases hk : t.kind = .typeHint
    · exact follows_typeHint hg hk ihChild
    · cases formed t with
      | text hf => exact follows_text hg hk hf
      | dotted ha => exact follows_attribute hg ha ihChild
      | memberType hm => exact follows_memberType hg hm ihChild
      | subscript hs => exact follows_subscript hg hs ihChild
      | genericType hs => exact follows_genericType hg hs ihNode
      | list hl => exact follows_list hl ihChild
      | negation hf => exact follows_negation hg hf ihChild
      | other hf => exact follows_other hg hk hf

end Follows

end DocOutline.Signature
