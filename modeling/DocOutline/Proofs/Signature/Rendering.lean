import DocOutline.Proofs.Note
import DocOutline.Signature.Render

/-!
# What a rendering is made of

The fold `rendered` carries the renderings of all children along. Here the value of a rendering is
given by the tree alone, with one equation for each form: what is written for a node, from what is
written for the children that count.
-/

namespace DocOutline.Signature

open Syntax

/-! ## The fold -/

theorem renderedAll_eq_map : ∀ ts : List SyntaxTree, renderedAll ts = ts.map rendered
  | [] => rfl
  | t :: ts => by rw [renderedAll, renderedAll_eq_map ts, List.map_cons]

theorem rendered_eq (t : SyntaxTree) : rendered t = .ofChildren t (t.children.map rendered) := by
  cases t with
  | node kind role text children => rw [rendered, renderedAll_eq_map]; rfl

@[simp] theorem rendered_tree (t : SyntaxTree) : (rendered t).tree = t := by
  rw [rendered_eq]
  rfl

theorem filter_map_rendered (test : SyntaxTree → Bool) (ts : List SyntaxTree) :
    (ts.map rendered).filter (test ·.tree) = (ts.filter test).map rendered := by
  rw [List.filter_map]
  congr 2
  funext t
  exact congrArg test (rendered_tree t)

theorem childIn?_map_rendered (role : Role) (ts : List SyntaxTree) :
    childIn? role (ts.map rendered) = (ts.find? (·.role = role)).map rendered := by
  unfold childIn?
  rw [List.find?_map]
  congr 2
  funext t
  rw [Function.comp_apply, rendered_tree]

theorem renderingsOf_map_rendered (test : SyntaxTree → Bool) (ts : List SyntaxTree) :
    renderingsOf test (ts.map rendered) = Noted.collect render (ts.filter test) := by
  unfold renderingsOf
  rw [filter_map_rendered, Noted.collect_map]
  rfl

theorem parts_rendered (t : SyntaxTree) :
    (rendered t).parts = Noted.collect render t.namedChildren := by
  rw [rendered_eq]
  exact renderingsOf_map_rendered SyntaxTree.isNamed t.children

/-- The head of a generic type: the last of these trees that holds no arguments, or `head`. -/
def headIn (head : Text) : List SyntaxTree → Text
  | [] => head
  | c :: cs => headIn (if c.kind = .typeParameter then head else (render c).value) cs

/-- The arguments of a generic type that these trees hold. -/
def argumentsIn (ts : List SyntaxTree) : List Text :=
  (ts.filter (·.kind = .typeParameter)).flatMap fun c => c.namedChildren.map fun a => (render a).value

theorem value_genericParts (head : Text) (ts : List SyntaxTree) :
    (genericParts head (ts.map rendered)).value = (headIn head ts, argumentsIn ts) := by
  induction ts generalizing head with
  | nil => rfl
  | cons c cs ih =>
    rw [List.map_cons, genericParts, rendered_tree, headIn]
    by_cases hk : c.kind = .typeParameter
    · rw [if_pos hk, if_pos hk]
      have hargs : argumentsIn (c :: cs) =
          (c.namedChildren.map fun a => (render a).value) ++ argumentsIn cs := by
        unfold argumentsIn
        rw [List.filter_cons_of_pos (by simpa using hk), List.flatMap_cons]
      simp only [Noted.value_bind, Noted.value_pure, ih, parts_rendered, Noted.value_collect, hargs]
    · rw [if_neg hk, if_neg hk]
      have hargs : argumentsIn (c :: cs) = argumentsIn cs := by
        unfold argumentsIn
        rw [List.filter_cons_of_neg (by simpa using hk)]
      rw [Noted.value_bind, ih, hargs]
      rfl

/-! ## Wrappers -/

theorem unwrapped_of_ne {t : SyntaxTree} (hk : t.kind ≠ .typeHint) : t.unwrapped = t := by
  rw [SyntaxTree.unwrapped, if_neg hk]

theorem unwrapped_of_sole {t inner : SyntaxTree} (hk : t.kind = .typeHint)
    (hc : t.namedChildren = [inner]) : t.unwrapped = inner := by
  rw [SyntaxTree.unwrapped, if_pos hk, hc]

theorem formOf_of_ne {t : SyntaxTree} (hk : t.kind ≠ .typeHint) : formOf t = bareForm t := by
  rw [formOf, unwrapped_of_ne hk]

theorem render_of_ne {t : SyntaxTree} (hk : t.kind ≠ .typeHint) :
    render t = renderNode t (t.children.map rendered) := by
  unfold render
  rw [rendered_eq]
  exact if_neg hk

theorem render_of_sole {t inner : SyntaxTree} (hk : t.kind = .typeHint)
    (hc : t.namedChildren = [inner]) (hi : inner.kind ≠ .typeHint) : render t = render inner := by
  have hsole : (t.children.map rendered).filter (·.tree.isNamed) = [rendered inner] := by
    rw [filter_map_rendered SyntaxTree.isNamed]
    change t.namedChildren.map rendered = _
    rw [hc, List.map_cons, List.map_nil]
  rw [render_of_ne hi]
  unfold render
  rw [rendered_eq]
  change renderWrapped t (t.children.map rendered) = _
  unfold renderWrapped
  rw [if_pos hk, hsole, rendered_eq]
  rfl

/-! ## One equation for each form -/

section Forms

variable {t : SyntaxTree}

theorem render_of_text (hk : t.kind ≠ .typeHint)
    (hf : bareForm t = .name ∨ bareForm t = .constant) : render t = pure t.text := by
  rw [render_of_ne hk, renderNode, formOf_of_ne hk]
  rcases hf with hf | hf
  · rw [hf]
  · rw [hf]

theorem render_attribute {object attr : SyntaxTree} (hk : t.kind = .attribute)
    (ho : t.child? .object = some object) (ha : t.child? .attribute = some attr) :
    render t = do
      let object ← render object
      return if object.isEmpty then [] else object ++ ".".toList ++ attr.text := by
  have hne : t.kind ≠ .typeHint := by rw [hk]; decide
  have hf : bareForm t = .attribute := by simp only [bareForm, hk]
  rw [render_of_ne hne, renderNode, formOf_of_ne hne, hf]
  unfold SyntaxTree.child? at ho
  simp only [renderAttribute, hk, reduceCtorEq, if_false, childIn?_map_rendered, ho, ha]
  rfl

theorem render_memberType (hk : t.kind = .memberType) :
    render t = do
      let parts ← Noted.collect render t.namedChildren
      return Text.join "." parts := by
  have hne : t.kind ≠ .typeHint := by rw [hk]; decide
  have hf : bareForm t = .attribute := by simp only [bareForm, hk]
  rw [render_of_ne hne, renderNode, formOf_of_ne hne, hf]
  simp only [renderAttribute, hk, if_true, renderingsOf_map_rendered]
  rfl

theorem render_genericType (hk : t.kind = .genericType) :
    render t = do
      let parts ← genericParts [] (t.namedChildren.map rendered)
      return withArguments parts.1 parts.2 := by
  have hne : t.kind ≠ .typeHint := by rw [hk]; decide
  have hf : bareForm t = .subscript := by simp only [bareForm, hk]
  rw [render_of_ne hne, renderNode, formOf_of_ne hne, hf]
  simp only [renderSubscript, hk, if_true, filter_map_rendered SyntaxTree.isNamed]
  rfl

theorem render_subscript {value : SyntaxTree} (hk : t.kind = .subscript)
    (hv : t.child? .value = some value) :
    render t = do
      let head ← render value
      let args ← Noted.collect render (t.children.filter (·.role = .subscript))
      return withArguments head args := by
  have hne : t.kind ≠ .typeHint := by rw [hk]; decide
  have hf : bareForm t = .subscript := by simp only [bareForm, hk]
  rw [render_of_ne hne, renderNode, formOf_of_ne hne, hf]
  unfold SyntaxTree.child? at hv
  simp only [renderSubscript, hk, reduceCtorEq, if_false, childIn?_map_rendered, hv,
    Option.map_some, renderingsOf_map_rendered]
  rfl

theorem render_list (hk : t.kind = .list) :
    render t = do
      let elements ← Noted.collect render t.parts
      return withArguments [] elements := by
  have hne : t.kind ≠ .typeHint := by rw [hk]; decide
  have hf : bareForm t = .list := by simp only [bareForm, hk]
  have hparts : t.children.filter (fun c => c.isNamed && !c.isComment) = t.parts := by
    rw [SyntaxTree.parts, SyntaxTree.namedChildren, List.filter_filter]
    congr 1
    funext c
    exact Bool.and_comm _ _
  rw [render_of_ne hne, renderNode, formOf_of_ne hne, hf]
  simp only [renderingsOf_map_rendered, hparts]

theorem kind_of_negation (hf : bareForm t = .negation) : t.kind = .unaryOperator := by
  unfold bareForm at hf
  split at hf <;> simp_all

/-- A minus sign is written only before an operand that has one of the right forms. -/
theorem render_negation (hf : bareForm t = .negation) :
    render t = (((t.child? .argument).filter fun a => operandForms.contains (formOf a)).map
      fun operand => do
        let operand ← render operand
        return "-".toList ++ operand).getD ⟨[], [.unknownOperand t.text]⟩ := by
  have hk : t.kind ≠ .typeHint := by rw [kind_of_negation hf]; decide
  rw [render_of_ne hk, renderNode, formOf_of_ne hk, hf]
  simp only [renderNegation, childIn?_map_rendered, SyntaxTree.child?]
  cases t.children.find? (·.role = Role.argument) with
  | none => rfl
  | some operand =>
    simp only [Option.map_some, Option.filter_some, rendered_tree]
    by_cases ho : operandForms.contains (formOf operand) = true
    · rw [if_pos ho, if_pos ho]
      rfl
    · rw [if_neg ho, if_neg ho]
      rfl

theorem render_other (hk : t.kind ≠ .typeHint) (hf : bareForm t = .other) :
    render t = ⟨[], [.unknownForm t.text t.kind]⟩ := by
  rw [render_of_ne hk, renderNode, formOf_of_ne hk, hf]
  rfl

/-! ## What is written -/

/-- Names and literals are written as they stand in the source. -/
theorem value_of_text (hk : t.kind ≠ .typeHint) (hf : bareForm t = .name ∨ bareForm t = .constant) :
    (render t).value = t.text := by
  rw [render_of_text hk hf]
  rfl

/-- An object and its attribute. Nothing is written if nothing is written for the object. -/
theorem value_attribute {object attr : SyntaxTree} (hk : t.kind = .attribute)
    (ho : t.child? .object = some object) (ha : t.child? .attribute = some attr) :
    (render t).value =
      if (render object).value.isEmpty then []
      else (render object).value ++ ".".toList ++ attr.text := by
  rw [render_attribute hk ho ha]
  rfl

theorem value_memberType (hk : t.kind = .memberType) :
    (render t).value = Text.join "." (t.namedChildren.map fun c => (render c).value) := by
  rw [render_memberType hk, Noted.value_bind, Noted.value_collect]
  rfl

theorem value_genericType (hk : t.kind = .genericType) :
    (render t).value =
      withArguments (headIn [] t.namedChildren) (argumentsIn t.namedChildren) := by
  rw [render_genericType hk, Noted.value_bind, value_genericParts]
  rfl

theorem value_subscript {value : SyntaxTree} (hk : t.kind = .subscript)
    (hv : t.child? .value = some value) :
    (render t).value = withArguments (render value).value
      ((t.children.filter (·.role = .subscript)).map fun c => (render c).value) := by
  rw [render_subscript hk hv, Noted.value_bind, Noted.value_bind, Noted.value_collect]
  rfl

theorem value_list (hk : t.kind = .list) :
    (render t).value = withArguments [] (t.parts.map fun c => (render c).value) := by
  rw [render_list hk, Noted.value_bind, Noted.value_collect]
  rfl

theorem value_negation (hf : bareForm t = .negation) :
    (render t).value =
      match (t.child? .argument).filter fun a => operandForms.contains (formOf a) with
      | some operand => "-" ++ (render operand).value
      | none => [] := by
  rw [render_negation hf]
  cases (t.child? .argument).filter fun a => operandForms.contains (formOf a) with
  | none => rfl
  | some operand => rfl

theorem value_other (hk : t.kind ≠ .typeHint) (hf : bareForm t = .other) :
    (render t).value = [] := by
  rw [render_other hk hf]

end Forms

/-! ## The forms by their kinds -/

/-- The ways in which a tree can have its form. Two of the forms have two kinds each. -/
inductive Formed (t : SyntaxTree) : Prop
  | text (hf : bareForm t = .name ∨ bareForm t = .constant)
  | dotted (hk : t.kind = .attribute)
  | memberType (hk : t.kind = .memberType)
  | subscript (hk : t.kind = .subscript)
  | genericType (hk : t.kind = .genericType)
  | list (hk : t.kind = .list)
  | negation (hf : bareForm t = .negation)
  | other (hf : bareForm t = .other)

theorem formed (t : SyntaxTree) : Formed t := by
  by_cases ha : t.kind = .attribute
  · exact .dotted ha
  cases hk : t.kind with
  | identifier => exact .text (.inl (by simp only [bareForm, hk]))
  | string => exact .text (.inr (by simp only [bareForm, hk]))
  | concatenatedString => exact .text (.inr (by simp only [bareForm, hk]))
  | integer => exact .text (.inr (by simp only [bareForm, hk]))
  | float => exact .text (.inr (by simp only [bareForm, hk]))
  | trueLiteral => exact .text (.inr (by simp only [bareForm, hk]))
  | falseLiteral => exact .text (.inr (by simp only [bareForm, hk]))
  | noneLiteral => exact .text (.inr (by simp only [bareForm, hk]))
  | ellipsis => exact .text (.inr (by simp only [bareForm, hk]))
  | memberType => exact .memberType hk
  | subscript => exact .subscript hk
  | genericType => exact .genericType hk
  | list => exact .list hk
  | unaryOperator =>
    cases ho : t.child? .operator with
    | none => exact .other (by simp only [bareForm, hk, ho])
    | some op =>
      by_cases hm : op.text = "-".toList
      · exact .negation (by simp only [bareForm, hk, ho, hm, if_true])
      · exact .other (by simp only [bareForm, hk, ho, hm, if_false])
  | _ => exact .other (by simp_all [bareForm])

end DocOutline.Signature
