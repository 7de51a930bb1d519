import DocOutline.Proofs.Syntax.Shape

/-!
# Trees without comments

Deleting all comments of a tree keeps every other node with its kind, its role and its text. The
children that are left are the elements of the node. In a grammatical tree comments play no role, so
that looking up a child by its role commutes with the deletion.
-/

namespace DocOutline.Syntax.SyntaxTree

mutual

/-- A tree without the comments below it. -/
def withoutComments : SyntaxTree → SyntaxTree
  | node k r x cs => node k r x (withoutCommentsAll cs)

/-- Trees side by side without the comments among them and below them. -/
def withoutCommentsAll : List SyntaxTree → List SyntaxTree
  | [] => []
  | t :: ts =>
    if t.isComment then withoutCommentsAll ts else withoutComments t :: withoutCommentsAll ts

end

theorem withoutCommentsAll_eq : ∀ ts : List SyntaxTree,
    withoutCommentsAll ts = (ts.filter (!·.isComment)).map withoutComments
  | [] => rfl
  | t :: ts => by
    rw [withoutCommentsAll, withoutCommentsAll_eq ts]
    cases h : t.isComment with
    | true => rw [if_pos rfl, List.filter_cons_of_neg (by simp [h])]
    | false => rw [if_neg Bool.false_ne_true, List.filter_cons_of_pos (by simp [h]), List.map_cons]

section Fields

variable (t : SyntaxTree)

@[simp] theorem kind_withoutComments : t.withoutComments.kind = t.kind := by
  cases t with
  | node k r x cs => rw [withoutComments]; rfl

@[simp] theorem role_withoutComments : t.withoutComments.role = t.role := by
  cases t with
  | node k r x cs => rw [withoutComments]; rfl

@[simp] theorem text_withoutComments : t.withoutComments.text = t.text := by
  cases t with
  | node k r x cs => rw [withoutComments]; rfl

@[simp] theorem isNamed_withoutComments : t.withoutComments.isNamed = t.isNamed := by
  rw [isNamed, kind_withoutComments, isNamed]

@[simp] theorem isComment_withoutComments : t.withoutComments.isComment = t.isComment := by
  rw [isComment, kind_withoutComments, isComment]

theorem children_withoutComments :
    t.withoutComments.children = t.elements.map withoutComments := by
  cases t with
  | node k r x cs =>
    rw [withoutComments]
    exact withoutCommentsAll_eq cs

/-- Filters that look at the fields of a node only commute with the deletion. -/
theorem filter_map_withoutComments (test : SyntaxTree → Bool) (ts : List SyntaxTree)
    (htest : ∀ c : SyntaxTree, test c.withoutComments = test c) :
    (ts.map withoutComments).filter test = (ts.filter test).map withoutComments := by
  rw [List.filter_map]
  congr 2
  funext c
  exact htest c

theorem namedChildren_withoutComments :
    t.withoutComments.namedChildren = t.parts.map withoutComments := by
  unfold namedChildren
  rw [children_withoutComments, filter_map_withoutComments isNamed _ isNamed_withoutComments,
    ← parts_eq_elements]

theorem parts_withoutComments : t.withoutComments.parts = t.parts.map withoutComments := by
  rw [parts, namedChildren_withoutComments,
    filter_map_withoutComments (!·.isComment) _ fun c => by rw [isComment_withoutComments]]
  congr 1
  rw [parts, List.filter_filter]
  congr 1
  funext c
  exact Bool.and_self _

end Fields

section Roles

variable {t : SyntaxTree} {role : Role}

theorem IsGrammatical.child?_withoutComments (h : t.IsGrammatical) (hr : role ≠ .plain) :
    t.withoutComments.child? role = (t.child? role).map withoutComments := by
  rw [h.child?_eq hr, child?, children_withoutComments, List.find?_map]
  congr 2
  funext c
  rw [Function.comp_apply, role_withoutComments]

theorem IsGrammatical.filter_role_eq (h : t.IsGrammatical) (hr : role ≠ .plain) :
    t.children.filter (·.role = role) = t.elements.filter (·.role = role) := by
  unfold elements
  rw [List.filter_filter]
  apply List.filter_congr
  intro c hc
  cases hcm : c.isComment with
  | true =>
    have hplain := (h.comment hc hcm).2
    simp [hplain, hr.symm]
  | false => simp

theorem IsGrammatical.filter_role_withoutComments (h : t.IsGrammatical) (hr : role ≠ .plain) :
    t.withoutComments.children.filter (·.role = role) =
      (t.children.filter (·.role = role)).map withoutComments := by
  rw [h.filter_role_eq hr, children_withoutComments,
    filter_map_withoutComments _ _ fun c => by rw [role_withoutComments]]

end Roles

end DocOutline.Syntax.SyntaxTree
