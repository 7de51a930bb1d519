import DocOutline.Syntax.Tree

/-!
# The shapes of nodes

What the grammar says about the children of a node, for the kinds of nodes that signatures and
docstrings are read from. Comments may stand between the other children, so most shapes are about
the `elements` of a node, which are its children without the comments. A tree is grammatical if
each of its nodes has its shape; such a tree has no errors.
-/

namespace DocOutline.Syntax.SyntaxTree

/-! ## All nodes of a tree -/

mutual

/-- All nodes of a tree, in the order in which they start. -/
def nodes : SyntaxTree → List SyntaxTree
  | node k r x cs => node k r x cs :: nodesAll cs

/-- All nodes of trees side by side. -/
def nodesAll : List SyntaxTree → List SyntaxTree
  | [] => []
  | t :: ts => nodes t ++ nodesAll ts

end

theorem nodesAll_eq_flatMap : ∀ ts : List SyntaxTree, nodesAll ts = ts.flatMap nodes
  | [] => rfl
  | t :: ts => by rw [nodesAll, nodesAll_eq_flatMap ts, List.flatMap_cons]

theorem nodes_eq (t : SyntaxTree) : t.nodes = t :: t.children.flatMap nodes := by
  cases t with
  | node k r x cs => rw [nodes, nodesAll_eq_flatMap]; rfl

theorem self_mem_nodes (t : SyntaxTree) : t ∈ t.nodes := by
  rw [nodes_eq]
  exact List.mem_cons_self

theorem mem_nodes_of_child {t c n : SyntaxTree} (hc : c ∈ t.children) (hn : n ∈ c.nodes) :
    n ∈ t.nodes := by
  rw [nodes_eq]
  exact List.mem_cons_of_mem t (List.mem_flatMap.2 ⟨c, hc, hn⟩)

mutual

theorem below_induction_nodes {motive : SyntaxTree → Prop}
    (step : ∀ t : SyntaxTree, (∀ c ∈ t.children, ∀ n ∈ c.nodes, motive n) → motive t) :
    ∀ t : SyntaxTree, ∀ n ∈ t.nodes, motive n
  | .node k r x cs, n, hn => by
    have hbelow : ∀ c ∈ cs, ∀ n ∈ c.nodes, motive n := below_induction_nodesAll step cs
    rw [nodes_eq] at hn
    rcases List.mem_cons.1 hn with rfl | hn
    · exact step _ hbelow
    · obtain ⟨c, hc, hn⟩ := List.mem_flatMap.1 hn
      exact hbelow c hc n hn

theorem below_induction_nodesAll {motive : SyntaxTree → Prop}
    (step : ∀ t : SyntaxTree, (∀ c ∈ t.children, ∀ n ∈ c.nodes, motive n) → motive t) :
    ∀ ts : List SyntaxTree, ∀ c ∈ ts, ∀ n ∈ c.nodes, motive n
  | [], _, hc => by cases hc
  | t :: ts, c, hc => by
    rcases List.mem_cons.1 hc with he | hc
    · rw [he]
      exact below_induction_nodes step t
    · exact below_induction_nodesAll step ts c hc

end

/-- Induction over a tree: a statement about a node may use it for all nodes below. -/
theorem below_induction {motive : SyntaxTree → Prop}
    (step : ∀ t : SyntaxTree, (∀ c ∈ t.children, ∀ n ∈ c.nodes, motive n) → motive t)
    (t : SyntaxTree) : motive t :=
  below_induction_nodes step t t t.self_mem_nodes

theorem mem_nodes_trans {t n m : SyntaxTree} (hn : n ∈ t.nodes) (hm : m ∈ n.nodes) :
    m ∈ t.nodes := by
  induction t using below_induction with
  | step t ih =>
    rw [nodes_eq] at hn
    rcases List.mem_cons.1 hn with rfl | hn
    · exact hm
    · obtain ⟨c, hc, hn⟩ := List.mem_flatMap.1 hn
      exact mem_nodes_of_child hc (ih c hc c c.self_mem_nodes hn)

/-! ## Parts of a shape -/

/-- The children that are no comments. -/
def elements (t : SyntaxTree) : List SyntaxTree := t.children.filter (!·.isComment)

/-- Whether a node is this keyword, operator or bracket. -/
def isSign (w : String) (t : SyntaxTree) : Bool :=
  t.kind = .token && t.role = .plain && t.text = w.toList

/-- Whether a node counts as a child and has this role. -/
def isPart (role : Role) (t : SyntaxTree) : Bool := t.isNamed && t.role = role

/-- Whether these are items with commas between them, and perhaps behind the last one, up to a
closing bracket. -/
def isItemsTo (close : String) (item : SyntaxTree → Bool) : List SyntaxTree → Bool
  | [] => false
  | [last] => last.isSign close
  | [first, last] => item first && last.isSign close
  | first :: comma :: rest => item first && comma.isSign "," && isItemsTo close item rest

/-- Whether these are items in brackets. -/
def isBracketed (opening close : String) (item : SyntaxTree → Bool) : List SyntaxTree → Bool
  | start :: rest => start.isSign opening && isItemsTo close item rest
  | [] => false

/-- Whether no comment comes before the first element. -/
def startsPlainly (t : SyntaxTree) : Bool := t.children.head?.all (!·.isComment)

/-- Whether these elements finish the header of a function behind its parameters. -/
def isHeaderEnd : List SyntaxTree → Bool
  | [colon, body] => colon.isSign ":" && body.isPart .body
  | [arrow, result, colon, body] =>
    arrow.isSign "->" && result.isPart .returnType && result.kind = .typeHint &&
      colon.isSign ":" && body.isPart .body
  | _ => false

/-- Whether these elements finish the header of a function behind its name. -/
def isHeaderTail : List SyntaxTree → Bool
  | types :: params :: rest =>
    if types.kind = .typeParameter then
      types.isPart .plain && params.isPart .parameters && params.kind = .parameters &&
        isHeaderEnd rest
    else types.isPart .parameters && types.kind = .parameters && isHeaderEnd (params :: rest)
  | _ => false

/-- Whether these are the elements of a function from its keyword on. -/
def isFunction : List SyntaxTree → Bool
  | keyword :: name :: rest =>
    keyword.isSign "def" && name.isPart .name && name.kind = .identifier && isHeaderTail rest
  | _ => false

/-! ## Shapes -/

/-- Whether a node has the shape that the grammar gives to its kind. -/
def hasShape (t : SyntaxTree) : Bool :=
  match t.kind with
  | .error | .missing => false
  | .comment => t.children.isEmpty && t.role = .plain
  | .identifier => !t.text.isEmpty && !t.text.contains '.'
  | .string | .concatenatedString | .integer | .float => !t.text.isEmpty
  | .trueLiteral | .falseLiteral | .noneLiteral | .ellipsis => !t.text.isEmpty
  | .keywordSeparator => t.text = "*".toList
  | .positionalSeparator => t.text = "/".toList
  | .attribute =>
    match t.elements with
    | [object, dot, attr] =>
      object.isPart .object && dot.isSign "." && attr.isPart .attribute && attr.kind = .identifier
    | _ => false
  | .memberType =>
    match t.elements with
    | [type, dot, member] => type.kind = .typeHint && dot.isSign "." && member.kind = .identifier
    | _ => false
  | .subscript =>
    match t.elements with
    | value :: rest => value.isPart .value && isBracketed "[" "]" (isPart .subscript) rest
    | [] => false
  | .genericType =>
    match t.elements with
    | [head, args] => head.kind = .identifier && args.kind = .typeParameter
    | _ => false
  | .typeParameter => isBracketed "[" "]" (·.kind = .typeHint) t.elements
  | .list => isBracketed "[" "]" isNamed t.elements
  | .unaryOperator =>
    match t.elements with
    | [op, operand] => op.kind = .token && op.role = .operator && operand.isPart .argument
    | _ => false
  | .typeHint =>
    match t.children with
    | [inner] => inner.isNamed && !inner.isComment && inner.kind ≠ .typeHint
    | _ => false
  | .functionDefinition =>
    t.startsPlainly &&
      match t.elements with
      | first :: rest => if first.isSign "async" then isFunction rest else isFunction (first :: rest)
      | [] => false
  | .parameters => isBracketed "(" ")" isNamed t.elements
  | .typedParameter =>
    t.startsPlainly &&
      match t.elements with
      | [target, colon, type] =>
        target.isPart .plain && colon.isSign ":" && type.isPart .type && type.kind = .typeHint
      | _ => false
  | .defaultParameter =>
    match t.elements with
    | [name, eq, value] => name.isPart .name && eq.isSign "=" && value.isPart .value
    | _ => false
  | .typedDefaultParameter =>
    match t.elements with
    | [name, colon, type, eq, value] =>
      name.isPart .name && colon.isSign ":" && type.isPart .type && type.kind = .typeHint &&
        eq.isSign "=" && value.isPart .value
    | _ => false
  | .decorator =>
    match t.elements with
    | [start, subject] => start.isSign "@" && subject.isNamed
    | _ => false
  | .call =>
    match t.elements with
    | [function, args] => function.isPart .function && args.isPart .arguments
    | _ => false
  | .argumentList => isBracketed "(" ")" isNamed t.elements
  | .expressionStatement => t.children.all (!·.isComment)
  | _ => true

/-- A tree in which every node has its shape. -/
def IsGrammatical (t : SyntaxTree) : Prop := ∀ n ∈ t.nodes, n.hasShape = true

instance (t : SyntaxTree) : Decidable t.IsGrammatical :=
  inferInstanceAs (Decidable (∀ n ∈ t.nodes, n.hasShape = true))

theorem IsGrammatical.shape {t : SyntaxTree} (h : t.IsGrammatical) : t.hasShape = true :=
  h t t.self_mem_nodes

theorem IsGrammatical.child {t c : SyntaxTree} (h : t.IsGrammatical) (hc : c ∈ t.children) :
    c.IsGrammatical :=
  fun n hn => h n (mem_nodes_of_child hc hn)

theorem IsGrammatical.node {t n : SyntaxTree} (h : t.IsGrammatical) (hn : n ∈ t.nodes) :
    n.IsGrammatical :=
  fun m hm => h m (mem_nodes_trans hn hm)

theorem mem_children_of_child? {t c : SyntaxTree} {role : Role} (hc : t.child? role = some c) :
    c ∈ t.children :=
  List.mem_of_find?_eq_some hc

theorem mem_children_of_mem_namedChildren {t c : SyntaxTree} (hc : c ∈ t.namedChildren) :
    c ∈ t.children :=
  (List.mem_filter.1 hc).1

theorem mem_children_of_mem_parts {t c : SyntaxTree} (hc : c ∈ t.parts) : c ∈ t.children :=
  mem_children_of_mem_namedChildren (List.mem_filter.1 hc).1

/-! ## Reading a shape -/

section Reading

variable {t : SyntaxTree}

theorem isSign_iff {w : String} :
    t.isSign w = true ↔ t.kind = .token ∧ t.role = .plain ∧ t.text = w.toList := by
  simp [isSign, and_assoc]

theorem isNamed_sign {w : String} (h : t.isSign w = true) : t.isNamed = false := by
  rw [isNamed, (isSign_iff.1 h).1]
  rfl

theorem isPart_iff {role : Role} : t.isPart role = true ↔ t.isNamed = true ∧ t.role = role := by
  simp [isPart]

theorem mem_children_of_mem_elements {c : SyntaxTree} (hc : c ∈ t.elements) : c ∈ t.children :=
  (List.mem_filter.1 hc).1

theorem parts_eq_elements : t.parts = t.elements.filter isNamed := by
  unfold parts namedChildren elements
  rw [List.filter_filter, List.filter_filter]
  congr 1
  funext c
  exact Bool.and_comm _ _

/-- A comment plays no part in its node. -/
theorem IsGrammatical.comment {c : SyntaxTree} (h : t.IsGrammatical) (hc : c ∈ t.children)
    (hcomment : c.isComment = true) : c.children = [] ∧ c.role = .plain := by
  have hk : c.kind = .comment := of_decide_eq_true hcomment
  have hshape := (h.child hc).shape
  simp only [hasShape, hk, Bool.and_eq_true, List.isEmpty_iff, decide_eq_true_eq] at hshape
  exact hshape

/-- A child in a role is found among the elements. -/
theorem IsGrammatical.child?_eq (h : t.IsGrammatical) {role : Role} (hr : role ≠ .plain) :
    t.child? role = t.elements.find? (·.role = role) := by
  have hcomment : ∀ c ∈ t.children, c.isComment = true → c.role = .plain :=
    fun c hc hcm => (h.comment hc hcm).2
  unfold child? elements
  generalize t.children = cs at hcomment
  induction cs with
  | nil => rfl
  | cons c cs ih =>
    have ih' := ih fun c' hc' => hcomment c' (List.mem_cons_of_mem c hc')
    cases hcm : c.isComment with
    | true =>
      have hne : c.role ≠ role := fun he => hr (he.symm.trans (hcomment c List.mem_cons_self hcm))
      rw [List.filter_cons_of_neg (by simp [hcm]), List.find?_cons_of_neg (by simp [hne]), ih']
    | false =>
      rw [List.filter_cons_of_pos (by simp [hcm]), List.find?_cons, List.find?_cons, ih']

theorem shape_typeHint (h : t.hasShape = true) (hk : t.kind = .typeHint) :
    ∃ inner, t.children = [inner] ∧ t.namedChildren = [inner] ∧ inner.isComment = false ∧
      inner.kind ≠ .typeHint := by
  simp only [hasShape, hk] at h
  split at h
  · rename_i inner hc
    simp only [Bool.and_eq_true, Bool.not_eq_true', decide_eq_true_eq] at h
    refine ⟨inner, hc, ?_, h.1.2, h.2⟩
    unfold namedChildren
    rw [hc, List.filter_cons_of_pos h.1.1, List.filter_nil]
  · cases h

theorem IsGrammatical.attribute (hg : t.IsGrammatical) (hk : t.kind = .attribute) :
    ∃ object dot attr, t.elements = [object, dot, attr] ∧ object.isNamed = true ∧
      dot.isSign "." = true ∧ t.child? .object = some object ∧
      t.child? .attribute = some attr := by
  have h := hg.shape
  simp only [hasShape, hk] at h
  split at h
  · rename_i object dot attr he
    simp only [Bool.and_eq_true, decide_eq_true_eq] at h
    obtain ⟨⟨⟨hobject, hdot⟩, hattr⟩, -⟩ := h
    rw [isPart_iff] at hobject hattr
    have hrole := (isSign_iff.1 hdot).2.1
    refine ⟨object, dot, attr, he, hobject.1, hdot, ?_, ?_⟩
    · rw [hg.child?_eq (by decide), he]
      simp [hobject.2]
    · rw [hg.child?_eq (by decide), he]
      simp [hobject.2, hrole, hattr.2]
  · cases h

theorem IsGrammatical.parts_attribute (hg : t.IsGrammatical) (hk : t.kind = .attribute) :
    ∃ object attr, t.parts = [object, attr] ∧ t.child? .object = some object ∧
      t.child? .attribute = some attr ∧ attr.kind = .identifier := by
  obtain ⟨object, dot, attr, he, hnamed, hdot, ho, ha⟩ := hg.attribute hk
  have hkind : attr.kind = .identifier := by
    have h := hg.shape
    simp only [hasShape, hk, he, Bool.and_eq_true, decide_eq_true_eq] at h
    exact h.2
  refine ⟨object, attr, ?_, ho, ha, hkind⟩
  rw [parts_eq_elements, he, List.filter_cons_of_pos hnamed,
    List.filter_cons_of_neg (by simp [isNamed_sign hdot]),
    List.filter_cons_of_pos (by rw [isNamed, hkind]; rfl), List.filter_nil]

theorem shape_memberType (h : t.hasShape = true) (hk : t.kind = .memberType) :
    ∃ type dot member, t.elements = [type, dot, member] ∧ t.parts = [type, member] ∧
      type.kind = .typeHint ∧ dot.isSign "." = true ∧ member.kind = .identifier := by
  simp only [hasShape, hk] at h
  split at h
  · rename_i type dot member he
    simp only [Bool.and_eq_true, decide_eq_true_eq] at h
    have hparts : t.parts = [type, member] := by
      rw [parts_eq_elements, he]
      simp [isNamed, h.1.1, (isSign_iff.1 h.1.2).1, h.2, Kind.isNamed]
    exact ⟨type, dot, member, he, hparts, h.1.1, h.1.2, h.2⟩
  · cases h

theorem IsGrammatical.subscript (hg : t.IsGrammatical) (hk : t.kind = .subscript) :
    ∃ value rest, t.elements = value :: rest ∧ value.isPart .value = true ∧
      t.child? .value = some value ∧ isBracketed "[" "]" (isPart .subscript) rest = true := by
  have h := hg.shape
  simp only [hasShape, hk] at h
  split at h
  · rename_i value rest he
    rw [Bool.and_eq_true] at h
    refine ⟨value, rest, he, h.1, ?_, h.2⟩
    rw [hg.child?_eq (by decide), he]
    simp [(isPart_iff.1 h.1).2]
  · cases h

theorem shape_genericType (h : t.hasShape = true) (hk : t.kind = .genericType) :
    ∃ head args, t.elements = [head, args] ∧ t.parts = [head, args] ∧ head.kind = .identifier ∧
      args.kind = .typeParameter := by
  simp only [hasShape, hk] at h
  split at h
  · rename_i head args he
    simp only [Bool.and_eq_true, decide_eq_true_eq] at h
    have hparts : t.parts = [head, args] := by
      rw [parts_eq_elements, he]
      simp [isNamed, h.1, h.2, Kind.isNamed]
    exact ⟨head, args, he, hparts, h.1, h.2⟩
  · cases h

theorem IsGrammatical.unaryOperator (hg : t.IsGrammatical) (hk : t.kind = .unaryOperator) :
    ∃ op operand, t.elements = [op, operand] ∧ operand.isNamed = true ∧
      t.child? .operator = some op ∧ t.child? .argument = some operand := by
  have h := hg.shape
  simp only [hasShape, hk] at h
  split at h
  · rename_i op operand he
    simp only [Bool.and_eq_true, decide_eq_true_eq] at h
    obtain ⟨⟨-, hop⟩, hoperand⟩ := h
    rw [isPart_iff] at hoperand
    refine ⟨op, operand, he, hoperand.1, ?_, ?_⟩
    · rw [hg.child?_eq (by decide), he]
      simp [hop]
    · rw [hg.child?_eq (by decide), he]
      simp [hop, hoperand.2]
  · cases h

theorem IsGrammatical.parts_unaryOperator (hg : t.IsGrammatical) (hk : t.kind = .unaryOperator) :
    ∃ operand, t.parts = [operand] ∧ t.child? .argument = some operand := by
  obtain ⟨op, operand, he, hnamed, -, ho⟩ := hg.unaryOperator hk
  have hop : op.kind = .token := by
    have h := hg.shape
    simp only [hasShape, hk, he, Bool.and_eq_true, decide_eq_true_eq] at h
    exact h.1.1
  have hsign : op.isNamed = false := by rw [isNamed, hop]; rfl
  refine ⟨operand, ?_, ho⟩
  rw [parts_eq_elements, he, List.filter_cons_of_neg (by simp [hsign]),
    List.filter_cons_of_pos hnamed, List.filter_nil]

theorem head?_children (h : t.startsPlainly = true) : t.children.head? = t.elements.head? := by
  unfold startsPlainly at h
  unfold elements
  cases hc : t.children with
  | nil => rfl
  | cons c cs =>
    rw [hc] at h
    rw [List.filter_cons_of_pos (by simpa using h)]
    rfl

theorem IsGrammatical.typedParameter (hg : t.IsGrammatical) (hk : t.kind = .typedParameter) :
    ∃ target colon type, t.elements = [target, colon, type] ∧ colon.isSign ":" = true ∧
      t.namedChildren.head? = some target ∧ t.child? .type = some type := by
  have h := hg.shape
  simp only [hasShape, hk, Bool.and_eq_true] at h
  obtain ⟨hplain, h⟩ := h
  split at h
  · rename_i target colon type he
    simp only [Bool.and_eq_true, decide_eq_true_eq] at h
    obtain ⟨⟨⟨htarget, hcolon⟩, htype⟩, -⟩ := h
    rw [isPart_iff] at htarget htype
    refine ⟨target, colon, type, he, hcolon, ?_, ?_⟩
    · have hfirst := head?_children hplain
      rw [he] at hfirst
      obtain ⟨rest, hrest⟩ := List.head?_eq_some_iff.1 hfirst
      rw [namedChildren, hrest, List.filter_cons_of_pos htarget.1]
      rfl
    · rw [hg.child?_eq (by decide), he]
      simp [htarget.2, (isSign_iff.1 hcolon).2.1, htype.2]
  · cases h

theorem IsGrammatical.defaultParameter (hg : t.IsGrammatical) (hk : t.kind = .defaultParameter) :
    ∃ name eq value, t.elements = [name, eq, value] ∧ eq.isSign "=" = true ∧
      t.child? .name = some name ∧ t.child? .value = some value := by
  have h := hg.shape
  simp only [hasShape, hk] at h
  split at h
  · rename_i name eq value he
    simp only [Bool.and_eq_true] at h
    obtain ⟨⟨hname, heq⟩, hvalue⟩ := h
    rw [isPart_iff] at hname hvalue
    refine ⟨name, eq, value, he, heq, ?_, ?_⟩
    · rw [hg.child?_eq (by decide), he]
      simp [hname.2]
    · rw [hg.child?_eq (by decide), he]
      simp [hname.2, (isSign_iff.1 heq).2.1, hvalue.2]
  · cases h

theorem IsGrammatical.typedDefaultParameter (hg : t.IsGrammatical)
    (hk : t.kind = .typedDefaultParameter) :
    ∃ name colon type eq value, t.elements = [name, colon, type, eq, value] ∧
      colon.isSign ":" = true ∧ eq.isSign "=" = true ∧ t.child? .name = some name ∧
      t.child? .type = some type ∧ t.child? .value = some value := by
  have h := hg.shape
  simp only [hasShape, hk] at h
  split at h
  · rename_i name colon type eq value he
    simp only [Bool.and_eq_true, decide_eq_true_eq] at h
    obtain ⟨⟨⟨⟨⟨hname, hcolon⟩, htype⟩, -⟩, heq⟩, hvalue⟩ := h
    rw [isPart_iff] at hname htype hvalue
    have hcr := (isSign_iff.1 hcolon).2.1
    have her := (isSign_iff.1 heq).2.1
    refine ⟨name, colon, type, eq, value, he, hcolon, heq, ?_, ?_, ?_⟩
    · rw [hg.child?_eq (by decide), he]
      simp [hname.2]
    · rw [hg.child?_eq (by decide), he]
      simp [hname.2, hcr, htype.2]
    · rw [hg.child?_eq (by decide), he]
      simp [hname.2, hcr, htype.2, her, hvalue.2]
  · cases h

theorem shape_decorator (h : t.hasShape = true) (hk : t.kind = .decorator) :
    ∃ start subject, t.elements = [start, subject] ∧ start.isSign "@" = true ∧
      t.parts = [subject] := by
  simp only [hasShape, hk] at h
  split at h
  · rename_i start subject he
    rw [Bool.and_eq_true] at h
    refine ⟨start, subject, he, h.1, ?_⟩
    rw [parts_eq_elements, he, List.filter_cons_of_neg (by simp [isNamed_sign h.1]),
      List.filter_cons_of_pos h.2, List.filter_nil]
  · cases h

theorem IsGrammatical.call (hg : t.IsGrammatical) (hk : t.kind = .call) :
    ∃ function args, t.elements = [function, args] ∧ t.child? .function = some function ∧
      t.child? .arguments = some args := by
  have h := hg.shape
  simp only [hasShape, hk] at h
  split at h
  · rename_i function args he
    rw [Bool.and_eq_true, isPart_iff, isPart_iff] at h
    refine ⟨function, args, he, ?_, ?_⟩
    · rw [hg.child?_eq (by decide), he]
      simp [h.1.2]
    · rw [hg.child?_eq (by decide), he]
      simp [h.1.2, h.2.2]
  · cases h

end Reading

end DocOutline.Syntax.SyntaxTree
