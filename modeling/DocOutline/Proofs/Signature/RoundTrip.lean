import DocOutline.Proofs.Signature.Hollow
import DocOutline.Proofs.Syntax.Tidy

/-!
# The round trip of expressions

An expression that is built from the known forms only is written as it stands in the source, up to
white space.
-/

namespace DocOutline.Signature

open Syntax

/-- A minus sign before an operand of one of the right forms. -/
def isNegation (t : SyntaxTree) : Bool :=
  bareForm t = .negation && (t.child? .argument).all fun a => operandForms.contains (formOf a)

/-- Whether all parts of a node of this kind are expressions that show. -/
def showsParts : Kind → Bool
  | .typeHint | .attribute | .memberType | .subscript | .list => true
  | _ => false

mutual

/-- Whether an expression is built from the known forms only. -/
def isSupported : SyntaxTree → Bool
  | .node kind role text children =>
    let t := SyntaxTree.node kind role text children
    if kind = .genericType then supportedGeneric children
    else if kind = .unaryOperator then isNegation t && supportedAll children
    else if showsParts kind then supportedAll children
    else bareForm t = .name || bareForm t = .constant

/-- Whether this holds of all parts among these nodes. -/
def supportedAll : List SyntaxTree → Bool
  | [] => true
  | t :: ts => (!t.isNamed || isSupported t) && supportedAll ts

/-- Whether this holds of the head and of the arguments among the children of a generic type. -/
def supportedGeneric : List SyntaxTree → Bool
  | [] => true
  | .node kind role text children :: ts =>
    (if kind = .typeParameter then supportedAll children
      else !kind.isNamed || isSupported (.node kind role text children)) && supportedGeneric ts

end

section Supported

variable {t : SyntaxTree}

theorem supportedAll_iff : ∀ {ts : List SyntaxTree},
    supportedAll ts = true ↔ ∀ c ∈ ts, c.isNamed = true → isSupported c = true
  | [] => by simp [supportedAll]
  | t :: ts => by
    rw [supportedAll, Bool.and_eq_true, supportedAll_iff, List.forall_mem_cons]
    cases t.isNamed <;> simp

theorem supportedGeneric_arguments : ∀ {ts : List SyntaxTree}, supportedGeneric ts = true →
    ∀ args ∈ ts, args.kind = .typeParameter → supportedAll args.children = true
  | .node kind role text children :: ts, h, args, hargs, hk => by
    rw [supportedGeneric, Bool.and_eq_true] at h
    rcases List.mem_cons.1 hargs with rfl | hargs
    · have hkind : kind = .typeParameter := hk
      rw [if_pos hkind] at h
      exact h.1
    · exact supportedGeneric_arguments h.2 args hargs hk

theorem isSupported_eq (t : SyntaxTree) :
    isSupported t =
      if t.kind = .genericType then supportedGeneric t.children
      else if t.kind = .unaryOperator then isNegation t && supportedAll t.children
      else if showsParts t.kind then supportedAll t.children
      else bareForm t = .name || bareForm t = .constant := by
  cases t with
  | node kind role text children => rw [isSupported]; rfl

theorem supported_parts (h : isSupported t = true) (hk : showsParts t.kind = true) :
    ∀ c ∈ t.children, c.isNamed = true → isSupported c = true := by
  have hgeneric : t.kind ≠ .genericType := fun he => by rw [he] at hk; cases hk
  have hunary : t.kind ≠ .unaryOperator := fun he => by rw [he] at hk; cases hk
  rw [isSupported_eq, if_neg hgeneric, if_neg hunary, if_pos hk] at h
  exact supportedAll_iff.1 h

theorem supported_negation (h : isSupported t = true) (hk : t.kind = .unaryOperator) :
    isNegation t = true ∧ ∀ c ∈ t.children, c.isNamed = true → isSupported c = true := by
  have hgeneric : t.kind ≠ .genericType := fun he => by rw [he] at hk; cases hk
  rw [isSupported_eq, if_neg hgeneric, if_pos hk, Bool.and_eq_true] at h
  exact ⟨h.1, supportedAll_iff.1 h.2⟩

theorem supported_arguments (h : isSupported t = true) (hk : t.kind = .genericType)
    {args : SyntaxTree} (hargs : args ∈ t.children) (hkind : args.kind = .typeParameter) :
    ∀ c ∈ args.children, c.isNamed = true → isSupported c = true := by
  rw [isSupported_eq, if_pos hk] at h
  exact supportedAll_iff.1 (supportedGeneric_arguments h args hargs hkind)

theorem bareForm_ne_other (h : isSupported t = true) (hk : t.kind ≠ .typeHint) :
    bareForm t ≠ .other := by
  intro hf
  by_cases hu : t.kind = .unaryOperator
  · have hneg := (supported_negation h hu).1
    simp [isNegation, hf] at hneg
  · rw [isSupported_eq, if_neg hu] at h
    split at h
    · rename_i hgeneric
      simp [bareForm, hgeneric] at hf
    · split at h
      · rename_i hshows
        unfold showsParts at hshows
        split at hshows <;> simp_all [bareForm]
      · simp [hf] at h

end Supported

/-! ## What is written for supported expressions -/

/-- What is written for an expression is its text, up to white space. -/
structure Faithful (t : SyntaxTree) : Prop where
  squeeze_eq : (render t).value.squeeze = t.text.squeeze
  ne_nil : (render t).value ≠ []

theorem squeeze_withArguments (head : Text) {args : List Text} (h : ∀ a ∈ args, a ≠ []) :
    (withArguments head args).squeeze =
      head.squeeze ++ Text.squeeze "[" ++ Text.join "," (args.map Text.squeeze) ++
        Text.squeeze "]" := by
  have hne : nonEmpty args = args := by
    apply List.filter_eq_self.2
    intro a ha
    simpa using h a ha
  have hsep : Text.squeeze ", " = ",".toList := by decide
  unfold withArguments
  rw [hne, Text.squeeze_append, Text.squeeze_append, Text.squeeze_append, Text.squeeze_join, hsep]

section Faithful

variable {t : SyntaxTree}

theorem faithful_text (hg : t.IsGrammatical) (hk : t.kind ≠ .typeHint)
    (hf : bareForm t = .name ∨ bareForm t = .constant) : Faithful t := by
  have hvalue := value_of_text hk hf
  exact ⟨by rw [hvalue], by rw [hvalue]; exact text_ne_nil hg.shape hf⟩

theorem faithful_attribute (hg : t.IsGrammatical) (ht : t.IsTidy) (hs : isSupported t = true)
    (hk : t.kind = .attribute) (ih : ∀ c ∈ t.children, isSupported c = true → Faithful c) :
    Faithful t := by
  obtain ⟨object, dot, attr, he, hnamed, hdot, ho, ha⟩ := hg.attribute hk
  have hmem := SyntaxTree.mem_children_of_child? ho
  have hobject := ih object hmem (supported_parts hs (by rw [hk]; rfl) object hmem hnamed)
  have hvalue := value_attribute hk ho ha
  rw [if_neg (by simpa using hobject.ne_nil)] at hvalue
  have htext := ht.text_eq (by simp [he])
  rw [he] at htext
  refine ⟨?_, by rw [hvalue]; simp⟩
  rw [hvalue, Text.squeeze_append, Text.squeeze_append, hobject.squeeze_eq, htext]
  simp [SyntaxTree.squeeze_sign hdot]

theorem faithful_memberType (hg : t.IsGrammatical) (ht : t.IsTidy) (hs : isSupported t = true)
    (hk : t.kind = .memberType) (ih : ∀ c ∈ t.children, isSupported c = true → Faithful c) :
    Faithful t := by
  obtain ⟨type, dot, member, he, hparts, -, hdot, -⟩ := SyntaxTree.shape_memberType hg.shape hk
  have hpart : ∀ c ∈ t.parts, Faithful c := by
    intro c hc
    have hmem := SyntaxTree.mem_children_of_mem_parts hc
    rw [ht.parts_eq] at hc
    exact ih c hmem (supported_parts hs (by rw [hk]; rfl) c hmem (List.mem_filter.1 hc).2)
  have htype := hpart type (by rw [hparts]; simp)
  have hmember := hpart member (by rw [hparts]; simp)
  have hvalue := value_memberType hk
  rw [← ht.parts_eq, hparts] at hvalue
  have htext := ht.text_eq (by simp [he])
  rw [he] at htext
  refine ⟨?_, render_memberType_ne_nil hg.shape hk⟩
  rw [hvalue, Text.squeeze_join, htext]
  simp [Text.join_cons_cons, htype.squeeze_eq, hmember.squeeze_eq, SyntaxTree.squeeze_sign hdot]

theorem squeeze_arguments {head : Text} {cs : List SyntaxTree} (h : ∀ c ∈ cs, Faithful c) :
    (withArguments head (cs.map fun c => (render c).value)).squeeze =
      head.squeeze ++ Text.squeeze "[" ++ Text.join "," (cs.map (·.text.squeeze)) ++
        Text.squeeze "]" := by
  have hmap : (cs.map fun c => (render c).value).map Text.squeeze = cs.map (·.text.squeeze) := by
    rw [List.map_map]
    exact List.map_congr_left fun c hc => (h c hc).squeeze_eq
  rw [squeeze_withArguments, hmap]
  intro a ha
  obtain ⟨c, hc, rfl⟩ := List.mem_map.1 ha
  exact (h c hc).ne_nil

theorem faithful_list (hg : t.IsGrammatical) (ht : t.IsTidy) (hs : isSupported t = true)
    (hk : t.kind = .list) (ih : ∀ c ∈ t.children, isSupported c = true → Faithful c) :
    Faithful t := by
  have hshape : SyntaxTree.isBracketed "[" "]" SyntaxTree.isNamed t.elements = true := by
    simpa only [SyntaxTree.hasShape, hk] using hg.shape
  have hparts : ∀ c ∈ t.parts, Faithful c := by
    intro c hc
    have hmem := SyntaxTree.mem_children_of_mem_parts hc
    rw [ht.parts_eq] at hc
    exact ih c hmem (supported_parts hs (by rw [hk]; rfl) c hmem (List.mem_filter.1 hc).2)
  have hbrackets := SyntaxTree.flatMap_bracketed (fun _ h => h) hshape ht.elements_noComma
  have hne : t.elements ≠ [] := fun h => by rw [h] at hshape; cases hshape
  refine ⟨?_, by rw [value_list hk]; exact withArguments_ne_nil _ _⟩
  rw [value_list hk, squeeze_arguments hparts, ht.text_eq hne, hbrackets,
    SyntaxTree.parts_eq_elements]
  rfl

/-- The subscripts are the named nodes behind the value. -/
theorem subscripts_eq (ht : t.IsTidy) {value : SyntaxTree} {rest : List SyntaxTree}
    (he : t.elements = value :: rest) (hpart : value.isPart .value = true)
    (hrest : SyntaxTree.isBracketed "[" "]" (SyntaxTree.isPart .subscript) rest = true) :
    t.children.filter (·.role = .subscript) = rest.filter SyntaxTree.isNamed := by
  rw [← ht.elements_eq, he, List.filter_cons_of_neg (by simp [(SyntaxTree.isPart_iff.1 hpart).2])]
  apply List.filter_congr
  intro c hc
  rcases SyntaxTree.mem_bracketed hrest c hc with hitem | ⟨w, hsign⟩
  · simp [SyntaxTree.isPart_iff.1 hitem]
  · simp [SyntaxTree.isNamed_sign hsign, (SyntaxTree.isSign_iff.1 hsign).2.1]

theorem faithful_subscript (hg : t.IsGrammatical) (ht : t.IsTidy) (hs : isSupported t = true)
    (hk : t.kind = .subscript) (ih : ∀ c ∈ t.children, isSupported c = true → Faithful c) :
    Faithful t := by
  obtain ⟨value, rest, he, hpart, hv, hrest⟩ := hg.subscript hk
  have hshows : showsParts t.kind = true := by rw [hk]; rfl
  have hmem := SyntaxTree.mem_children_of_child? hv
  have hvalue := ih value hmem
    (supported_parts hs hshows value hmem (SyntaxTree.isPart_iff.1 hpart).1)
  have hsubs := subscripts_eq ht he hpart hrest
  have hargs : ∀ c ∈ rest.filter SyntaxTree.isNamed, Faithful c := by
    intro c hc
    have hn := (List.mem_filter.1 hc).2
    rw [← hsubs] at hc
    have hmem := (List.mem_filter.1 hc).1
    exact ih c hmem (supported_parts hs hshows c hmem hn)
  have hcomma := ht.elements_noComma
  rw [he] at hcomma
  have hbrackets := SyntaxTree.flatMap_bracketed (fun _ h => (SyntaxTree.isPart_iff.1 h).1) hrest
    (SyntaxTree.endsWithComma_tail hcomma)
  have htext := ht.text_eq (by simp [he])
  rw [he, List.flatMap_cons, hbrackets] at htext
  refine ⟨?_, by rw [value_subscript hk hv]; exact withArguments_ne_nil _ _⟩
  rw [value_subscript hk hv, hsubs, squeeze_arguments hargs, hvalue.squeeze_eq, htext]
  simp only [List.append_assoc]

theorem faithful_genericType (hg : t.IsGrammatical) (ht : t.IsTidy) (hs : isSupported t = true)
    (hk : t.kind = .genericType)
    (ih : ∀ c ∈ t.children, ∀ n ∈ c.nodes, isSupported n = true → Faithful n) : Faithful t := by
  obtain ⟨head, args, he, hparts, hhead, hargs⟩ := SyntaxTree.shape_genericType hg.shape hk
  have hmem : args ∈ t.children := SyntaxTree.mem_children_of_mem_parts (by rw [hparts]; simp)
  have htidy := ht.child hmem
  have hshape : SyntaxTree.isBracketed "[" "]" (·.kind = .typeHint) args.elements = true := by
    simpa only [SyntaxTree.hasShape, hargs] using (hg.child hmem).shape
  have hfaithful : ∀ c ∈ args.namedChildren, Faithful c := by
    intro c hc
    have hc' := SyntaxTree.mem_children_of_mem_namedChildren hc
    exact ih args hmem c (SyntaxTree.mem_nodes_of_child hc' c.self_mem_nodes)
      (supported_arguments hs hk hmem hargs c hc' (List.mem_filter.1 hc).2)
  have hnamed : ∀ c : SyntaxTree, decide (c.kind = .typeHint) = true → c.isNamed = true := by
    intro c hc
    rw [SyntaxTree.isNamed, of_decide_eq_true hc]
    rfl
  have hbrackets := SyntaxTree.flatMap_bracketed hnamed hshape htidy.elements_noComma
  have hne : args.elements ≠ [] := fun h => by rw [h] at hshape; cases hshape
  have htext := ht.text_eq (by simp [he])
  rw [he] at htext
  have hhead' : (render head).value = head.text :=
    value_of_text (by simp [hhead]) (.inl (by simp [bareForm, hhead]))
  have hvalue : (render t).value =
      withArguments head.text (args.namedChildren.map fun c => (render c).value) := by
    rw [value_genericType hk, ← ht.parts_eq, hparts]
    simp [headIn, argumentsIn, hhead, hargs, hhead']
  refine ⟨?_, by rw [hvalue]; exact withArguments_ne_nil _ _⟩
  rw [hvalue, squeeze_arguments hfaithful, htext, List.flatMap_cons, List.flatMap_cons,
    List.flatMap_nil, List.append_nil, htidy.text_eq hne, hbrackets, ← htidy.parts_eq,
    SyntaxTree.parts_eq_elements]
  simp only [List.append_assoc]

theorem faithful_negation (hg : t.IsGrammatical) (ht : t.IsTidy) (hs : isSupported t = true)
    (hf : bareForm t = .negation) (ih : ∀ c ∈ t.children, isSupported c = true → Faithful c) :
    Faithful t := by
  have hk : t.kind = .unaryOperator := kind_of_negation hf
  obtain ⟨op, operand, he, hnamed, hop, ho⟩ := hg.unaryOperator hk
  obtain ⟨hneg, hparts⟩ := supported_negation hs hk
  have hmem := SyntaxTree.mem_children_of_child? ho
  have hoperand := ih operand hmem (hparts operand hmem hnamed)
  have hform : operandForms.contains (formOf operand) = true := by
    simpa [isNegation, hf, ho] using hneg
  have hminus : op.text = "-".toList := by
    simp only [bareForm, hk, hop] at hf
    split at hf
    · assumption
    · cases hf
  have hvalue := value_negation hf
  rw [ho, Option.filter_some, if_pos hform] at hvalue
  have htext := ht.text_eq (by simp [he])
  rw [he] at htext
  refine ⟨?_, by rw [hvalue]; simp⟩
  rw [hvalue, Text.squeeze_append, hoperand.squeeze_eq, htext]
  simp [hminus]

theorem faithful_typeHint (hg : t.IsGrammatical) (ht : t.IsTidy) (hs : isSupported t = true)
    (hk : t.kind = .typeHint) (ih : ∀ c ∈ t.children, isSupported c = true → Faithful c) :
    Faithful t := by
  obtain ⟨inner, hc, hn, -, hi⟩ := SyntaxTree.shape_typeHint hg.shape hk
  have hmem : inner ∈ t.children := by rw [hc]; exact List.mem_singleton_self inner
  have hnamed : inner.isNamed = true := by
    have hmem' : inner ∈ t.namedChildren := by rw [hn]; exact List.mem_singleton_self inner
    exact (List.mem_filter.1 hmem').2
  have hinner := ih inner hmem (supported_parts hs (by rw [hk]; rfl) inner hmem hnamed)
  have htext := ht.text_eq (by rw [ht.elements_eq, hc]; simp)
  rw [ht.elements_eq, hc] at htext
  rw [List.flatMap_cons, List.flatMap_nil, List.append_nil] at htext
  have hvalue := render_of_sole hk hn hi
  exact ⟨by rw [hvalue, hinner.squeeze_eq, htext], by rw [hvalue]; exact hinner.ne_nil⟩

end Faithful

/-- A supported expression is written as it stands in the source, up to white space. -/
theorem faithful (t : SyntaxTree) (hg : t.IsGrammatical) (ht : t.IsTidy)
    (hs : isSupported t = true) : Faithful t := by
  induction t using SyntaxTree.below_induction with
  | step t ih =>
    have ihNode : ∀ c ∈ t.children, ∀ n ∈ c.nodes, isSupported n = true → Faithful n :=
      fun c hc n hn => ih c hc n hn ((hg.child hc).node hn) ((ht.child hc).node hn)
    have ihChild : ∀ c ∈ t.children, isSupported c = true → Faithful c :=
      fun c hc => ihNode c hc c c.self_mem_nodes
    by_cases hk : t.kind = .typeHint
    · exact faithful_typeHint hg ht hs hk ihChild
    · cases formed t with
      | text hf => exact faithful_text hg hk hf
      | dotted ha => exact faithful_attribute hg ht hs ha ihChild
      | memberType hm => exact faithful_memberType hg ht hs hm ihChild
      | subscript hb => exact faithful_subscript hg ht hs hb ihChild
      | genericType hb => exact faithful_genericType hg ht hs hb ihNode
      | list hl => exact faithful_list hg ht hs hl ihChild
      | negation hf => exact faithful_negation hg ht hs hf ihChild
      | other hf => exact absurd hf (bareForm_ne_other hs hk)

end DocOutline.Signature
