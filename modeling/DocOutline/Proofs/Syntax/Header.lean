import DocOutline.Proofs.Syntax.Tidy

/-!
# The header of a function in its syntax tree
-/

namespace DocOutline.Syntax.SyntaxTree

/-- Nodes up to the first colon among them. -/
def upToColon : List SyntaxTree → List SyntaxTree
  | [] => []
  | c :: cs => if c.isSign ":" then [c] else c :: upToColon cs

/-- The children of a function that make up its header: all up to the colon. -/
def headerOf (t : SyntaxTree) : List SyntaxTree := upToColon t.children

theorem filter_upToColon (cs : List SyntaxTree) :
    (upToColon cs).filter (!·.isComment) = upToColon (cs.filter (!·.isComment)) := by
  induction cs with
  | nil => rfl
  | cons c cs ih =>
    rw [upToColon]
    cases hsign : c.isSign ":" with
    | true =>
      have hc : c.isComment = false := by
        rw [isComment, (isSign_iff.1 hsign).1]
        rfl
      rw [if_pos rfl, List.filter_cons_of_pos (by simp [hc]), List.filter_nil,
        List.filter_cons_of_pos (by simp [hc]), upToColon, hsign, if_pos rfl]
    | false =>
      rw [if_neg Bool.false_ne_true]
      cases hc : c.isComment with
      | true =>
        rw [List.filter_cons_of_neg (by simp [hc]), List.filter_cons_of_neg (by simp [hc]), ih]
      | false =>
        rw [List.filter_cons_of_pos (by simp [hc]), List.filter_cons_of_pos (by simp [hc]), upToColon,
          hsign, if_neg Bool.false_ne_true, ih]

/-- A header without comments is a part of the elements. -/
theorem headerOf_eq {t : SyntaxTree} (h : ∀ c ∈ t.headerOf, c.isComment = false) :
    t.headerOf = upToColon t.elements := by
  unfold elements
  rw [← filter_upToColon]
  exact (List.filter_eq_self.2 fun c hc => by rw [h c hc]; rfl).symm

theorem upToColon_append {cs rest : List SyntaxTree} {colon : SyntaxTree}
    (hcs : ∀ c ∈ cs, c.isSign ":" = false) (hcolon : colon.isSign ":" = true) :
    upToColon (cs ++ colon :: rest) = cs ++ [colon] := by
  induction cs with
  | nil => rw [List.nil_append, upToColon, if_pos hcolon, List.nil_append]
  | cons c cs ih =>
    have hc := hcs c List.mem_cons_self
    rw [List.cons_append, upToColon, hc, if_neg Bool.false_ne_true,
      ih fun c' hc' => hcs c' (List.mem_cons_of_mem c hc'), List.cons_append]

/-! ## The parts of a function -/

/-- The elements of a function without type parameters, told apart. -/
structure FunctionParts where
  start : List SyntaxTree
  keyword : SyntaxTree
  name : SyntaxTree
  params : SyntaxTree
  result : List SyntaxTree
  colon : SyntaxTree
  body : SyntaxTree
  start_eq : start = [] ∨ ∃ async, start = [async] ∧ async.isSign "async" = true
  keyword_sign : keyword.isSign "def" = true
  name_part : name.isPart .name = true
  params_part : params.isPart .parameters = true
  params_kind : params.kind = .parameters
  result_eq : result = [] ∨
    ∃ arrow type, result = [arrow, type] ∧ arrow.isSign "->" = true ∧ type.isPart .returnType = true
  colon_sign : colon.isSign ":" = true
  body_part : body.isPart .body = true

/-- The header of a function, from its parts. -/
def FunctionParts.header (f : FunctionParts) : List SyntaxTree :=
  f.start ++ f.keyword :: f.name :: f.params :: (f.result ++ [f.colon])

theorem result_of_isHeaderEnd {es : List SyntaxTree} (h : isHeaderEnd es = true) :
    ∃ result colon body, es = result ++ [colon, body] ∧ colon.isSign ":" = true ∧
      body.isPart .body = true ∧ (result = [] ∨ ∃ arrow type, result = [arrow, type] ∧
        arrow.isSign "->" = true ∧ type.isPart .returnType = true) := by
  unfold isHeaderEnd at h
  split at h
  · rename_i colon body
    rw [Bool.and_eq_true] at h
    exact ⟨[], colon, body, rfl, h.1, h.2, .inl rfl⟩
  · rename_i arrow type colon body
    simp only [Bool.and_eq_true] at h
    obtain ⟨⟨⟨⟨harrow, htype⟩, -⟩, hcolon⟩, hbody⟩ := h
    exact ⟨[arrow, type], colon, body, rfl, hcolon, hbody, .inr ⟨arrow, type, rfl, harrow, htype⟩⟩
  · cases h

theorem functionParts_of_isFunction (start : List SyntaxTree) {es : List SyntaxTree}
    (h : isFunction es = true)
    (htypes : ∀ c ∈ es, c.kind ≠ .typeParameter)
    (hstart : start = [] ∨ ∃ async, start = [async] ∧ async.isSign "async" = true) :
    ∃ f : FunctionParts, start ++ es = f.header ++ [f.body] := by
  unfold isFunction at h
  split at h
  · rename_i keyword name rest
    simp only [Bool.and_eq_true] at h
    obtain ⟨⟨⟨hkeyword, hname⟩, -⟩, htail⟩ := h
    unfold isHeaderTail at htail
    split at htail
    · rename_i params next rest'
      have hparams : params.kind ≠ .typeParameter := htypes params (by simp)
      rw [if_neg hparams, Bool.and_eq_true, Bool.and_eq_true] at htail
      obtain ⟨⟨hpart, hkind⟩, hend⟩ := htail
      obtain ⟨result, colon, body, he, hcolon, hbody, hresult⟩ := result_of_isHeaderEnd hend
      refine ⟨⟨start, keyword, name, params, result, colon, body, hstart, hkeyword, hname, hpart,
        of_decide_eq_true hkind, hresult, hcolon, hbody⟩, ?_⟩
      simp [FunctionParts.header, he]
    · cases htail
  · cases h

theorem IsGrammatical.functionParts {t : SyntaxTree} (hg : t.IsGrammatical)
    (hk : t.kind = .functionDefinition) (htypes : ∀ c ∈ t.children, c.kind ≠ .typeParameter) :
    ∃ f : FunctionParts, t.elements = f.header ++ [f.body] := by
  have h := hg.shape
  simp only [hasShape, hk, Bool.and_eq_true] at h
  have htypes' : ∀ c ∈ t.elements, c.kind ≠ .typeParameter :=
    fun c hc => htypes c (mem_children_of_mem_elements hc)
  replace h := h.2
  split at h
  · rename_i first rest he
    rw [he] at htypes' ⊢
    split at h
    · rename_i hasync
      exact functionParts_of_isFunction [first] h
        (fun c hc => htypes' c (List.mem_cons_of_mem first hc)) (.inr ⟨first, rfl, hasync⟩)
    · exact functionParts_of_isFunction [] h htypes' (.inl rfl)
  · cases h

theorem isSign_of_isPart {t : SyntaxTree} {role : Role} (h : t.isPart role = true) (w : String) :
    t.isSign w = false := by
  cases hs : t.isSign w with
  | false => rfl
  | true =>
    rw [isPart_iff, isNamed_sign hs] at h
    cases h.1

theorem isSign_of_ne {t : SyntaxTree} {w v : String} (h : t.isSign w = true)
    (hne : w.toList ≠ v.toList) : t.isSign v = false := by
  cases hs : t.isSign v with
  | false => rfl
  | true => exact absurd ((isSign_iff.1 h).2.2.symm.trans (isSign_iff.1 hs).2.2) hne

namespace FunctionParts

variable (f : FunctionParts)

theorem forall_start {P : SyntaxTree → Prop} (hasync : ∀ c, c.isSign "async" = true → P c) :
    ∀ c ∈ f.start, P c := by
  intro c hc
  rcases f.start_eq with h | ⟨async, h, hsign⟩
  · rw [h] at hc
    cases hc
  · rw [h, List.mem_singleton] at hc
    exact hasync c (hc ▸ hsign)

theorem forall_result {P : SyntaxTree → Prop} (harrow : ∀ c, c.isSign "->" = true → P c)
    (htype : ∀ c, c.isPart .returnType = true → P c) : ∀ c ∈ f.result, P c := by
  intro c hc
  rcases f.result_eq with h | ⟨arrow, type, h, hsign, hpart⟩
  · rw [h] at hc
    cases hc
  · rw [h, List.mem_cons, List.mem_singleton] at hc
    rcases hc with hc | hc
    · exact harrow c (hc ▸ hsign)
    · exact htype c (hc ▸ hpart)

theorem role_start : ∀ c ∈ f.start, c.role = .plain :=
  f.forall_start fun _ hsign => (isSign_iff.1 hsign).2.1

theorem upToColon_eq : upToColon (f.header ++ [f.body]) = f.header := by
  have hsplit : f.header =
      (f.start ++ f.keyword :: f.name :: f.params :: f.result) ++ [f.colon] := by
    simp [header]
  have hfree : ∀ c ∈ f.start ++ f.keyword :: f.name :: f.params :: f.result,
      c.isSign ":" = false := by
    intro c hc
    rcases List.mem_append.1 hc with hc | hc
    · exact f.forall_start (fun _ hsign => isSign_of_ne hsign (by decide)) c hc
    · simp only [List.mem_cons] at hc
      rcases hc with rfl | rfl | rfl | hc
      · exact isSign_of_ne f.keyword_sign (by decide)
      · exact isSign_of_isPart f.name_part ":"
      · exact isSign_of_isPart f.params_part ":"
      · exact f.forall_result (fun _ hsign => isSign_of_ne hsign (by decide))
          (fun _ hpart => isSign_of_isPart hpart ":") c hc
  rw [hsplit, List.append_assoc]
  exact upToColon_append hfree f.colon_sign

section Children

variable {f} {t : SyntaxTree} (hg : t.IsGrammatical) (he : t.elements = f.header ++ [f.body])

include hg he

/-- What plays a role stands behind the first words. -/
theorem child?_eq {role : Role} (hr : role ≠ .plain) :
    t.child? role = (f.name :: f.params :: (f.result ++ [f.colon] ++ [f.body])).find?
      (·.role = role) := by
  have hstart : f.start.find? (·.role = role) = none := by
    rw [List.find?_eq_none]
    intro c hc
    simp [f.role_start c hc, hr.symm]
  have hkeyword : f.keyword.role ≠ role := by
    rw [(isSign_iff.1 f.keyword_sign).2.1]
    exact hr.symm
  rw [hg.child?_eq hr, he, header, List.append_assoc, List.find?_append, hstart]
  simp [hkeyword]

theorem child?_parameters : t.child? .parameters = some f.params := by
  rw [child?_eq hg he (by decide)]
  simp [(isPart_iff.1 f.name_part).2, (isPart_iff.1 f.params_part).2]

theorem child?_returnType_of_nil (hr : f.result = []) : t.child? .returnType = none := by
  rw [child?_eq hg he (by decide), hr]
  simp [(isPart_iff.1 f.name_part).2, (isPart_iff.1 f.params_part).2,
    (isSign_iff.1 f.colon_sign).2.1, (isPart_iff.1 f.body_part).2]

theorem child?_returnType {arrow type : SyntaxTree} (hr : f.result = [arrow, type])
    (harrow : arrow.isSign "->" = true) (htype : type.isPart .returnType = true) :
    t.child? .returnType = some type := by
  rw [child?_eq hg he (by decide), hr]
  simp [(isPart_iff.1 f.name_part).2, (isPart_iff.1 f.params_part).2,
    (isSign_iff.1 harrow).2.1, (isPart_iff.1 htype).2]

end Children

end FunctionParts

end DocOutline.Syntax.SyntaxTree
