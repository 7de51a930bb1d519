import DocOutline.Outline
import DocOutline.Proofs.Signature.RoundTrip
import DocOutline.Proofs.Syntax.Header
import Mathlib.Data.List.Basic

/-!
# The round trip of headers

The header of a function whose slots all show supported expressions is written as it stands in the
source, up to white space, with the qualified name in place of the name.
-/

namespace DocOutline.Signature

open Syntax

/-- A slot that shows its whole expression. -/
structure Slot.IsFull (s : Slot) : Prop where
  accepted : s.IsAccepted
  supported : isSupported s.tree = true

instance (s : Slot) : Decidable s.IsFull :=
  decidable_of_iff (s.IsAccepted ∧ isSupported s.tree = true)
    ⟨fun h => ⟨h.1, h.2⟩, fun h => ⟨h.accepted, h.supported⟩⟩

theorem Slot.squeeze_marked {s : Slot} (hfull : s.IsFull) (hg : s.tree.IsGrammatical)
    (ht : s.tree.IsTidy) (mark : Text) :
    (marked mark s.fragment?).squeeze = mark.squeeze ++ s.tree.text.squeeze := by
  rw [fragment?_of_accepted hfull.accepted, ← (faithful s.tree hg ht hfull.supported).squeeze_eq]
  exact Text.squeeze_append mark _

theorem squeeze_markedChild {t c : SyntaxTree} {role : Role} {place : Place}
    (hc : t.child? role = some c) (hfull : Slot.IsFull ⟨place, c⟩) (hg : c.IsGrammatical)
    (ht : c.IsTidy) (mark : Text) :
    (markedChild t role place mark).value.squeeze = mark.squeeze ++ c.text.squeeze := by
  rw [value_markedChild, hc]
  exact Slot.squeeze_marked (s := ⟨place, c⟩) hfull hg ht mark

theorem mem_childSlot {t c : SyntaxTree} {role : Role} {place : Place}
    (hc : t.child? role = some c) :
    ⟨place, c⟩ ∈ childSlot t role place := by
  rw [childSlot, hc]
  exact List.mem_singleton_self _

/-! ## Parameters -/

section Parameters

variable {p : SyntaxTree} (hg : p.IsGrammatical) (ht : p.IsTidy)
  (hfull : ∀ s ∈ parameterSlots p, s.IsFull)

include hg ht hfull

theorem squeeze_typedParameter (hk : p.kind = .typedParameter) :
    (parameterText p).squeeze = p.text.squeeze := by
  obtain ⟨target, colon, type, he, hcolon, htarget, htype⟩ := hg.typedParameter hk
  have htext := ht.text_eq (by simp [he])
  have hslot := hfull _ (by simpa only [parameterSlots, hk] using mem_childSlot htype)
  have hmem := SyntaxTree.mem_children_of_child? htype
  have htype' := squeeze_markedChild htype hslot (hg.child hmem) (ht.child hmem) ": "
  have hmark : Text.squeeze ": " = Text.squeeze ":" := by decide
  simp only [parameterText, hk, parameterType, htarget, Option.map_some, Option.getD_some,
    Text.squeeze_append, htype', hmark]
  rw [htext, he]
  simp [SyntaxTree.squeeze_sign hcolon]

theorem squeeze_defaultParameter (hk : p.kind = .defaultParameter) :
    (parameterText p).squeeze = p.text.squeeze := by
  obtain ⟨name, eq, value, he, heq, hname, hvalue⟩ := hg.defaultParameter hk
  have htext := ht.text_eq (by simp [he])
  have hslot := hfull _ (by simpa only [parameterSlots, hk] using mem_childSlot hvalue)
  have hmem := SyntaxTree.mem_children_of_child? hvalue
  have hvalue' := squeeze_markedChild hvalue hslot (hg.child hmem) (ht.child hmem) " = "
  have hmark : Text.squeeze " = " = Text.squeeze "=" := by decide
  simp only [parameterText, hk, parameterValue, nameOf, hname, Option.map_some, Option.getD_some,
    Text.squeeze_append, hvalue', hmark]
  rw [htext, he]
  simp [SyntaxTree.squeeze_sign heq]

theorem squeeze_typedDefaultParameter (hk : p.kind = .typedDefaultParameter) :
    (parameterText p).squeeze = p.text.squeeze := by
  obtain ⟨name, colon, type, eq, value, he, hcolon, heq, hname, htype, hvalue⟩ :=
    hg.typedDefaultParameter hk
  have htext := ht.text_eq (by simp [he])
  have hslots : parameterSlots p =
      childSlot p .type .parameterType ++ childSlot p .value .defaultValue := by
    simp only [parameterSlots, hk]
  rw [hslots] at hfull
  have htm := SyntaxTree.mem_children_of_child? htype
  have hvm := SyntaxTree.mem_children_of_child? hvalue
  have htype' := squeeze_markedChild htype
    (hfull _ (List.mem_append_left _ (mem_childSlot htype))) (hg.child htm) (ht.child htm) ": "
  have hvalue' := squeeze_markedChild hvalue
    (hfull _ (List.mem_append_right _ (mem_childSlot hvalue))) (hg.child hvm) (ht.child hvm) " = "
  have hmark : Text.squeeze ": " = Text.squeeze ":" := by decide
  have hmark' : Text.squeeze " = " = Text.squeeze "=" := by decide
  simp only [parameterText, hk, parameterType, parameterValue, nameOf, hname, Option.map_some,
    Option.getD_some, Text.squeeze_append, htype', hvalue', hmark, hmark']
  rw [htext, he]
  simp [SyntaxTree.squeeze_sign hcolon, SyntaxTree.squeeze_sign heq]

/-- A parameter is written as it stands in the source. -/
theorem squeeze_parameterText : (parameterText p).squeeze = p.text.squeeze := by
  by_cases htyped : p.kind = .typedParameter
  · exact squeeze_typedParameter hg ht hfull htyped
  by_cases hdefault : p.kind = .defaultParameter
  · exact squeeze_defaultParameter hg ht hfull hdefault
  by_cases hboth : p.kind = .typedDefaultParameter
  · exact squeeze_typedDefaultParameter hg ht hfull hboth
  have hshape := hg.shape
  by_cases hstar : p.kind = .keywordSeparator
  · have htext : p.text = "*".toList := by simpa only [SyntaxTree.hasShape, hstar,
      decide_eq_true_eq] using hshape
    simp only [parameterText, hstar, htext]
  by_cases hslash : p.kind = .positionalSeparator
  · have htext : p.text = "/".toList := by simpa only [SyntaxTree.hasShape, hslash,
      decide_eq_true_eq] using hshape
    simp only [parameterText, hslash, htext]
  · have htext : parameterText p = p.text := by
      unfold parameterText
      split <;> first | contradiction | rfl
    rw [htext]

end Parameters

/-- The parameters of a function are written as they stand in the source, in their brackets. -/
theorem squeeze_parameters {params : SyntaxTree} (hg : params.IsGrammatical) (ht : params.IsTidy)
    (hk : params.kind = .parameters)
    (hfull : ∀ p ∈ params.parts, ∀ s ∈ parameterSlots p, s.IsFull) :
    Text.squeeze "(" ++ (Text.join ", " (params.parts.map parameterText)).squeeze ++
      Text.squeeze ")" = params.text.squeeze := by
  have hshape : SyntaxTree.isBracketed "(" ")" SyntaxTree.isNamed params.elements = true := by
    simpa only [SyntaxTree.hasShape, hk] using hg.shape
  have hne : params.elements ≠ [] := fun h => by rw [h] at hshape; cases hshape
  have hbrackets := SyntaxTree.flatMap_bracketed (fun _ h => h) hshape ht.elements_noComma
  have hsep : Text.squeeze ", " = ",".toList := by decide
  have htexts : (params.parts.map parameterText).map Text.squeeze =
      params.parts.map (·.text.squeeze) := by
    rw [List.map_map]
    apply List.map_congr_left
    intro p hp
    have hmem := SyntaxTree.mem_children_of_mem_parts hp
    exact squeeze_parameterText (hg.child hmem) (ht.child hmem) (hfull p hp)
  rw [Text.squeeze_join, hsep, htexts, ht.text_eq hne, hbrackets, SyntaxTree.parts_eq_elements]

/-! ## Decorators -/

/-- Whether the arguments of a decorator that is a call are a list. -/
def callsWithList (d : SyntaxTree) : Bool :=
  (d.parts.head?.filter (·.kind = .call)).all fun e =>
    (e.child? .arguments).all (·.kind = .argumentList)

theorem squeeze_fragments {slots : List Slot} (hfull : ∀ s ∈ slots, s.IsFull)
    (hg : ∀ s ∈ slots, s.tree.IsGrammatical) (ht : ∀ s ∈ slots, s.tree.IsTidy) :
    (fragments slots).map Text.squeeze = slots.map (·.tree.text.squeeze) := by
  have hall : (slots.filter fun s => decide s.IsAccepted) = slots :=
    List.filter_eq_self.2 fun s hs => decide_eq_true (hfull s hs).accepted
  rw [fragments_eq, hall, List.map_map]
  apply List.map_congr_left
  intro s hs
  exact (faithful s.tree (hg s hs) (ht s hs) (hfull s hs).supported).squeeze_eq

section Decorators

variable {d : SyntaxTree}

theorem squeeze_decoratorName {e : SyntaxTree} (he : decoratorTarget? d = some e)
    (hfull : ∀ s ∈ decoratorSlots d, s.IsFull) (hg : e.IsGrammatical) (ht : e.IsTidy) :
    (decoratorName d).squeeze = e.text.squeeze := by
  have hslot : ⟨.decoratorArgument, e⟩ ∈ decoratorSlots d := by
    simp [decoratorSlots, targetSlots, he]
  have hname := Slot.squeeze_marked (hfull _ hslot) hg ht []
  rw [marked_nil, Text.squeeze_nil, List.nil_append] at hname
  rw [decoratorName, he]
  exact hname

/-- The arguments of a decorator are written as they stand in the source, in their brackets. -/
theorem squeeze_operands {args : SyntaxTree} (hops : decoratorOperands d = args.parts)
    (hk : args.kind = .argumentList) (hfull : ∀ s ∈ decoratorSlots d, s.IsFull)
    (hg : args.IsGrammatical) (ht : args.IsTidy) :
    Text.squeeze "(" ++ (Text.join ", " (fragments (operandSlots d))).squeeze ++
      Text.squeeze ")" = args.text.squeeze := by
  have hshape : SyntaxTree.isBracketed "(" ")" SyntaxTree.isNamed args.elements = true := by
    simpa only [SyntaxTree.hasShape, hk] using hg.shape
  have hne : args.elements ≠ [] := fun h => by rw [h] at hshape; cases hshape
  have hbrackets := SyntaxTree.flatMap_bracketed (fun _ h => h) hshape ht.elements_noComma
  have hsep : Text.squeeze ", " = ",".toList := by decide
  have hmem : ∀ s ∈ operandSlots d, s.tree ∈ args.children := by
    intro s hs
    obtain ⟨a, ha, rfl⟩ := List.mem_map.1 hs
    rw [hops] at ha
    exact SyntaxTree.mem_children_of_mem_parts ha
  have hslots := squeeze_fragments
    (fun s hs => hfull s (List.mem_append_right (targetSlots d) hs))
    (fun s hs => hg.child (hmem s hs)) (fun s hs => ht.child (hmem s hs))
  have htexts : (operandSlots d).map (·.tree.text.squeeze) = args.parts.map (·.text.squeeze) := by
    rw [operandSlots, hops, List.map_map]
    rfl
  rw [Text.squeeze_join, hsep, hslots, htexts, ht.text_eq hne, hbrackets,
    SyntaxTree.parts_eq_elements]

/-- A decorator is written as it stands in the source. -/
theorem squeeze_decoratorLine (hg : d.IsGrammatical) (ht : d.IsTidy) (hk : d.kind = .decorator)
    (hcalls : callsWithList d = true) (hfull : ∀ s ∈ decoratorSlots d, s.IsFull) :
    (decoratorLine d).value.squeeze = d.text.squeeze := by
  obtain ⟨start, subject, he, hstart, hparts⟩ := SyntaxTree.shape_decorator hg.shape hk
  have hmem : subject ∈ d.children := SyntaxTree.mem_children_of_mem_parts (by rw [hparts]; simp)
  have hgs := hg.child hmem
  have hts := ht.child hmem
  have hhead : d.parts.head? = some subject := by rw [hparts]; rfl
  have hbody : (decoratorName d).squeeze ++ (decoratorTail d).squeeze = subject.text.squeeze := by
    by_cases hcall : subject.kind = .call
    · obtain ⟨function, args, hes, hf, ha⟩ := hgs.call hcall
      have hfm := SyntaxTree.mem_children_of_child? hf
      have ham := SyntaxTree.mem_children_of_child? ha
      have hlist : args.kind = .argumentList := by
        simpa [callsWithList, hhead, hcall, ha] using hcalls
      have htarget : decoratorTarget? d = some function := by
        simp [decoratorTarget?, hhead, hcall, hf]
      have hops : decoratorOperands d = args.parts := by
        simp [decoratorOperands, hhead, hcall, ha, hlist]
      have htail : decoratorTail d = "(" ++ Text.join ", " (fragments (operandSlots d)) ++ ")" := by
        rw [decoratorTail, hhead]
        exact if_pos (decide_eq_true hcall)
      have htext := hts.text_eq (by simp [hes])
      rw [squeeze_decoratorName htarget hfull (hgs.child hfm) (hts.child hfm), htail,
        Text.squeeze_append, Text.squeeze_append,
        squeeze_operands hops hlist hfull (hgs.child ham) (hts.child ham), htext, hes]
      simp
    · have htarget : decoratorTarget? d = some subject := by
        simp [decoratorTarget?, hhead, hcall]
      rw [squeeze_decoratorName htarget hfull hgs hts]
      simp [decoratorTail, hhead, hcall]
  have htext := ht.text_eq (by simp [he])
  rw [value_decoratorLine, List.append_assoc, Text.squeeze_append, Text.squeeze_append, hbody,
    htext, he]
  simp [SyntaxTree.squeeze_sign hstart]

end Decorators

/-! ## Functions -/

/-- A function without comments, trailing commas and type parameters in its header, which shows all
its slots in full. -/
structure IsPlain (decorators : List SyntaxTree) (t : SyntaxTree) : Prop where
  kind_eq : t.kind = .functionDefinition
  grammatical : t.IsGrammatical
  decorators_kind : ∀ d ∈ decorators, d.kind = .decorator
  decorators_grammatical : ∀ d ∈ decorators, d.IsGrammatical
  tidy : ∀ c ∈ decorators ++ t.headerOf, c.IsTidy
  noTypes : ∀ c ∈ t.children, c.kind ≠ .typeParameter
  lists : ∀ d ∈ decorators, callsWithList d = true
  full : ∀ s ∈ slotsOf decorators t, s.IsFull

instance (decorators : List SyntaxTree) (t : SyntaxTree) : Decidable (IsPlain decorators t) :=
  decidable_of_iff (t.kind = .functionDefinition ∧ t.IsGrammatical ∧
      (∀ d ∈ decorators, d.kind = .decorator) ∧ (∀ d ∈ decorators, d.IsGrammatical) ∧
      (∀ c ∈ decorators ++ t.headerOf, c.IsTidy) ∧ (∀ c ∈ t.children, c.kind ≠ .typeParameter) ∧
      (∀ d ∈ decorators, callsWithList d = true) ∧ ∀ s ∈ slotsOf decorators t, s.IsFull)
    ⟨fun ⟨hk, hg, hdk, hdg, ht, hn, hl, hf⟩ => ⟨hk, hg, hdk, hdg, ht, hn, hl, hf⟩,
      fun ⟨hk, hg, hdk, hdg, ht, hn, hl, hf⟩ => ⟨hk, hg, hdk, hdg, ht, hn, hl, hf⟩⟩

/-- The source text of a node in a header, without white space and under another name. -/
def sourceText (qualified : Text) (c : SyntaxTree) : Text :=
  if c.role = .name then qualified.squeeze else c.text.squeeze

theorem flatMap_sourceText {qualified : Text} {cs : List SyntaxTree}
    (h : ∀ c ∈ cs, c.role ≠ .name) :
    cs.flatMap (sourceText qualified) = cs.flatMap (·.text.squeeze) := by
  apply List.flatMap_congr
  intro c hc
  exact if_neg (h c hc)

theorem flatMap_sourceText_header (f : SyntaxTree.FunctionParts) (qualified : Text) :
    f.header.flatMap (sourceText qualified) =
      (f.start ++ [f.keyword]).flatMap (·.text.squeeze) ++ qualified.squeeze ++
        f.params.text.squeeze ++ f.result.flatMap (·.text.squeeze) ++ Text.squeeze ":" := by
  have hstart : ∀ c ∈ f.start ++ [f.keyword], c.role ≠ .name := by
    intro c hc
    rcases List.mem_append.1 hc with hc | hc
    · simp [f.role_start c hc]
    · rw [List.mem_singleton.1 hc, (SyntaxTree.isSign_iff.1 f.keyword_sign).2.1]
      decide
  have hresult : ∀ c ∈ f.result, c.role ≠ .name :=
    f.forall_result (fun c hsign => by simp [(SyntaxTree.isSign_iff.1 hsign).2.1])
      (fun c hpart => by simp [(SyntaxTree.isPart_iff.1 hpart).2])
  have hname : sourceText qualified f.name = qualified.squeeze :=
    if_pos (SyntaxTree.isPart_iff.1 f.name_part).2
  have hparams : sourceText qualified f.params = f.params.text.squeeze :=
    if_neg (by simp [(SyntaxTree.isPart_iff.1 f.params_part).2])
  have hcolon : sourceText qualified f.colon = Text.squeeze ":" := by
    rw [← SyntaxTree.squeeze_sign f.colon_sign]
    exact if_neg (by simp [(SyntaxTree.isSign_iff.1 f.colon_sign).2.1])
  have hsplit : f.header =
      (f.start ++ [f.keyword]) ++ f.name :: f.params :: (f.result ++ [f.colon]) := by
    simp [SyntaxTree.FunctionParts.header]
  rw [hsplit, List.flatMap_append, flatMap_sourceText hstart, List.flatMap_cons, List.flatMap_cons,
    hname, hparams]
  generalize f.start ++ [f.keyword] = words
  rw [List.flatMap_append, flatMap_sourceText hresult, List.flatMap_singleton, hcolon]
  simp only [List.append_assoc]

section Functions

variable {decorators : List SyntaxTree} {t : SyntaxTree} {f : SyntaxTree.FunctionParts}
  (h : IsPlain decorators t) (he : t.elements = f.header ++ [f.body])

include h he

theorem headerOf_eq_header : t.headerOf = f.header := by
  -- Only the header is free of comments; the body behind it may have some.
  have hfree : ∀ c ∈ t.headerOf, c.isComment = false := fun c hc =>
    (h.tidy c (List.mem_append_right decorators hc)).noComment c c.self_mem_nodes
  rw [SyntaxTree.headerOf_eq hfree, he, f.upToColon_eq]

theorem squeeze_start :
    Text.squeeze (if isAsync t then "async def ".toList else "def ".toList) =
      (f.start ++ [f.keyword]).flatMap (·.text.squeeze) := by
  have hplain : t.startsPlainly = true := by
    have hshape := h.grammatical.shape
    simp only [SyntaxTree.hasShape, h.kind_eq, Bool.and_eq_true] at hshape
    exact hshape.1
  have hkeyword := (SyntaxTree.isSign_iff.1 f.keyword_sign).2.2
  have hasync := isAsync_eq t
  rw [SyntaxTree.head?_children hplain, he, SyntaxTree.FunctionParts.header] at hasync
  rcases f.start_eq with hstart | ⟨async, hstart, hsign⟩
  · have hno : isAsync t = false := by simpa [hstart, hkeyword] using hasync
    rw [hno, if_neg Bool.false_ne_true, hstart]
    simp only [List.nil_append, List.flatMap_cons, List.flatMap_nil, List.append_nil, hkeyword]
    decide
  · obtain ⟨hk, -, htext⟩ := SyntaxTree.isSign_iff.1 hsign
    have hyes : isAsync t = true := by simpa [hstart, hk, htext] using hasync
    rw [hyes, if_pos rfl, hstart]
    simp only [List.singleton_append, List.flatMap_cons, List.flatMap_nil, List.append_nil,
      hkeyword, htext]
    decide

theorem tidy_header {c : SyntaxTree} (hc : c ∈ f.header) : c.IsTidy :=
  h.tidy c (List.mem_append_right decorators (headerOf_eq_header h he ▸ hc))

theorem grammatical_header {c : SyntaxTree} (hc : c ∈ f.header) : c.IsGrammatical := by
  have hmem : c ∈ t.elements := by
    rw [he]
    exact List.mem_append_left _ hc
  exact h.grammatical.child (SyntaxTree.mem_children_of_mem_elements hmem)

theorem squeeze_returnPart : (returnPart t).value.squeeze = f.result.flatMap (·.text.squeeze) := by
  unfold returnPart
  rcases f.result_eq with hr | ⟨arrow, type, hr, harrow, htype⟩
  · rw [value_markedChild, f.child?_returnType_of_nil h.grammatical he hr, hr]
    rfl
  · have hchild := f.child?_returnType h.grammatical he hr harrow htype
    have hmem : type ∈ f.header := by simp [SyntaxTree.FunctionParts.header, hr]
    have hslot : ⟨.returnType, type⟩ ∈ slotsOf decorators t := by
      simp only [slotsOf, h.kind_eq]
      exact List.mem_append_right _ (mem_childSlot hchild)
    have harrow' : Text.squeeze " -> " = Text.squeeze "->" := by decide
    rw [squeeze_markedChild hchild (h.full _ hslot) (grammatical_header h he hmem)
      (tidy_header h he hmem), hr, harrow']
    simp [SyntaxTree.squeeze_sign harrow]

theorem squeeze_parameterList :
    Text.squeeze "(" ++ (Text.join ", " ((parametersOf t).map parameterText)).squeeze ++
      Text.squeeze ")" = f.params.text.squeeze := by
  have hmem : f.params ∈ f.header := by simp [SyntaxTree.FunctionParts.header]
  have hparams : parametersOf t = f.params.parts := by
    rw [parametersOf, f.child?_parameters h.grammatical he]
    simp
  rw [hparams]
  apply squeeze_parameters (grammatical_header h he hmem) (tidy_header h he hmem) f.params_kind
  intro p hp s hs
  apply h.full
  simp only [slotsOf, h.kind_eq, hparams]
  exact List.mem_append_left _ (List.mem_append_right _ (List.mem_flatMap.2 ⟨p, hp, hs⟩))

omit he in
theorem squeeze_decoratorLines :
    Text.squeeze ((decorators.map fun d => (decoratorLine d).value).flatMap (· ++ ['\n'])) =
      decorators.flatMap (·.text.squeeze) := by
  have hnewline : Text.squeeze ['\n'] = [] := by decide
  rw [Text.squeeze_flatMap, List.flatMap_map]
  apply List.flatMap_congr
  intro d hd
  have hslots : ∀ s ∈ decoratorSlots d, s.IsFull := by
    intro s hs
    apply h.full
    simp only [slotsOf, h.kind_eq]
    exact List.mem_append_left _ (List.mem_append_left _ (List.mem_flatMap.2 ⟨d, hd, hs⟩))
  rw [Text.squeeze_append, hnewline, List.append_nil]
  exact squeeze_decoratorLine (h.decorators_grammatical d hd)
    (h.tidy d (List.mem_append_left _ hd)) (h.decorators_kind d hd) (h.lists d hd) hslots

end Functions

end DocOutline.Signature
