import DocOutline.Proofs.Note
import DocOutline.Proofs.Syntax.Shape
import DocOutline.Signature.Header

/-!
# The slots of a header

A header leaves room for expressions of the source: the types and the default values of parameters,
the type of the result, the bases of a class, and the names and arguments of decorators. A slot is
such an expression with its place in the signature.
-/

namespace DocOutline.Signature

open Syntax

/-- An expression and its place in a signature. -/
structure Slot where
  place : Place
  tree : SyntaxTree

namespace Slot

/-- Whether the place of a slot accepts the form of its expression. -/
def IsAccepted (s : Slot) : Prop := formOf s.tree ∈ s.place.forms

instance (s : Slot) : Decidable s.IsAccepted := inferInstanceAs (Decidable (_ ∈ _))

/-- What is written for a slot, or nothing if its expression is left out. -/
def fragment? (s : Slot) : Option Text := (renderAt s.place s.tree).value

theorem fragment?_of_accepted {s : Slot} (h : s.IsAccepted) :
    s.fragment? = some (render s.tree).value := by
  unfold fragment? renderAt
  rw [if_pos (List.contains_iff_mem.2 h)]
  rfl

theorem fragment?_of_not_accepted {s : Slot} (h : ¬ s.IsAccepted) : s.fragment? = none := by
  unfold fragment? renderAt
  rw [if_neg fun hc => h (List.contains_iff_mem.1 hc)]
  split
  · rfl
  · rfl

end Slot

/-- The child in a role, as a slot. -/
def childSlot (t : SyntaxTree) (role : Role) (place : Place) : List Slot :=
  (t.child? role).toList.map (⟨place, ·⟩)

def parameterSlots (p : SyntaxTree) : List Slot :=
  match p.kind with
  | .typedParameter => childSlot p .type .parameterType
  | .defaultParameter => childSlot p .value .defaultValue
  | .typedDefaultParameter =>
    childSlot p .type .parameterType ++ childSlot p .value .defaultValue
  | _ => []

def parametersOf (t : SyntaxTree) : List SyntaxTree :=
  (t.child? .parameters).toList.flatMap SyntaxTree.parts

/-- The bases of a class, as slots. -/
def baseSlots (t : SyntaxTree) : List Slot :=
  (t.child? .superclasses).toList.flatMap fun bases =>
    (bases.parts.filter (·.kind ≠ .keywordArgument)).map (⟨.baseClass, ·⟩)

/-- What a decorator names: its expression, or what its expression calls. -/
def decoratorTarget? (d : SyntaxTree) : Option SyntaxTree :=
  d.parts.head?.bind fun e => if e.kind = .call then e.child? .function else some e

/-- The arguments of a decorator that is a call. -/
def decoratorOperands (d : SyntaxTree) : List SyntaxTree :=
  d.parts.head?.toList.flatMap fun e =>
    if e.kind = .call then
      (e.child? .arguments).toList.flatMap fun args =>
        if args.kind = .argumentList then args.parts else []
    else []

/-- The slot of what a decorator names. -/
def targetSlots (d : SyntaxTree) : List Slot :=
  (decoratorTarget? d).toList.map (⟨.decoratorArgument, ·⟩)

/-- The slots of a decorator's arguments. -/
def operandSlots (d : SyntaxTree) : List Slot :=
  (decoratorOperands d).map (⟨.decoratorArgument, ·⟩)

def decoratorSlots (d : SyntaxTree) : List Slot := targetSlots d ++ operandSlots d

/-- The slots of a definition below its decorators. The header of a class does not show them. -/
def slotsOf (decorators : List SyntaxTree) (t : SyntaxTree) : List Slot :=
  match t.kind with
  | .classDefinition => baseSlots t
  | .functionDefinition =>
    decorators.flatMap decoratorSlots ++ (parametersOf t).flatMap parameterSlots ++
      childSlot t .returnType .returnType
  | _ => []

/-! ## Slots are parts of their definition -/

section Grammatical

variable {t : SyntaxTree} {s : Slot}

theorem grammatical_of_mem_childSlot {role : Role} {place : Place} (ht : t.IsGrammatical)
    (hs : s ∈ childSlot t role place) : s.tree.IsGrammatical := by
  obtain ⟨c, hc, rfl⟩ := List.mem_map.1 hs
  exact ht.child (SyntaxTree.mem_children_of_child? (Option.mem_toList.1 hc))

theorem grammatical_of_mem_parametersOf {p : SyntaxTree} (ht : t.IsGrammatical)
    (hp : p ∈ parametersOf t) : p.IsGrammatical := by
  obtain ⟨params, hparams, hp⟩ := List.mem_flatMap.1 hp
  have hparams' := ht.child (SyntaxTree.mem_children_of_child? (Option.mem_toList.1 hparams))
  exact hparams'.child (SyntaxTree.mem_children_of_mem_parts hp)

theorem grammatical_of_mem_parameterSlots {p : SyntaxTree} (hp : p.IsGrammatical)
    (hs : s ∈ parameterSlots p) : s.tree.IsGrammatical := by
  unfold parameterSlots at hs
  split at hs
  · exact grammatical_of_mem_childSlot hp hs
  · exact grammatical_of_mem_childSlot hp hs
  · rcases List.mem_append.1 hs with hs | hs
    · exact grammatical_of_mem_childSlot hp hs
    · exact grammatical_of_mem_childSlot hp hs
  · cases hs

theorem grammatical_of_mem_baseSlots (ht : t.IsGrammatical) (hs : s ∈ baseSlots t) :
    s.tree.IsGrammatical := by
  obtain ⟨bases, hbases, hs⟩ := List.mem_flatMap.1 hs
  obtain ⟨base, hbase, rfl⟩ := List.mem_map.1 hs
  have hbases' := ht.child (SyntaxTree.mem_children_of_child? (Option.mem_toList.1 hbases))
  exact hbases'.child (SyntaxTree.mem_children_of_mem_parts (List.mem_filter.1 hbase).1)

theorem grammatical_of_decoratorTarget? {d e : SyntaxTree} (hd : d.IsGrammatical)
    (he : decoratorTarget? d = some e) : e.IsGrammatical := by
  obtain ⟨subject, hsubject, he⟩ := Option.bind_eq_some_iff.1 he
  have hsubject' := hd.child (SyntaxTree.mem_children_of_mem_parts (List.mem_of_head? hsubject))
  split at he
  · exact hsubject'.child (SyntaxTree.mem_children_of_child? he)
  · cases he
    exact hsubject'

theorem grammatical_of_mem_decoratorOperands {d a : SyntaxTree} (hd : d.IsGrammatical)
    (ha : a ∈ decoratorOperands d) : a.IsGrammatical := by
  obtain ⟨subject, hsubject, ha⟩ := List.mem_flatMap.1 ha
  have hsubject' := hd.child
    (SyntaxTree.mem_children_of_mem_parts (List.mem_of_head? (Option.mem_toList.1 hsubject)))
  split at ha
  · obtain ⟨args, hargs, ha⟩ := List.mem_flatMap.1 ha
    have hargs' := hsubject'.child (SyntaxTree.mem_children_of_child? (Option.mem_toList.1 hargs))
    split at ha
    · exact hargs'.child (SyntaxTree.mem_children_of_mem_parts ha)
    · cases ha
  · cases ha

theorem grammatical_of_mem_decoratorSlots {d : SyntaxTree} (hd : d.IsGrammatical)
    (hs : s ∈ decoratorSlots d) : s.tree.IsGrammatical := by
  rcases List.mem_append.1 hs with hs | hs
  · obtain ⟨e, he, rfl⟩ := List.mem_map.1 hs
    exact grammatical_of_decoratorTarget? hd (Option.mem_toList.1 he)
  · obtain ⟨e, he, rfl⟩ := List.mem_map.1 hs
    exact grammatical_of_mem_decoratorOperands hd he

/-- The slots of a definition in a grammatical tree hold grammatical trees. -/
theorem grammatical_of_mem_slotsOf {decorators : List SyntaxTree} (ht : t.IsGrammatical)
    (hd : ∀ d ∈ decorators, d.IsGrammatical) (hs : s ∈ slotsOf decorators t) :
    s.tree.IsGrammatical := by
  unfold slotsOf at hs
  split at hs
  · exact grammatical_of_mem_baseSlots ht hs
  · rcases List.mem_append.1 hs with hs | hs
    · rcases List.mem_append.1 hs with hs | hs
      · obtain ⟨d, hmem, hs⟩ := List.mem_flatMap.1 hs
        exact grammatical_of_mem_decoratorSlots (hd d hmem) hs
      · obtain ⟨p, hp, hs⟩ := List.mem_flatMap.1 hs
        exact grammatical_of_mem_parameterSlots (grammatical_of_mem_parametersOf ht hp) hs
    · exact grammatical_of_mem_childSlot ht hs
  · cases hs

end Grammatical

/-! ## Headers from their fragments -/

def fragments (slots : List Slot) : List Text := slots.filterMap Slot.fragment?

theorem fragments_eq (slots : List Slot) :
    fragments slots =
      (slots.filter fun s => decide s.IsAccepted).map fun s => (render s.tree).value := by
  rw [fragments, ← List.filterMap_eq_map, List.filterMap_filter]
  congr 1
  funext s
  by_cases ha : s.IsAccepted
  · rw [Slot.fragment?_of_accepted ha, if_pos (decide_eq_true ha)]
    rfl
  · rw [Slot.fragment?_of_not_accepted ha, if_neg (by simpa using ha)]

theorem value_renderList (place : Place) (ts : List SyntaxTree) :
    (renderList place ts).value = Text.join ", " (fragments (ts.map (⟨place, ·⟩))) := by
  unfold renderList fragments
  rw [Noted.value_bind, Noted.value_collectSome, List.filterMap_map]
  rfl

theorem marked_nil (text : Option Text) : marked [] text = text.getD [] := by
  cases text with
  | none => rfl
  | some text => rfl

/-- What is written for a child is the fragment of its slot, behind its mark. -/
theorem value_markedChild (t : SyntaxTree) (role : Role) (place : Place) (mark : Text) :
    (markedChild t role place mark).value =
      marked mark ((t.child? role).bind fun c => Slot.fragment? ⟨place, c⟩) := by
  unfold markedChild
  cases t.child? role with
  | none => rfl
  | some c => rfl

/-- The bases that are written are the fragments of their slots. -/
theorem value_classHeader (t : SyntaxTree) :
    (classHeader t).value =
      "class " ++ nameOf t ++ "(" ++ Text.join ", " (fragments (baseSlots t)) ++ "):" := by
  have hbases : (baseList t).value = Text.join ", " (fragments (baseSlots t)) := by
    unfold baseList baseSlots
    cases t.child? .superclasses with
    | none => rfl
    | some bases =>
      rw [Option.toList_some, List.flatMap_cons, List.flatMap_nil, List.append_nil]
      exact value_renderList .baseClass _
  unfold classHeader
  rw [Noted.value_bind, hbases]
  rfl

/-- The name that stands behind the sign of a decorator. -/
def decoratorName (d : SyntaxTree) : Text :=
  ((decoratorTarget? d).bind fun e => Slot.fragment? ⟨.decoratorArgument, e⟩).getD []

/-- What stands behind the name of a decorator: arguments, if the decorator is a call. -/
def decoratorTail (d : SyntaxTree) : Text :=
  if d.parts.head?.any (·.kind = .call) then
    "(" ++ Text.join ", " (fragments (operandSlots d)) ++ ")"
  else []

theorem value_decoratorLine (d : SyntaxTree) :
    (decoratorLine d).value = "@" ++ decoratorName d ++ decoratorTail d := by
  have hbody : (decoratorBody d).value = decoratorName d ++ decoratorTail d := by
    unfold decoratorBody decoratorName decoratorTail operandSlots decoratorTarget? decoratorOperands
    cases d.parts.head? with
    | none => rfl
    | some e =>
      by_cases hc : e.kind = .call
      · have hargs : (decoratorArguments e).value = Text.join ", " (fragments
            (((e.child? .arguments).toList.flatMap fun args =>
              if args.kind = .argumentList then args.parts else []).map
                (⟨.decoratorArgument, ·⟩))) := by
          unfold decoratorArguments
          cases e.child? .arguments with
          | none => rfl
          | some args =>
            rw [Option.toList_some, List.flatMap_cons, List.flatMap_nil, List.append_nil]
            by_cases hk : args.kind = .argumentList
            · simp only [hk, if_true]
              exact value_renderList .decoratorArgument args.parts
            · simp only [hk, if_false]
              rfl
        simp only [hc, if_true, Noted.value_bind, Noted.value_pure, value_markedChild, marked_nil,
          hargs, Option.bind_some, Option.any_some, decide_true, Option.toList_some,
          List.flatMap_cons, List.flatMap_nil, List.append_nil, List.append_assoc]
      · simp only [hc, if_false, Noted.value_bind, Noted.value_pure, Option.bind_some,
          Option.any_some, decide_false, Bool.false_eq_true, List.append_nil]
        exact marked_nil _
  unfold decoratorLine
  rw [Noted.value_bind, hbody, List.append_assoc]
  rfl

def parameterText (p : SyntaxTree) : Text :=
  match p.kind with
  | .keywordSeparator => "*"
  | .positionalSeparator => "/"
  | .typedParameter =>
    ((p.namedChildren.head?).map SyntaxTree.text).getD [] ++ (parameterType p).value
  | .defaultParameter => nameOf p ++ (parameterValue p).value
  | .typedDefaultParameter => nameOf p ++ (parameterType p).value ++ (parameterValue p).value
  | _ => p.text

theorem value_parameter? (p : SyntaxTree) :
    (parameter? p).value = if p.isComment then none else some (parameterText p) := by
  unfold parameter? parameterText SyntaxTree.isComment
  cases p.kind <;> rfl

theorem isAsync_eq (t : SyntaxTree) :
    isAsync t = t.children.head?.any fun c => c.kind = .token && c.text = "async".toList := by
  unfold isAsync
  cases t.children with
  | nil => rfl
  | cons c cs => rfl

theorem value_functionHeader (t : SyntaxTree) (qualified : Text) (lines : List Text) :
    (functionHeader t qualified lines).value =
      lines.flatMap (· ++ ['\n']) ++ (if isAsync t then "async def ".toList else "def ".toList) ++
        qualified ++ "(" ++ Text.join ", " ((parametersOf t).map parameterText) ++ ")" ++
        (returnPart t).value ++ ":" := by
  have hparams : (parameterList t).value = Text.join ", " ((parametersOf t).map parameterText) := by
    unfold parameterList parametersOf
    cases t.child? .parameters with
    | none => rfl
    | some params =>
      rw [Option.toList_some, List.flatMap_cons, List.flatMap_nil, List.append_nil]
      have hsome : (Noted.collectSome parameter? params.namedChildren).value =
          params.parts.map parameterText := by
        rw [Noted.value_collectSome, SyntaxTree.parts, ← List.filterMap_eq_map,
          List.filterMap_filter]
        congr 1
        funext p
        rw [value_parameter?]
        cases p.isComment <;> rfl
      rw [← hsome]
      rfl
  unfold functionHeader
  simp only [Noted.value_bind, Noted.value_pure, hparams]

end DocOutline.Signature
