import DocOutline.Outline
import DocOutline.Proofs.Note
import DocOutline.Proofs.Outline.Nesting
import DocOutline.Proofs.Syntax.Shape

/-!
# Scopes

Modules, classes and functions are scopes; all other nodes only stand between them. Erasing the
other nodes of a syntax tree leaves a forest of scopes (`scopesOf`), and one walk over it in
pre-order meets every scope together with the names of the definitions around it
(`Scope.placedAll`). The outline is what this walk sees: `visit_eq` says so for the visit pass and
any table with the right links, and `ofTree_eq_preorder` for the outline of a file.
-/

namespace DocOutline.Outline

open Syntax Signature

/-- Whether nodes of this kind are modules, classes or functions. -/
def opensScope (kind : Kind) : Bool := kind = .sourceFile || isDefinition kind

/-- A scope with the decorators above it and the scopes directly inside it. -/
inductive Scope where
  | node (decorators : List SyntaxTree) (tree : SyntaxTree) (inner : List Scope)

mutual

/-- The scopes of a node. A node that opens none is erased, and what is inside it takes its place.
-/
def scopesOf (decorators : List SyntaxTree) : SyntaxTree → List Scope
  | .node kind role text children =>
    let t := SyntaxTree.node kind role text children
    let inner := scopesOfAll (decoratorsBelow t) children
    if opensScope kind then [.node decorators t inner] else inner

/-- The scopes of nodes side by side. -/
def scopesOfAll (decorators : List SyntaxTree) : List SyntaxTree → List Scope
  | [] => []
  | t :: ts => (if t.isNamed then scopesOf decorators t else []) ++ scopesOfAll decorators ts

end

/-- A scope at its place in the file. -/
structure Placed where
  /-- The names of the definitions around the scope, the outermost first. -/
  enclosing : List Text
  decorators : List SyntaxTree
  tree : SyntaxTree

/-- The names around what is inside a node. -/
def namesInside (enclosing : List Text) (t : SyntaxTree) : List Text :=
  if isDefinition t.kind then enclosing ++ [nameOf t] else enclosing

namespace Scope

mutual

/-- A scope and all scopes inside it, in pre-order. -/
def placed (enclosing : List Text) : Scope → List Placed
  | .node decorators t inner =>
    ⟨enclosing, decorators, t⟩ :: placedAll (namesInside enclosing t) inner

/-- All scopes of a forest, in pre-order. -/
def placedAll (enclosing : List Text) : List Scope → List Placed
  | [] => []
  | s :: ss => placed enclosing s ++ placedAll enclosing ss

end

theorem placedAll_append (enclosing : List Text) (ss rest : List Scope) :
    placedAll enclosing (ss ++ rest) = placedAll enclosing ss ++ placedAll enclosing rest := by
  induction ss with
  | nil => rfl
  | cons s ss ih => rw [List.cons_append, placedAll, placedAll, ih, List.append_assoc]

end Scope

namespace Placed

/-- The level of a definition: one more than the number of definitions around it. -/
def level (s : Placed) : Nat := s.enclosing.length + 1

/-- The names of all definitions around a definition and its own, with dots between them. -/
def dottedName (s : Placed) : Text := Text.join "." (s.enclosing ++ [nameOf s.tree])

/-- The entry of a scope, if it has one. -/
def entry? (options : OutlineOptions) (s : Placed) : Noted (Option Entry) :=
  match s.tree.kind with
  | .sourceFile =>
    return if options.moduleDocstring then some (.ofModule (docstring? s.tree)) else none
  | .classDefinition => do
    let header ← classHeader s.tree
    return some (.make .classDef (nameOf s.tree ++ "()") header (definitionDocstring? s.tree) s.level)
  | .functionDefinition =>
    if !options.privateMembers && ("__" : Text).isPrefixOf (nameOf s.tree) then return none
    else do
      let lines ← Noted.collect decoratorLine s.decorators
      let header ← functionHeader s.tree s.dottedName lines
      let mark : Text := if "@property".toList ∈ lines then "@Property " else []
      return some (.make (.functionDef options.style) (mark ++ s.dottedName ++ "()") header
        (definitionDocstring? s.tree) s.level)
  | _ => return none

end Placed

/-- All scopes of a tree, in pre-order. -/
def placedIn (t : SyntaxTree) : List Placed := Scope.placedAll [] (scopesOf [] t)

/-- The entries of all scopes of a tree, in pre-order. -/
def preorder (options : OutlineOptions) (t : SyntaxTree) : Noted (List Entry) :=
  Noted.collectSome (Placed.entry? options) (placedIn t)

/-! ## What a node gives by itself -/

section OwnEntries

variable {options : OutlineOptions} {links : Links} {stop : Option NumberedTree}
  {owner t : NumberedTree} {enclosing : List Text} {decorators : List SyntaxTree}

theorem functionTitle_eq (qualified : Text) (lines : List Text) :
    functionTitle qualified lines =
      (if "@property".toList ∈ lines then "@Property ".toList else []) ++ qualified ++ "()" := by
  unfold functionTitle
  by_cases h : "@property".toList ∈ lines
  · rw [if_pos h, if_pos (List.contains_iff_mem.2 h)]
  · rw [if_neg h, if_neg (fun hc => h (List.contains_iff_mem.1 hc))]
    rfl

/-- A definition that the table has at the right place gives the entry of its scope. -/
theorem ownEntries_definition (hd : isDefinition t.kind = true)
    (hlink : links.link? t = some ⟨enclosing.length + 1, some owner⟩)
    (hends : links.EndsAt stop owner enclosing) (hle : enclosing.length < links.length) :
    ownEntries options links decorators t =
      some (Noted.collectSome (Placed.entry? options) [⟨enclosing, decorators, t.tree⟩]) := by
  have hlevel : links.levelOf t = enclosing.length + 1 := Links.levelOf_of_link? hlink
  have hkind : t.kind = .classDefinition ∨ t.kind = .functionDefinition := by
    simpa [isDefinition] using hd
  unfold ownEntries
  rw [Noted.collectSome_singleton]
  unfold Placed.entry?
  rcases hkind with hk | hk
  · simp only [NumberedTree.kind_tree, hk, hlevel]
    simp only [classEntry, Placed.level, bind_assoc, pure_bind, map_bind, map_pure]
    rfl
  · simp only [NumberedTree.kind_tree, hk, hlevel, hends.qualifiedName? hlink hle.le]
    unfold isHidden
    split
    · rfl
    · simp only [functionEntry, functionTitle_eq, Placed.level, Placed.dottedName, bind_assoc,
        pure_bind, map_bind, map_pure]
      rfl

theorem ownEntries_file (hk : t.kind = .sourceFile) :
    ownEntries options links decorators t =
      some (Noted.collectSome (Placed.entry? options) [⟨enclosing, decorators, t.tree⟩]) := by
  unfold ownEntries
  rw [Noted.collectSome_singleton]
  unfold Placed.entry?
  simp only [NumberedTree.kind_tree, hk]
  cases options.moduleDocstring <;> rfl

theorem ownEntries_other (hk : opensScope t.kind = false) :
    ownEntries options links decorators t = some (pure []) := by
  unfold ownEntries
  cases hc : t.kind <;> first | rfl | (rw [hc] at hk; exact absurd hk (by decide))

end OwnEntries

/-! ## What a scope gives -/

section ScopeEntries

variable (options : OutlineOptions) {s : Placed}

theorem value_entry?_class (hk : s.tree.kind = .classDefinition) :
    (s.entry? options).value = some (.make .classDef (nameOf s.tree ++ "()") (classHeader s.tree).value
      (definitionDocstring? s.tree) s.level) := by
  unfold Placed.entry?
  simp only [hk, Noted.value_bind, Noted.value_pure]

theorem value_entry?_function (hk : s.tree.kind = .functionDefinition) :
    (s.entry? options).value = if isHidden options s.tree then none else
      some (.make (.functionDef options.style)
        (functionTitle s.dottedName (s.decorators.map fun d => (decoratorLine d).value))
        (functionHeader s.tree s.dottedName (s.decorators.map fun d => (decoratorLine d).value)).value
        (definitionDocstring? s.tree) s.level) := by
  unfold Placed.entry? isHidden
  simp only [hk]
  split
  · rfl
  · simp only [functionTitle_eq, Noted.value_bind, Noted.value_pure, Noted.value_collect]

theorem value_entry?_file (hk : s.tree.kind = .sourceFile) :
    (s.entry? options).value =
      if options.moduleDocstring then some (.ofModule (docstring? s.tree)) else none := by
  unfold Placed.entry?
  simp only [hk, Noted.value_pure]

theorem value_entry?_other (hk : opensScope s.tree.kind = false) :
    (s.entry? options).value = none := by
  unfold Placed.entry?
  cases hc : s.tree.kind <;> first | rfl | (rw [hc] at hk; exact absurd hk (by decide))

end ScopeEntries

/-! ## The visit pass walks over the scopes -/

section Visit

variable {options : OutlineOptions} {links : Links} {stop : Option NumberedTree}

theorem visit_of_parts {t : NumberedTree} {decorators : List SyntaxTree}
    {own inner : Noted (List Entry)} (hown : ownEntries options links decorators t = some own)
    (hinner : visitAll options links (decoratorsBelow t.tree) t.children = some inner) :
    visit options links decorators t = some (own.append inner) := by
  cases t with
  | node id kind role text children =>
    rw [visit]
    simp only [hown]
    change (visitAll _ _ _ children >>= fun inner => some (own.append inner)) = _
    change visitAll _ _ _ children = _ at hinner
    rw [hinner]
    rfl

/-- At a scope, the walk meets the scope itself and then what is inside it. -/
theorem placedAll_scopesOf_scope {t : SyntaxTree} (hs : opensScope t.kind = true)
    (enclosing : List Text) (decorators : List SyntaxTree) :
    Scope.placedAll enclosing (scopesOf decorators t) = ⟨enclosing, decorators, t⟩ ::
      Scope.placedAll (namesInside enclosing t) (scopesOfAll (decoratorsBelow t) t.children) := by
  cases t with
  | node kind role text children =>
    change opensScope kind = true at hs
    simp only [scopesOf, hs, if_true, Scope.placedAll, Scope.placed, List.append_nil]
    rfl

/-- At any other node, the walk meets what is inside it. -/
theorem placedAll_scopesOf_other {t : SyntaxTree} (hs : opensScope t.kind = false)
    (enclosing : List Text) (decorators : List SyntaxTree) :
    Scope.placedAll enclosing (scopesOf decorators t) =
      Scope.placedAll enclosing (scopesOfAll (decoratorsBelow t) t.children) := by
  cases t with
  | node kind role text children =>
    change opensScope kind = false at hs
    simp only [scopesOf, hs, Bool.false_eq_true, if_false]
    rfl

/-- The walk over nodes side by side is the walk over those that count, one after the other. -/
theorem placedAll_scopesOfAll (enclosing : List Text) (decorators ts : List SyntaxTree) :
    Scope.placedAll enclosing (scopesOfAll decorators ts) =
      (ts.filter SyntaxTree.isNamed).flatMap fun t =>
        Scope.placedAll enclosing (scopesOf decorators t) := by
  induction ts with
  | nil => rfl
  | cons t ts ih =>
    rw [scopesOfAll, Scope.placedAll_append, ih]
    cases hn : t.isNamed with
    | true => rw [if_pos rfl, List.filter_cons_of_pos hn, List.flatMap_cons]
    | false =>
      rw [if_neg Bool.false_ne_true, List.filter_cons_of_neg (by simp [hn])]
      rfl

/-- The visit of these nodes sees what the walk over their scopes sees, wherever the table has the
right links for them. -/
def Sees (options : OutlineOptions) (links : Links) (stop : Option NumberedTree)
    (decorators : List SyntaxTree) (ts : List NumberedTree) : Prop :=
  ∀ (owner : NumberedTree) (enclosing : List Text),
    links.Holds (expectedAll owner enclosing.length ts) → links.EndsAt stop owner enclosing →
    visitAll options links decorators ts = some (Noted.collectSome (Placed.entry? options)
      (Scope.placedAll enclosing (scopesOfAll decorators (ts.map NumberedTree.tree))))

/-- One step of the visit: a definition is the owner of what is inside it, and any other node leaves
it to the owner around itself. -/
theorem visit_eq_of_sees {t owner : NumberedTree} {enclosing : List Text}
    (decorators : List SyntaxTree)
    (hsees : Sees options links stop (decoratorsBelow t.tree) t.children)
    (hholds : links.Holds (expected owner enclosing.length t))
    (hends : links.EndsAt stop owner enclosing) :
    visit options links decorators t = some (Noted.collectSome (Placed.entry? options)
      (Scope.placedAll enclosing (scopesOf decorators t.tree))) := by
  by_cases hd : isDefinition t.kind = true
  · obtain ⟨hlink, hle, hinside⟩ := hholds.definition hd
    have hinner := hsees t (enclosing ++ [nameOf t.tree])
      (by rw [List.length_append]; exact hinside) (hends.definition hd hlink)
    have hscope : opensScope t.tree.kind = true := by
      rw [NumberedTree.kind_tree, opensScope, hd, Bool.or_true]
    have hnames : namesInside enclosing t.tree = enclosing ++ [nameOf t.tree] := by
      rw [namesInside, NumberedTree.kind_tree, if_pos hd]
    rw [visit_of_parts (ownEntries_definition hd hlink hends hle) hinner,
      ← Noted.collectSome_append, placedAll_scopesOf_scope hscope, hnames, NumberedTree.children_tree]
    rfl
  · rw [Bool.not_eq_true] at hd
    have hinner := hsees owner enclosing (hholds.transparent hd) hends
    -- A file opens a scope, but one without a name.
    by_cases hfile : t.kind = .sourceFile
    · have hscope : opensScope t.tree.kind = true := by
        rw [NumberedTree.kind_tree, hfile]
        rfl
      have hnames : namesInside enclosing t.tree = enclosing := by
        rw [namesInside, NumberedTree.kind_tree, hd]
        rfl
      rw [visit_of_parts (ownEntries_file hfile) hinner, ← Noted.collectSome_append,
        placedAll_scopesOf_scope hscope, hnames, NumberedTree.children_tree]
      rfl
    · have hscope : opensScope t.kind = false := by
        rw [opensScope, hd, Bool.or_false]
        exact decide_eq_false hfile
      have hscope' : opensScope t.tree.kind = false := by
        rw [NumberedTree.kind_tree, hscope]
      rw [visit_of_parts (ownEntries_other hscope) hinner, Noted.pure_nil_append,
        placedAll_scopesOf_other hscope', NumberedTree.children_tree]

mutual

theorem visit_eq : ∀ (t owner : NumberedTree) (enclosing : List Text)
    (decorators : List SyntaxTree),
    links.Holds (expected owner enclosing.length t) → links.EndsAt stop owner enclosing →
    visit options links decorators t = some (Noted.collectSome (Placed.entry? options)
      (Scope.placedAll enclosing (scopesOf decorators t.tree)))
  | .node _ _ _ _ children, _, _, decorators, hholds, hends =>
    visit_eq_of_sees decorators (sees_all children _) hholds hends

theorem sees_all : ∀ (ts : List NumberedTree) (decorators : List SyntaxTree),
    Sees options links stop decorators ts
  | [], _ => fun _ _ _ _ => rfl
  | t :: ts, decorators => by
    intro owner enclosing hholds hends
    have hrest := sees_all ts decorators owner enclosing hholds.tail hends
    rw [visitAll, hrest, List.map_cons, scopesOfAll, Scope.placedAll_append,
      Noted.collectSome_append, NumberedTree.isNamed_tree]
    by_cases hn : t.isNamed = true
    · rw [if_pos hn, if_pos hn, visit_eq t owner enclosing decorators (hholds.head hn) hends]
      rfl
    · rw [if_neg hn, if_neg hn]
      rfl

end

end Visit

/-! ## Scopes in grammatical trees -/

/-- A scope in a grammatical tree, below decorators in grammatical trees. -/
def Placed.IsGrammatical (s : Placed) : Prop :=
  s.tree.IsGrammatical ∧ ∀ d ∈ s.decorators, d.IsGrammatical

theorem grammatical_decoratorsBelow {t : SyntaxTree} (ht : t.IsGrammatical) :
    ∀ d ∈ decoratorsBelow t, d.IsGrammatical := by
  intro d hd
  unfold decoratorsBelow at hd
  split at hd
  · exact ht.child (SyntaxTree.mem_children_of_mem_namedChildren (List.mem_filter.1 hd).1)
  · cases hd

theorem grammatical_placedAll (t : SyntaxTree) :
    ∀ (enclosing : List Text) (decorators : List SyntaxTree), t.IsGrammatical →
      (∀ d ∈ decorators, d.IsGrammatical) →
      ∀ s ∈ Scope.placedAll enclosing (scopesOf decorators t), s.IsGrammatical := by
  induction t using SyntaxTree.below_induction with
  | step t ih =>
    intro enclosing decorators ht hd s hs
    have hinner : ∀ names, ∀ s ∈ Scope.placedAll names
        (scopesOfAll (decoratorsBelow t) t.children), s.IsGrammatical := by
      intro names s hs
      rw [placedAll_scopesOfAll] at hs
      obtain ⟨c, hc, hs⟩ := List.mem_flatMap.1 hs
      have hc' : c ∈ t.children := (List.mem_filter.1 hc).1
      exact ih c hc' c c.self_mem_nodes names _ (ht.child hc') (grammatical_decoratorsBelow ht) s hs
    cases hscope : opensScope t.kind with
    | true =>
      rw [placedAll_scopesOf_scope hscope] at hs
      rcases List.mem_cons.1 hs with rfl | hs
      · exact ⟨ht, hd⟩
      · exact hinner _ s hs
    | false =>
      rw [placedAll_scopesOf_other hscope] at hs
      exact hinner _ s hs

/-- The scopes of a grammatical tree and their decorators are grammatical. -/
theorem grammatical_of_mem_placedIn {t : SyntaxTree} (ht : t.IsGrammatical) {s : Placed}
    (hs : s ∈ placedIn t) : s.IsGrammatical :=
  grammatical_placedAll t [] [] ht (fun _ hd => nomatch hd) s hs

/-! ## The outline of a file -/

theorem ofNumbered?_eq (options : OutlineOptions) {t : NumberedTree} (hn : t.ids.Nodup)
    (hroot : t.kind = .sourceFile) : ofNumbered? options t = some (preorder options t.tree) :=
  visit_eq t t [] [] (linksOf_holds_file hn hroot) (.file hroot)

theorem ofTree_eq_preorder (options : OutlineOptions) {t : SyntaxTree}
    (hroot : t.kind = .sourceFile) :
    ofTree options t = preorder options t := by
  have hkind : t.numbered.kind = .sourceFile := by
    rw [← NumberedTree.kind_tree, SyntaxTree.tree_numbered, hroot]
  unfold ofTree
  rw [ofNumbered?_eq options t.nodup_ids_numbered hkind, SyntaxTree.tree_numbered]
  rfl

/-- The two passes over a file whose nodes have distinct numbers come to an end and give what one
walk over its scopes gives. The table has a link for every definition, and the climb from any of
them stops at the file itself. -/
theorem two_passes_eq_preorder (options : OutlineOptions) (t : NumberedTree) (hn : t.ids.Nodup)
    (hroot : t.kind = .sourceFile) :
    ofNumbered? options t = some (preorder options t.tree) ∧
      ∀ d ∈ definitions t,
        (∃ link, (linksOf t).link? d = some link ∧ 0 < link.level) ∧
        ∃ names, (linksOf t).climbFrom d = some (names, some t) := by
  refine ⟨ofNumbered?_eq options hn hroot, ?_⟩
  intro d hd
  rw [definitions_eq, hroot, List.mem_append] at hd
  rcases hd with hd | hd
  · cases hd
  · obtain ⟨n, rfl, hplace⟩ := exists_place hn hd
    obtain ⟨owner, hlink⟩ := hplace.link
    have hclimb := hplace.climb
    rw [climbEnd, if_pos hroot] at hclimb
    exact ⟨⟨_, hlink, Nat.succ_pos _⟩, _, hclimb⟩

/-- A property below an `if`, and a class in a function that is left out. -/
theorem two_passes_nested_class :
    let source : Text :=
      "class A:\n if x:\n  @property\n  def f(s): pass\n  def __g():\n   class B: pass\n"
    let t := (parse source).numbered
    t.ids.Nodup ∧ t.kind = .sourceFile ∧
      (ofNumbered? ⟨false, false, .pre⟩ t).map (fun x => x.value.map fun e => (e.title, e.level)) =
        some [("A()".toList, 1), ("@Property A.f()".toList, 2), ("B()".toList, 3)] := by
  intro source t
  have hn : t.ids.Nodup := by decide +kernel
  have hroot : t.kind = .sourceFile := by decide +kernel
  refine ⟨hn, hroot, ?_⟩
  rw [(two_passes_eq_preorder ⟨false, false, .pre⟩ t hn hroot).1]
  decide +kernel

end DocOutline.Outline
