import DocOutline.Proofs.Syntax.Shape
import DocOutline.Proofs.Text

/-!
# Tidy trees

A tidy tree has no comments and no trailing commas, and the text of each of its nodes is that of
the children with only white space between. What brackets and their items cover is then known up
to white space.
-/

namespace DocOutline.Syntax.SyntaxTree

/-- Whether these nodes end with a comma and a closing bracket. -/
def endsWithComma : List SyntaxTree → Bool
  | [] => false
  | [_] => false
  | [comma, close] => comma.isSign "," && close.kind = .token
  | _ :: c :: d :: rest => endsWithComma (c :: d :: rest)

/-- The text of a node is that of its children, with only white space between. -/
def IsSpelledOut (t : SyntaxTree) : Prop :=
  t.children = [] ∨ t.text.squeeze = t.children.flatMap (·.text.squeeze)

instance (t : SyntaxTree) : Decidable t.IsSpelledOut :=
  decidable_of_iff (t.children.isEmpty = true ∨ t.text.squeeze = t.children.flatMap (·.text.squeeze))
    (by rw [IsSpelledOut, List.isEmpty_iff])

structure IsTidy (t : SyntaxTree) : Prop where
  noComment : ∀ n ∈ t.nodes, n.isComment = false
  noComma : ∀ n ∈ t.nodes, endsWithComma n.children = false
  spelledOut : ∀ n ∈ t.nodes, n.IsSpelledOut

instance (t : SyntaxTree) : Decidable t.IsTidy :=
  decidable_of_iff ((∀ n ∈ t.nodes, n.isComment = false) ∧
      (∀ n ∈ t.nodes, endsWithComma n.children = false) ∧ ∀ n ∈ t.nodes, n.IsSpelledOut)
    ⟨fun h => ⟨h.1, h.2.1, h.2.2⟩, fun h => ⟨h.noComment, h.noComma, h.spelledOut⟩⟩

namespace IsTidy

variable {t : SyntaxTree}

theorem node {n : SyntaxTree} (h : t.IsTidy) (hn : n ∈ t.nodes) : n.IsTidy where
  noComment m hm := h.noComment m (mem_nodes_trans hn hm)
  noComma m hm := h.noComma m (mem_nodes_trans hn hm)
  spelledOut m hm := h.spelledOut m (mem_nodes_trans hn hm)

theorem child {c : SyntaxTree} (h : t.IsTidy) (hc : c ∈ t.children) : c.IsTidy :=
  h.node (mem_nodes_of_child hc c.self_mem_nodes)

theorem elements_eq (h : t.IsTidy) : t.elements = t.children := by
  apply List.filter_eq_self.2
  intro c hc
  rw [h.noComment c (mem_nodes_of_child hc c.self_mem_nodes)]
  rfl

theorem parts_eq (h : t.IsTidy) : t.parts = t.namedChildren := by
  rw [parts_eq_elements, h.elements_eq]
  rfl

theorem text_eq (h : t.IsTidy) (hne : t.elements ≠ []) :
    t.text.squeeze = t.elements.flatMap (·.text.squeeze) := by
  rw [h.elements_eq] at hne ⊢
  exact (h.spelledOut t t.self_mem_nodes).resolve_left hne

theorem elements_noComma (h : t.IsTidy) : endsWithComma t.elements = false := by
  rw [h.elements_eq]
  exact h.noComma t t.self_mem_nodes

end IsTidy

/-! ## Items in brackets -/

theorem endsWithComma_tail {c : SyntaxTree} {cs : List SyntaxTree}
    (h : endsWithComma (c :: cs) = false) : endsWithComma cs = false := by
  match cs, h with
  | [], _ => rfl
  | [_], _ => rfl
  | _ :: _ :: _, h => exact h

theorem squeeze_sign {w : String} {t : SyntaxTree} (h : t.isSign w = true) :
    t.text.squeeze = Text.squeeze w := by
  rw [(isSign_iff.1 h).2.2]

theorem mem_items {close : String} {item : SyntaxTree → Bool} : ∀ {es : List SyntaxTree},
    isItemsTo close item es = true → ∀ c ∈ es, item c = true ∨ ∃ w, c.isSign w = true
  | [last], h, c, hc => by
    rw [List.mem_singleton.1 hc]
    exact .inr ⟨close, h⟩
  | [first, last], h, c, hc => by
    simp only [isItemsTo, Bool.and_eq_true] at h
    rcases List.mem_cons.1 hc with rfl | hc
    · exact .inl h.1
    · rw [List.mem_singleton.1 hc]
      exact .inr ⟨close, h.2⟩
  | first :: comma :: third :: rest, h, c, hc => by
    simp only [isItemsTo, Bool.and_eq_true] at h
    obtain ⟨⟨hfirst, hcomma⟩, hrest⟩ := h
    rcases List.mem_cons.1 hc with rfl | hc
    · exact .inl hfirst
    · rcases List.mem_cons.1 hc with rfl | hc
      · exact .inr ⟨",", hcomma⟩
      · exact mem_items hrest c hc

theorem mem_bracketed {opening close : String} {item : SyntaxTree → Bool} {es : List SyntaxTree}
    (h : isBracketed opening close item es = true) :
    ∀ c ∈ es, item c = true ∨ ∃ w, c.isSign w = true := by
  match es, h with
  | start :: rest, h =>
    simp only [isBracketed, Bool.and_eq_true] at h
    intro c hc
    rcases List.mem_cons.1 hc with rfl | hc
    · exact .inr ⟨opening, h.1⟩
    · exact mem_items h.2 c hc

theorem flatMap_items {close : String} {item : SyntaxTree → Bool}
    (hitem : ∀ c, item c = true → c.isNamed = true) : ∀ es : List SyntaxTree,
    isItemsTo close item es = true → endsWithComma es = false →
      es.flatMap (·.text.squeeze) =
        Text.join "," ((es.filter isNamed).map (·.text.squeeze)) ++ Text.squeeze close
  | [], h, _ => by cases h
  | [last], h, _ => by
    rw [List.filter_cons_of_neg (by simp [isNamed_sign h])]
    simp [squeeze_sign h]
  | [first, last], h, _ => by
    rw [isItemsTo, Bool.and_eq_true] at h
    rw [List.filter_cons_of_pos (hitem first h.1),
      List.filter_cons_of_neg (by simp [isNamed_sign h.2])]
    simp [squeeze_sign h.2]
  | first :: comma :: third :: rest, h, hc => by
    simp only [isItemsTo, Bool.and_eq_true] at h
    obtain ⟨⟨hfirst, hcomma⟩, hrest⟩ := h
    have ih := flatMap_items hitem (third :: rest) hrest
      (endsWithComma_tail (endsWithComma_tail hc))
    -- Behind a comma comes an item, since a closing bracket would make the comma a trailing one.
    have hthird : third.isNamed = true := by
      match rest, hrest, hc with
      | [], hrest, hc =>
        have hclose : third.kind = .token := (isSign_iff.1 hrest).1
        simp [endsWithComma, hcomma, hclose] at hc
      | [_], hrest, _ =>
        simp only [isItemsTo, Bool.and_eq_true] at hrest
        exact hitem third hrest.1
      | _ :: _ :: _, hrest, _ =>
        simp only [isItemsTo, Bool.and_eq_true] at hrest
        exact hitem third hrest.1.1
    have hsep : Text.squeeze "," = ",".toList := by decide
    rw [List.filter_cons_of_pos hthird, List.map_cons] at ih
    rw [List.filter_cons_of_pos (hitem first hfirst),
      List.filter_cons_of_neg (by simp [isNamed_sign hcomma]), List.filter_cons_of_pos hthird,
      List.map_cons, List.map_cons, Text.join_cons_cons, List.flatMap_cons, List.flatMap_cons, ih,
      squeeze_sign hcomma, hsep]
    simp only [List.append_assoc]

theorem flatMap_bracketed {opening close : String} {item : SyntaxTree → Bool}
    (hitem : ∀ c, item c = true → c.isNamed = true) {es : List SyntaxTree}
    (h : isBracketed opening close item es = true) (hc : endsWithComma es = false) :
    es.flatMap (·.text.squeeze) = Text.squeeze opening ++
      Text.join "," ((es.filter isNamed).map (·.text.squeeze)) ++ Text.squeeze close := by
  match es, h, hc with
  | start :: rest, h, hc =>
    simp only [isBracketed, Bool.and_eq_true] at h
    rw [List.filter_cons_of_neg (by simp [isNamed_sign h.1]), List.flatMap_cons,
      flatMap_items hitem rest h.2 (endsWithComma_tail hc), squeeze_sign h.1, List.append_assoc]

end DocOutline.Syntax.SyntaxTree
