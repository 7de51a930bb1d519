import DocOutline.Markup.Escape

/-!
# Reading entities back

An escaped text is read back in one pass (`unescape`), so that no two texts are escaped alike. What
can come out of `escape` is known, too: the texts in which every `&` starts an entity and no other
special character occurs (`IsEscaped`). On these, `escape` undoes `unescape`.
-/

namespace DocOutline.Markup

/-- The special characters and their entities. -/
def entities : List (Char × Text) :=
  [('&', "&amp;"), ('<', "&lt;"), ('>', "&gt;"), ('"', "&quot;"), ('\'', "&#x27;")]

/-- One pass over a text, from left to right, in which every entity is replaced by its character and
all else is kept. -/
def unescape : Text → Text
  | [] => []
  | '&' :: 'a' :: 'm' :: 'p' :: ';' :: t => '&' :: unescape t
  | '&' :: 'l' :: 't' :: ';' :: t => '<' :: unescape t
  | '&' :: 'g' :: 't' :: ';' :: t => '>' :: unescape t
  | '&' :: 'q' :: 'u' :: 'o' :: 't' :: ';' :: t => '"' :: unescape t
  | '&' :: '#' :: 'x' :: '2' :: '7' :: ';' :: t => '\'' :: unescape t
  | c :: t => c :: unescape t

/-- What makes a text an escaped one. -/
structure IsEscaped (t : Text) : Prop where
  plain : ∀ c ∈ t, c ≠ '<' ∧ c ≠ '>' ∧ c ≠ '"' ∧ c ≠ '\''
  entity : ∀ before rest, t = before ++ '&' :: rest → ∃ e ∈ entities, e.2 <+: '&' :: rest

/-! ## One character -/

/-- A character that is written as it is. -/
def IsOrdinary (c : Char) : Prop :=
  c ≠ '&' ∧ c ≠ '<' ∧ c ≠ '>' ∧ c ≠ '"' ∧ c ≠ '\''

instance : DecidablePred IsOrdinary := fun _ => inferInstanceAs (Decidable (_ ∧ _))

theorem escape_cons (c : Char) (t : Text) : escape (c :: t) = entity c ++ escape t := rfl

theorem entity_of_mem {e : Char × Text} (h : e ∈ entities) : entity e.1 = e.2 := by
  revert e
  decide

theorem entity_cases (c : Char) :
    (c, entity c) ∈ entities ∨ (entity c = [c] ∧ IsOrdinary c) := by
  by_cases hspecial : c = '&' ∨ c = '<' ∨ c = '>' ∨ c = '"' ∨ c = '\''
  · left
    rcases hspecial with rfl | rfl | rfl | rfl | rfl <;> decide
  · right
    simp only [not_or] at hspecial
    obtain ⟨hamp, hlt, hgt, hquot, hapos⟩ := hspecial
    refine ⟨?_, hamp, hlt, hgt, hquot, hapos⟩
    rw [entity, if_neg hamp, if_neg hlt, if_neg hgt, if_neg hquot, if_neg hapos]

theorem unescape_cons_of_ne {c : Char} (hc : c ≠ '&') (t : Text) :
    unescape (c :: t) = c :: unescape t := by
  rw [unescape]
  all_goals exact fun _ h _ => hc h

theorem unescape_entity_append {e : Char × Text} (h : e ∈ entities) (t : Text) :
    unescape (e.2 ++ t) = e.1 :: unescape t := by
  rcases e with ⟨c, name⟩
  simp only [entities, List.mem_cons, List.not_mem_nil, or_false, Prod.mk.injEq] at h
  rcases h with ⟨rfl, rfl⟩ | ⟨rfl, rfl⟩ | ⟨rfl, rfl⟩ | ⟨rfl, rfl⟩ | ⟨rfl, rfl⟩ <;> rfl

theorem entity_eq_cons {e : Char × Text} (h : e ∈ entities) :
    ∃ body, e.2 = '&' :: body ∧ ∀ c ∈ body, IsOrdinary c := by
  have hbody : ∀ e ∈ entities, e.2 = '&' :: e.2.tail ∧ e.2.tail.all (IsOrdinary ·) := by decide
  obtain ⟨hcons, hplain⟩ := hbody e h
  exact ⟨e.2.tail, hcons, by simpa using hplain⟩

/-! ## Escaped texts -/

namespace IsEscaped

variable {c : Char} {s t : Text}

theorem nil : IsEscaped [] where
  plain := nofun
  entity := by
    intro before rest h
    cases before <;> cases h

theorem cons (ht : IsEscaped t) (hplain : c ≠ '<' ∧ c ≠ '>' ∧ c ≠ '"' ∧ c ≠ '\'')
    (hentity : c = '&' → ∃ e ∈ entities, e.2 <+: c :: t) : IsEscaped (c :: t) where
  plain := by
    intro d hd
    rcases List.mem_cons.1 hd with rfl | hd
    · exact hplain
    · exact ht.plain d hd
  entity := by
    intro before rest h
    cases before with
    | nil =>
      obtain ⟨rfl, rfl⟩ := List.cons.inj h
      exact hentity rfl
    | cons d before => exact ht.entity before rest (List.cons.inj h).2

theorem append (ht : IsEscaped t) (hs : ∀ c ∈ s, IsOrdinary c) : IsEscaped (s ++ t) := by
  induction s with
  | nil => exact ht
  | cons c s ih =>
    obtain ⟨hamp, hplain⟩ := hs c List.mem_cons_self
    exact (ih fun d hd => hs d (List.mem_cons_of_mem c hd)).cons hplain fun h => absurd h hamp

theorem entity_append {e : Char × Text} (he : e ∈ entities) (ht : IsEscaped t) :
    IsEscaped (e.2 ++ t) := by
  have hstart : e.2 <+: e.2 ++ t := List.prefix_append e.2 t
  obtain ⟨body, hcons, hbody⟩ := entity_eq_cons he
  rw [hcons, List.cons_append] at hstart ⊢
  exact (ht.append hbody).cons (by decide) fun _ => ⟨e, he, hcons ▸ hstart⟩

theorem of_append (h : IsEscaped (s ++ t)) : IsEscaped t where
  plain := fun c hc => h.plain c (List.mem_append_right s hc)
  entity := by
    intro before rest ht
    apply h.entity (s ++ before) rest
    rw [ht, List.append_assoc]

end IsEscaped

theorem isEscaped_escape (t : Text) : IsEscaped (escape t) := by
  induction t with
  | nil => exact .nil
  | cons c t ih =>
    rw [escape_cons]
    rcases entity_cases c with hmem | ⟨hentity, hordinary⟩
    · exact ih.entity_append hmem
    · rw [hentity]
      refine ih.append fun d hd => ?_
      rw [List.mem_singleton.1 hd]
      exact hordinary

/-! ## There and back -/

theorem unescape_entity (c : Char) (t : Text) : unescape (entity c ++ t) = c :: unescape t := by
  rcases entity_cases c with hmem | ⟨hentity, hamp, _⟩
  · exact unescape_entity_append hmem t
  · rw [hentity, List.singleton_append, unescape_cons_of_ne hamp]

theorem unescape_escape (t : Text) : unescape (escape t) = t := by
  induction t with
  | nil => rfl
  | cons c t ih => rw [escape_cons, unescape_entity, ih]

theorem escape_unescape {t : Text} (h : IsEscaped t) : escape (unescape t) = t := by
  -- an entity is read as a whole, so the text gets shorter by more than its first character
  induction hn : t.length using Nat.strongRecOn generalizing t with
  | ind n ih =>
    cases t with
    | nil => rfl
    | cons c t =>
      by_cases hamp : c = '&'
      · obtain ⟨e, he, rest, hrest⟩ := h.entity [] t (by rw [hamp, List.nil_append])
        rw [hamp, ← hrest] at h hn ⊢
        have hlength : rest.length < n := by
          obtain ⟨body, hcons, _⟩ := entity_eq_cons he
          rw [← hn, hcons, List.length_append, List.length_cons]
          omega
        rw [unescape_entity_append he, escape_cons, entity_of_mem he, ih _ hlength h.of_append rfl]
      · have hlength : t.length < n := by
          rw [← hn]
          exact Nat.lt_succ_self _
        rcases entity_cases c with hmem | ⟨hentity, _⟩
        · have hspecial := h.plain c List.mem_cons_self
          simp [entities, hamp, hspecial] at hmem
        · have htail : IsEscaped t := IsEscaped.of_append (s := [c]) h
          rw [unescape_cons_of_ne hamp, escape_cons, hentity, ih _ hlength htail rfl]
          rfl

/-- What was escaped can be read back, so that no two texts are escaped alike. An escaped text has
none of the other special characters, and each `&` in it starts an entity; every text of this form
is an escaped one. -/
theorem escape_faithful (t u : Text) :
    unescape (escape t) = t ∧ (escape t = escape u ↔ t = u) ∧
    (∀ c ∈ escape t, c ≠ '<' ∧ c ≠ '>' ∧ c ≠ '"' ∧ c ≠ '\'') ∧
    (∀ before rest, escape t = before ++ '&' :: rest → ∃ e ∈ entities, e.2 <+: '&' :: rest) ∧
    (IsEscaped u ↔ escape (unescape u) = u) := by
  have hescaped := isEscaped_escape t
  refine ⟨unescape_escape t, ⟨fun h => ?_, congrArg escape⟩, hescaped.plain, hescaped.entity,
    escape_unescape, fun h => ?_⟩
  · rw [← unescape_escape t, h, unescape_escape]
  · rw [← h]
    exact isEscaped_escape (unescape u)

/-- An entity that is escaped once more is not taken for the character that it stands for. -/
theorem escape_faithful_entity :
    unescape (escape "&lt;'") = "&lt;'".toList ∧ unescape "&lt;'" ≠ "&lt;'".toList ∧
      escape "&lt;'" = "&amp;lt;".toList ++ '&' :: "#x27;".toList ∧
      ∃ e ∈ entities, e.2 <+: '&' :: "#x27;".toList := by
  have hescape : escape "&lt;'" = "&amp;lt;".toList ++ '&' :: "#x27;".toList := by decide
  obtain ⟨hback, -, -, hentity, -⟩ := escape_faithful "&lt;'" []
  exact ⟨hback, by decide, hescape, hentity _ _ hescape⟩

end DocOutline.Markup
