import DocOutline.Text.Space

/-!
# Joined, divided and squeezed texts
-/

namespace DocOutline.Text

@[simp] theorem join_nil (sep : Text) : join sep [] = [] := rfl

@[simp] theorem join_singleton (sep t : Text) : join sep [t] = t := by
  simp [join, List.intercalate]

theorem join_cons_cons (sep t u : Text) (ts : List Text) :
    join sep (t :: u :: ts) = t ++ sep ++ join sep (u :: ts) := by
  simp [join, List.intercalate]

theorem join_append (sep : Text) {ts us : List Text} (hts : ts ≠ []) (hus : us ≠ []) :
    join sep (ts ++ us) = join sep ts ++ sep ++ join sep us := by
  obtain ⟨u, us, rfl⟩ := List.exists_cons_of_ne_nil hus
  induction ts with
  | nil => exact absurd rfl hts
  | cons t ts ih =>
    cases ts with
    | nil => rw [List.singleton_append, join_cons_cons, join_singleton]
    | cons v ts =>
      have ih := ih (List.cons_ne_nil v ts)
      rw [List.cons_append] at ih
      rw [List.cons_append, List.cons_append, join_cons_cons, ih, join_cons_cons]
      simp only [List.append_assoc]

/-- Something stands between two texts. -/
theorem join_ne_nil {sep : Text} (hsep : sep ≠ []) {ts : List Text} (hts : 2 ≤ ts.length) :
    join sep ts ≠ [] := by
  match ts, hts with
  | t :: u :: ts, _ =>
    rw [join_cons_cons]
    simp [hsep]

theorem mem_join {sep : Text} {ts : List Text} {c : Char} (h : c ∈ join sep ts) :
    c ∈ sep ∨ ∃ t ∈ ts, c ∈ t := by
  induction ts with
  | nil => cases h
  | cons t ts ih =>
    cases ts with
    | nil =>
      rw [join_singleton] at h
      exact .inr ⟨t, List.mem_cons_self, h⟩
    | cons u ts =>
      rw [join_cons_cons, List.mem_append, List.mem_append] at h
      rcases h with (h | h) | h
      · exact .inr ⟨t, List.mem_cons_self, h⟩
      · exact .inl h
      · exact (ih h).imp_right fun ⟨v, hv, hc⟩ => ⟨v, List.mem_cons_of_mem t hv, hc⟩

/-! ## Pieces and lines -/

theorem pieces_cons_self (sep : Char) (t : Text) : pieces sep (sep :: t) = [] :: pieces sep t := by
  rw [pieces, if_pos rfl]

theorem pieces_ne_nil (sep : Char) (t : Text) : pieces sep t ≠ [] := by
  cases t with
  | nil => exact List.cons_ne_nil _ _
  | cons c t =>
    rw [pieces]
    split
    · exact List.cons_ne_nil _ _
    · split <;> exact List.cons_ne_nil _ _

theorem pieces_cons_of_ne {sep c : Char} (hc : c ≠ sep) {t p : Text} {ps : List Text}
    (ht : pieces sep t = p :: ps) : pieces sep (c :: t) = (c :: p) :: ps := by
  rw [pieces, if_neg hc, ht]

theorem pieces_append (sep : Char) (t u : Text) :
    pieces sep (t ++ sep :: u) = pieces sep t ++ pieces sep u := by
  induction t with
  | nil => exact pieces_cons_self sep u
  | cons c t ih =>
    by_cases hc : c = sep
    · rw [hc, List.cons_append, pieces_cons_self, pieces_cons_self, ih, List.cons_append]
    · obtain ⟨p, ps, hps⟩ := List.exists_cons_of_ne_nil (pieces_ne_nil sep t)
      rw [hps, List.cons_append] at ih
      rw [List.cons_append, pieces_cons_of_ne hc ih, pieces_cons_of_ne hc hps, List.cons_append]

theorem pieces_append_of_not_mem {sep : Char} {s : Text} (hs : sep ∉ s) {t p : Text}
    {ps : List Text} (ht : pieces sep t = p :: ps) : pieces sep (s ++ t) = (s ++ p) :: ps := by
  induction s with
  | nil => exact ht
  | cons c s ih =>
    rw [List.mem_cons, not_or] at hs
    exact pieces_cons_of_ne (Ne.symm hs.1) (ih hs.2)

theorem pieces_of_not_mem {sep : Char} {t : Text} (h : sep ∉ t) : pieces sep t = [t] := by
  have hnil : pieces sep [] = [] :: [] := rfl
  have hpieces := pieces_append_of_not_mem h hnil
  rwa [List.append_nil] at hpieces

theorem pieces_join {sep : Char} {ts : List Text} (hts : ts ≠ []) (h : ∀ t ∈ ts, sep ∉ t) :
    pieces sep (join [sep] ts) = ts := by
  induction ts with
  | nil => exact absurd rfl hts
  | cons t ts ih =>
    have ht := pieces_of_not_mem (h t List.mem_cons_self)
    cases ts with
    | nil => rw [join_singleton, ht]
    | cons u ts =>
      have hrest := ih (List.cons_ne_nil u ts) fun v hv => h v (List.mem_cons_of_mem t hv)
      rw [join_cons_cons, List.append_assoc, List.singleton_append, pieces_append, ht, hrest]
      rfl

theorem mem_pieces {sep : Char} {t p : Text} (hp : p ∈ pieces sep t) :
    sep ∉ p ∧ ∀ c ∈ p, c ∈ t := by
  induction t generalizing p with
  | nil =>
    rw [List.mem_singleton.1 hp]
    exact ⟨List.not_mem_nil, nofun⟩
  | cons c t ih =>
    by_cases hc : c = sep
    · rw [hc, pieces_cons_self] at hp
      rcases List.mem_cons.1 hp with rfl | hp
      · exact ⟨List.not_mem_nil, nofun⟩
      · exact ⟨(ih hp).1, fun d hd => List.mem_cons_of_mem c ((ih hp).2 d hd)⟩
    · obtain ⟨q, qs, hqs⟩ := List.exists_cons_of_ne_nil (pieces_ne_nil sep t)
      rw [pieces_cons_of_ne hc hqs] at hp
      rw [hqs] at ih
      rcases List.mem_cons.1 hp with rfl | hp
      · obtain ⟨hsep, hmem⟩ := ih List.mem_cons_self
        refine ⟨?_, fun d hd => ?_⟩
        · rw [List.mem_cons, not_or]
          exact ⟨Ne.symm hc, hsep⟩
        · rcases List.mem_cons.1 hd with rfl | hd
          · exact List.mem_cons_self
          · exact List.mem_cons_of_mem c (hmem d hd)
      · obtain ⟨hsep, hmem⟩ := ih (List.mem_cons_of_mem q hp)
        exact ⟨hsep, fun d hd => List.mem_cons_of_mem c (hmem d hd)⟩

theorem lines_unlines {ls : List Text} (hls : ls ≠ []) (h : ∀ l ∈ ls, '\n' ∉ l) :
    (unlines ls).lines = ls :=
  pieces_join hls h

theorem join_pieces (sep : Char) (t : Text) : join [sep] (pieces sep t) = t := by
  induction t with
  | nil => rfl
  | cons c t ih =>
    obtain ⟨p, ps, hps⟩ := List.exists_cons_of_ne_nil (pieces_ne_nil sep t)
    by_cases hc : c = sep
    · rw [hc, pieces_cons_self, hps, join_cons_cons, ← hps, ih]
      rfl
    · rw [pieces_cons_of_ne hc hps]
      rw [hps] at ih
      cases ps with
      | nil => rw [← ih, join_singleton, join_singleton]
      | cons q qs => rw [← ih, join_cons_cons, join_cons_cons, List.cons_append, List.cons_append]

theorem unlines_lines (t : Text) : unlines t.lines = t := join_pieces '\n' t

/-! ## Characters and bytes -/

/-- What every character of a text satisfies can be checked character by character. -/
theorem forall_mem {P : Char → Prop} [DecidablePred P] {t : Text} (h : t.all (P ·) = true) :
    ∀ c ∈ t, P c := by
  simpa using h

@[simp] theorem byteSize_nil : byteSize [] = 0 := rfl

theorem byteSize_cons (c : Char) (t : Text) : byteSize (c :: t) = c.utf8Size + byteSize t := rfl

theorem byteSize_append (t u : Text) : byteSize (t ++ u) = byteSize t + byteSize u := by
  induction t with
  | nil => simp
  | cons c t ih => rw [List.cons_append, byteSize_cons, byteSize_cons, ih, Nat.add_assoc]

/-- No character lies across the border behind the first `n` bytes of a text. -/
def CutsAt (t : Text) (n : Nat) : Prop :=
  ∃ before behind, t = before ++ behind ∧ byteSize before = n

/-! ## Without white space -/

/-- A text without its white space. -/
def squeeze (t : Text) : Text := t.filter (!isSpace ·)

@[simp] theorem squeeze_nil : squeeze [] = [] := rfl

@[simp] theorem squeeze_append (t u : Text) : squeeze (t ++ u) = squeeze t ++ squeeze u :=
  List.filter_append t u

theorem squeeze_join (sep : Text) : ∀ ts : List Text,
    squeeze (join sep ts) = join (squeeze sep) (ts.map squeeze)
  | [] => rfl
  | [t] => by simp
  | t :: u :: ts => by
    have ih := squeeze_join sep (u :: ts)
    rw [List.map_cons] at ih
    rw [join_cons_cons, squeeze_append, squeeze_append, ih, List.map_cons, List.map_cons,
      join_cons_cons]

theorem squeeze_flatMap {α : Type} (f : α → Text) (as : List α) :
    squeeze (as.flatMap f) = as.flatMap fun a => squeeze (f a) :=
  List.filter_flatMap

end DocOutline.Text
