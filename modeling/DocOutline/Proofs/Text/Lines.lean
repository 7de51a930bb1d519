import DocOutline.Proofs.Text

/-!
# Searching and replacing in lines

What is searched for holds no newline, so an occurrence never leaves its line: to replace all the
occurrences in a text is to replace those of each line (`isLineWise_replaceAll`). A whole line, with
the newlines around it, is found at the first line that is equal to it (`splitFirst?_line`), and
nowhere else (`splitFirst?_line_eq_none`).
-/

namespace DocOutline.Text

/-- A function on texts that treats every line by itself. -/
def IsLineWise (f : Text → Text) : Prop :=
  ∀ line rest, '\n' ∉ line → f (line ++ '\n' :: rest) = f line ++ '\n' :: f rest

theorem unlines_singleton (l : Text) : unlines [l] = l := join_singleton ['\n'] l

theorem unlines_cons_cons (l k : Text) (ls : List Text) :
    unlines (l :: k :: ls) = l ++ '\n' :: unlines (k :: ls) := by
  rw [unlines, join_cons_cons, List.append_assoc]
  rfl

theorem unlines_cons (l : Text) {ls : List Text} (h : ls ≠ []) :
    unlines (l :: ls) = l ++ '\n' :: unlines ls := by
  obtain ⟨k, ls, rfl⟩ := List.exists_cons_of_ne_nil h
  exact unlines_cons_cons l k ls

theorem lines_append (t u : Text) : lines (t ++ '\n' :: u) = t.lines ++ u.lines :=
  pieces_append '\n' t u

theorem lines_of_not_mem {line : Text} (h : '\n' ∉ line) : line.lines = [line] :=
  pieces_of_not_mem h

theorem lines_line_append {line : Text} (h : '\n' ∉ line) (t : Text) :
    lines (line ++ '\n' :: t) = line :: t.lines := by
  rw [lines_append, lines_of_not_mem h, List.singleton_append]

theorem newline_not_mem_of_mem_lines {t l : Text} (h : l ∈ t.lines) : '\n' ∉ l :=
  (mem_pieces h).1

namespace IsLineWise

variable {f : Text → Text}

theorem unlines_eq (hf : IsLineWise f) {ls : List Text} (hls : ls ≠ [])
    (h : ∀ l ∈ ls, '\n' ∉ l) : f (unlines ls) = unlines (ls.map f) := by
  induction ls with
  | nil => exact absurd rfl hls
  | cons l ls ih =>
    cases ls with
    | nil => rw [List.map_singleton, unlines_singleton, unlines_singleton]
    | cons k ls =>
      have ih := ih (List.cons_ne_nil k ls) fun m hm => h m (List.mem_cons_of_mem l hm)
      rw [unlines_cons_cons, hf l _ (h l List.mem_cons_self), ih]
      exact (unlines_cons_cons (f l) (f k) (ls.map f)).symm

theorem eq_unlines (hf : IsLineWise f) (t : Text) : f t = unlines (t.lines.map f) := by
  calc f t = f (unlines t.lines) := by rw [unlines_lines]
    _ = unlines (t.lines.map f) :=
      hf.unlines_eq (pieces_ne_nil '\n' t) fun _ => newline_not_mem_of_mem_lines

theorem lines_eq (hf : IsLineWise f) {g : Text → Text} {t : Text}
    (hg : ∀ l ∈ t.lines, f l = g l ∧ '\n' ∉ g l) : (f t).lines = t.lines.map g := by
  have hmap : t.lines.map f = t.lines.map g := List.map_congr_left fun l hl => (hg l hl).1
  rw [hf.eq_unlines, hmap]
  apply lines_unlines (mt List.map_eq_nil_iff.1 (pieces_ne_nil '\n' t))
  intro l hl
  obtain ⟨k, hk, rfl⟩ := List.mem_map.1 hl
  exact (hg k hk).2

end IsLineWise

/-! ## The start of a text -/

theorem after?_eq_some_iff {start t rest : Text} :
    after? start t = some rest ↔ t = start ++ rest := by
  induction start generalizing t with
  | nil => rw [after?, List.nil_append, Option.some.injEq]
  | cons p start ih =>
    cases t with
    | nil => simp [after?]
    | cons c t =>
      rw [after?, List.cons_append, List.cons.injEq]
      by_cases hp : p = c
      · rw [if_pos hp, ih, hp]
        simp
      · rw [if_neg hp]
        simp [Ne.symm hp]

theorem isPrefixOf_eq (start t : Text) : start.isPrefixOf t = (after? start t).isSome := by
  rw [Bool.eq_iff_iff, List.isPrefixOf_iff_prefix, Option.isSome_iff_exists]
  simp only [after?_eq_some_iff]
  exact ⟨fun ⟨rest, h⟩ => ⟨rest, h.symm⟩, fun ⟨rest, h⟩ => ⟨rest, h.symm⟩⟩

theorem after?_append {start : Text} (hstart : '\n' ∉ start) (line rest : Text) :
    after? start (line ++ '\n' :: rest) = (after? start line).map (· ++ '\n' :: rest) := by
  induction start generalizing line with
  | nil => rfl
  | cons p start ih =>
    rw [List.mem_cons, not_or] at hstart
    cases line with
    | nil => exact if_neg (Ne.symm hstart.1)
    | cons c line =>
      rw [List.cons_append, after?, after?]
      by_cases hp : p = c
      · rw [if_pos hp, if_pos hp, ih hstart.2]
      · rw [if_neg hp, if_neg hp, Option.map_none]

/-! ## Replacing in lines -/

section Replace

variable {old : Text} (new : Text)

theorem replaceFrom_of_isPrefixOf {c : Char} {t : Text} (h : old.isPrefixOf (c :: t) = true) :
    replaceFrom old new 0 (c :: t) = new ++ replaceFrom old new (old.length - 1) t :=
  if_pos h

theorem replaceFrom_of_not_isPrefixOf {c : Char} {t : Text}
    (h : ¬old.isPrefixOf (c :: t) = true) :
    replaceFrom old new 0 (c :: t) = c :: replaceFrom old new 0 t :=
  if_neg h

theorem replaceFrom_append (hold : '\n' ∉ old) (hne : old ≠ []) {line : Text} {skip : Nat}
    (hskip : skip ≤ line.length) (rest : Text) :
    replaceFrom old new skip (line ++ '\n' :: rest) =
      replaceFrom old new skip line ++ '\n' :: replaceFrom old new 0 rest := by
  induction line generalizing skip with
  | nil =>
    obtain rfl : skip = 0 := Nat.le_zero.1 hskip
    have hstart : ¬old.isPrefixOf ('\n' :: rest) = true := by
      rw [isPrefixOf_eq, ← List.nil_append ('\n' :: rest), after?_append hold]
      obtain ⟨c, old, rfl⟩ := List.exists_cons_of_ne_nil hne
      exact Bool.false_ne_true
    exact replaceFrom_of_not_isPrefixOf new hstart
  | cons c line ih =>
    cases skip with
    | succ skip => exact ih (Nat.le_of_succ_le_succ hskip)
    | zero =>
      have hsame : old.isPrefixOf (c :: line ++ '\n' :: rest) = old.isPrefixOf (c :: line) := by
        rw [isPrefixOf_eq, isPrefixOf_eq, after?_append hold, Option.isSome_map]
      rw [List.cons_append] at hsame ⊢
      by_cases hstart : old.isPrefixOf (c :: line) = true
      · have hlength := (List.isPrefixOf_iff_prefix.1 hstart).length_le
        rw [List.length_cons] at hlength
        rw [replaceFrom_of_isPrefixOf new hstart,
          replaceFrom_of_isPrefixOf new (hsame.trans hstart), ih (by omega), List.append_assoc]
      · rw [replaceFrom_of_not_isPrefixOf new hstart,
          replaceFrom_of_not_isPrefixOf new (hsame ▸ hstart), ih (Nat.zero_le _), List.cons_append]

theorem isLineWise_replaceAll (hold : '\n' ∉ old) : IsLineWise (replaceAll old new) := by
  intro line rest hline
  by_cases hne : old = []
  · rw [replaceAll, if_pos hne, replaceAll, if_pos hne, replaceAll, if_pos hne]
  · rw [replaceAll, if_neg hne, replaceAll, if_neg hne, replaceAll, if_neg hne]
    exact replaceFrom_append new hold hne (Nat.zero_le _) rest

theorem mem_replaceFrom {c : Char} {skip : Nat} {t : Text} (h : c ∈ replaceFrom old new skip t) :
    c ∈ new ∨ c ∈ t := by
  induction t generalizing skip with
  | nil => cases h
  | cons d t ih =>
    cases skip with
    | succ skip => exact (ih h).imp_right (List.mem_cons_of_mem d)
    | zero =>
      by_cases hstart : old.isPrefixOf (d :: t) = true
      · rw [replaceFrom_of_isPrefixOf new hstart] at h
        rcases List.mem_append.1 h with h | h
        · exact .inl h
        · exact (ih h).imp_right (List.mem_cons_of_mem d)
      · rw [replaceFrom_of_not_isPrefixOf new hstart] at h
        rcases List.mem_cons.1 h with rfl | h
        · exact .inr List.mem_cons_self
        · exact (ih h).imp_right (List.mem_cons_of_mem d)

theorem mem_replaceAll {c : Char} {t : Text} (h : c ∈ replaceAll old new t) : c ∈ new ∨ c ∈ t := by
  rw [replaceAll] at h
  by_cases hne : old = []
  · rw [if_pos hne] at h
    exact .inr h
  · rw [if_neg hne] at h
    exact mem_replaceFrom new h

end Replace

theorem replaceFrom_singleton (c d : Char) (t : Text) :
    replaceFrom [c] [d] 0 t = t.map fun e => if e = c then d else e := by
  induction t with
  | nil => rfl
  | cons e t ih =>
    by_cases he : e = c
    · rw [replaceFrom, if_pos (by simp [he]), List.map_cons, if_pos he]
      exact congrArg _ ih
    · rw [replaceFrom, if_neg (by simp [Ne.symm he]), List.map_cons, if_neg he, ih]

theorem replaceAll_singleton (c d : Char) (t : Text) :
    replaceAll [c] [d] t = t.map fun e => if e = c then d else e := by
  rw [replaceAll, if_neg (List.cons_ne_nil c []), replaceFrom_singleton]

/-! ## Searching for a whole line -/

theorem splitFirst?_cons_of_after? {part t rest : Text} {c : Char}
    (h : after? part (c :: t) = some rest) : splitFirst? part (c :: t) = some ([], rest) := by
  rw [splitFirst?, h]

theorem splitFirst?_cons_of_none {part t : Text} {c : Char} (h : after? part (c :: t) = none) :
    splitFirst? part (c :: t) = (splitFirst? part t).map (Prod.map (c :: ·) id) := by
  rw [splitFirst?, h]
  rfl

theorem splitFirst?_append_of_not_mem {c : Char} {before : Text} (h : c ∉ before)
    (part t : Text) : splitFirst? (c :: part) (before ++ t) =
      (splitFirst? (c :: part) t).map (Prod.map (before ++ ·) id) := by
  induction before with
  | nil => exact Option.map_id'.symm
  | cons d before ih =>
    rw [List.mem_cons, not_or] at h
    have hnone : after? (c :: part) (d :: (before ++ t)) = none := if_neg h.1
    rw [List.cons_append, splitFirst?_cons_of_none hnone, ih h.2, Option.map_map]
    rfl

section Line

variable {line : Text}

/-- A text starts with `line` and a newline if `line` is its first line and not its only one. -/
theorem after?_line_eq_some (hline : '\n' ∉ line) {t rest : Text}
    (h : after? (line ++ ['\n']) t = some rest) : t.lines = line :: rest.lines := by
  rw [after?_eq_some_iff, List.append_assoc, List.singleton_append] at h
  rw [h, lines_line_append hline]

theorem after?_line_of_ne (hline : '\n' ∉ line) {l : Text} {ls : List Text}
    (h : ∀ k ∈ l :: ls, '\n' ∉ k) (hne : l ≠ line ∨ ls = []) :
    after? ('\n' :: (line ++ ['\n'])) ('\n' :: unlines (l :: ls)) = none := by
  rw [after?, if_pos rfl, Option.eq_none_iff_forall_ne_some]
  intro rest hrest
  have hlines := after?_line_eq_some hline hrest
  rw [lines_unlines (List.cons_ne_nil l ls) h] at hlines
  obtain ⟨hl, hls⟩ := List.cons.inj hlines
  rcases hne with hne | hne
  · exact hne hl
  · exact pieces_ne_nil '\n' rest (hls.symm.trans hne)

/-- The first line of a text has no newline before it, so it does not matter what it is. -/
theorem splitFirst?_line (hline : '\n' ∉ line) {first : Text} {above below : List Text}
    (h : ∀ l ∈ first :: (above ++ line :: below), '\n' ∉ l) (habove : line ∉ above)
    (hbelow : below ≠ []) :
    splitFirst? ('\n' :: (line ++ ['\n'])) (unlines (first :: (above ++ line :: below))) =
      some (unlines (first :: above), unlines below) := by
  have hfirst := h first List.mem_cons_self
  induction above generalizing first with
  | nil =>
    have hfound : after? ('\n' :: (line ++ ['\n'])) ('\n' :: unlines (line :: below)) =
        some (unlines below) := by
      rw [after?_eq_some_iff, unlines_cons line hbelow]
      simp
    rw [List.nil_append, unlines_cons_cons, splitFirst?_append_of_not_mem hfirst,
      splitFirst?_cons_of_after? hfound, unlines_singleton]
    simp
  | cons l above ih =>
    rw [List.mem_cons, not_or] at habove
    have hrest : ∀ k ∈ l :: (above ++ line :: below), '\n' ∉ k := fun k hk =>
      h k (List.mem_cons_of_mem first hk)
    have hnone := after?_line_of_ne hline hrest (.inl (Ne.symm habove.1))
    have ih := ih hrest habove.2 (hrest l List.mem_cons_self)
    rw [List.cons_append, unlines_cons_cons, splitFirst?_append_of_not_mem hfirst,
      splitFirst?_cons_of_none hnone, ih, unlines_cons_cons]
    rfl

theorem splitFirst?_line_eq_none (hline : '\n' ∉ line) {first : Text} {ls : List Text}
    (h : ∀ l ∈ first :: ls, '\n' ∉ l) (hls : line ∉ ls.dropLast) :
    splitFirst? ('\n' :: (line ++ ['\n'])) (unlines (first :: ls)) = none := by
  have hfirst := h first List.mem_cons_self
  induction ls generalizing first with
  | nil =>
    rw [unlines_singleton, ← List.append_nil first, splitFirst?_append_of_not_mem hfirst]
    rfl
  | cons l ls ih =>
    have hrest : ∀ k ∈ l :: ls, '\n' ∉ k := fun k hk => h k (List.mem_cons_of_mem first hk)
    have hne : l ≠ line ∨ ls = [] := by
      cases ls with
      | nil => exact .inr rfl
      | cons k ls => exact .inl fun hl => hls (hl ▸ List.mem_cons_self)
    have htail : line ∉ ls.dropLast := by
      cases ls with
      | nil => exact List.not_mem_nil
      | cons k ls => exact fun hmem => hls (List.mem_cons_of_mem l hmem)
    have ih := ih hrest htail (hrest l List.mem_cons_self)
    rw [unlines_cons_cons, splitFirst?_append_of_not_mem hfirst,
      splitFirst?_cons_of_none (after?_line_of_ne hline hrest hne), ih]
    rfl

end Line

end DocOutline.Text
