import Mathlib.Data.List.DropRight
import Mathlib.Data.List.TakeWhile
import DocOutline.Proofs.Text
import DocOutline.Text.Margin

/-!
# Cleaning takes the margin only

A cleaned text is a block of the lines of a text, without tabs, without the indentation of the first
line and without the margin of the others. The lines outside of the block are empty, so that nothing
but white space at the start of a line gets lost (`clean_takes_margin`). The margin is the least
indentation: it grows with the lines when a docstring stands further to the right, and the cleaned
text stays the same (`clean_nested`).
-/

namespace DocOutline.Text

/-! ## Tabs -/

theorem expandTabsFrom_tab (column : Nat) (line : Text) :
    expandTabsFrom column ('\t' :: line) = List.replicate (8 - column % 8) ' ' ++
      expandTabsFrom (column + (8 - column % 8)) line := by
  rw [expandTabsFrom, if_pos rfl]
  rfl

theorem expandTabsFrom_cons_of_ne {c : Char} (hc : c ≠ '\t') (column : Nat) (line : Text) :
    expandTabsFrom column (c :: line) = c :: expandTabsFrom (column + 1) line := by
  rw [expandTabsFrom, if_neg hc]

theorem mem_expandTabsFrom {c : Char} {line : Text} {column : Nat}
    (h : c ∈ expandTabsFrom column line) : c = ' ' ∨ c ∈ line ∧ c ≠ '\t' := by
  induction line generalizing column with
  | nil => cases h
  | cons d line ih =>
    by_cases hd : d = '\t'
    · rw [hd, expandTabsFrom_tab] at h
      rcases List.mem_append.1 h with h | h
      · exact .inl (List.eq_of_mem_replicate h)
      · exact (ih h).imp_right fun hc => ⟨List.mem_cons_of_mem d hc.1, hc.2⟩
    · rw [expandTabsFrom_cons_of_ne hd] at h
      rcases List.mem_cons.1 h with rfl | h
      · exact .inr ⟨List.mem_cons_self, hd⟩
      · exact (ih h).imp_right fun hc => ⟨List.mem_cons_of_mem d hc.1, hc.2⟩

theorem tab_not_mem_expandTabs (line : Text) : '\t' ∉ expandTabs line := by
  intro h
  rcases mem_expandTabsFrom h with h | h
  · exact absurd h (by decide)
  · exact h.2 rfl

theorem newline_not_mem_expandTabs {line : Text} (h : '\n' ∉ line) : '\n' ∉ expandTabs line := by
  intro hmem
  rcases mem_expandTabsFrom hmem with hc | hc
  · exact absurd hc (by decide)
  · exact h hc.1

/-- Only the distance to the next stop matters. -/
theorem expandTabsFrom_congr {column column' : Nat} (h : column % 8 = column' % 8) (line : Text) :
    expandTabsFrom column line = expandTabsFrom column' line := by
  induction line generalizing column column' with
  | nil => rfl
  | cons c line ih =>
    by_cases hc : c = '\t'
    · have hstop : (column + (8 - column % 8)) % 8 = (column' + (8 - column' % 8)) % 8 := by omega
      rw [hc, expandTabsFrom_tab, expandTabsFrom_tab, ih hstop, h]
    · have hnext : (column + 1) % 8 = (column' + 1) % 8 := by omega
      rw [expandTabsFrom_cons_of_ne hc, expandTabsFrom_cons_of_ne hc, ih hnext]

theorem expandTabsFrom_append {start : Text} (h : '\t' ∉ start) (column : Nat) (line : Text) :
    expandTabsFrom column (start ++ line) =
      start ++ expandTabsFrom (column + start.length) line := by
  induction start generalizing column with
  | nil => rfl
  | cons c start ih =>
    rw [List.mem_cons, not_or] at h
    rw [List.cons_append, expandTabsFrom_cons_of_ne (Ne.symm h.1), ih h.2, List.length_cons,
      Nat.add_assoc, Nat.add_comm 1, List.cons_append]

/-- Lines without tabs stay, and a tab becomes spaces up to the next multiple of eight columns. -/
structure ExpandsTabs (f : Text → Text) : Prop where
  plain : ∀ line, '\t' ∉ line → f line = line
  tab : ∀ start rest, '\t' ∉ start →
    f (start ++ '\t' :: rest) = start ++ List.replicate (8 - start.length % 8) ' ' ++ f rest

theorem expandsTabs : ExpandsTabs expandTabs where
  plain line h := by
    have happend := expandTabsFrom_append h 0 []
    rwa [List.append_nil, expandTabsFrom, List.append_nil] at happend
  tab start rest h := by
    have hstop : (0 + start.length + (8 - (0 + start.length) % 8)) % 8 = 0 % 8 := by omega
    unfold expandTabs
    rw [expandTabsFrom_append h, expandTabsFrom_tab, expandTabsFrom_congr hstop, Nat.zero_add,
      List.append_assoc]

/-! ## Indentation -/

section Indent

variable {l : Text} {m : Nat}

theorem indent_append_trimStart (l : Text) : l.indent ++ l.trimStart = l :=
  List.takeWhile_append_dropWhile

theorem trimStart_eq_nil_iff : l.trimStart = [] ↔ l.isBlank = true := by
  rw [trimStart, List.dropWhile_eq_nil_iff, isBlank, List.all_eq_true]

theorem isBlank_append (t u : Text) : (t ++ u).isBlank = (t.isBlank && u.isBlank) :=
  List.all_append

theorem indent_append {w : Text} (hw : w.isBlank = true) (l : Text) :
    indent (w ++ l) = w ++ l.indent :=
  List.takeWhile_append_of_pos (List.all_eq_true.1 hw)

theorem isBlank_take (hm : m ≤ l.indent.length) : isBlank (l.take m) = true := by
  have hindent : l.indent.isBlank = true := List.all_takeWhile
  rw [← indent_append_trimStart l, List.take_append_of_le_length hm]
  rw [← List.take_append_drop m l.indent, isBlank_append, Bool.and_eq_true] at hindent
  exact hindent.1

theorem trimStart_drop (hm : m ≤ l.indent.length) : trimStart (l.drop m) = l.trimStart := by
  calc trimStart (l.drop m) = trimStart (l.take m ++ l.drop m) :=
        (List.dropWhile_append_of_pos (List.all_eq_true.1 (isBlank_take hm))).symm
    _ = l.trimStart := by rw [List.take_append_drop]

theorem indent_eq_take_append (hm : m ≤ l.indent.length) :
    l.indent = l.take m ++ indent (l.drop m) := by
  calc l.indent = indent (l.take m ++ l.drop m) := by rw [List.take_append_drop]
    _ = l.take m ++ indent (l.drop m) := indent_append (isBlank_take hm) _

theorem isBlank_drop (h : l.isBlank = true) (m : Nat) : isBlank (l.drop m) = true := by
  rw [← List.take_append_drop m l, isBlank_append, Bool.and_eq_true] at h
  exact h.2

end Indent

/-! ## The least indentation -/

/-- The least indentation of the lines that are not blank is `m`, or `m` is zero and there are none.
-/
structure IsLeastIndent (m : Nat) (ls : List Text) : Prop where
  le : ∀ l ∈ ls, l.isBlank = false → m ≤ l.indent.length
  attained : (∃ l ∈ ls, l.isBlank = false ∧ l.indent.length = m) ∨
    m = 0 ∧ ∀ l ∈ ls, l.isBlank = true

theorem mem_indents {ls : List Text} {n : Nat} :
    n ∈ (ls.filter (!·.isBlank)).map (·.indent.length) ↔
      ∃ l ∈ ls, l.isBlank = false ∧ l.indent.length = n := by
  simp only [List.mem_map, List.mem_filter, Bool.not_eq_true', and_assoc]

theorem isLeastIndent_margin (ls : List Text) : IsLeastIndent (margin ls) ls := by
  unfold margin
  cases hmin : ((ls.filter (!·.isBlank)).map (·.indent.length)).min? with
  | none =>
    rw [List.min?_eq_none_iff, List.map_eq_nil_iff, List.filter_eq_nil_iff] at hmin
    have hblank : ∀ l ∈ ls, l.isBlank = true := by simpa using hmin
    exact ⟨fun _ _ _ => Nat.zero_le _, .inr ⟨rfl, hblank⟩⟩
  | some m =>
    obtain ⟨hmem, hle⟩ := List.min?_eq_some_iff.1 hmin
    exact ⟨fun l hl hb => hle _ (mem_indents.2 ⟨l, hl, hb, rfl⟩), .inl (mem_indents.1 hmem)⟩

theorem IsLeastIndent.eq {m n : Nat} {ls : List Text} (hm : IsLeastIndent m ls)
    (hn : IsLeastIndent n ls) (h : ∃ l ∈ ls, l.isBlank = false) : m = n := by
  obtain ⟨l, hl, hblank⟩ := h
  have hsome : ∀ k, IsLeastIndent k ls → ∃ l ∈ ls, l.isBlank = false ∧ l.indent.length = k := by
    intro k hk
    rcases hk.attained with hk | ⟨-, hall⟩
    · exact hk
    · rw [hall l hl] at hblank
      cases hblank
  obtain ⟨a, ha, hab, ham⟩ := hsome m hm
  obtain ⟨b, hb, hbb, hbn⟩ := hsome n hn
  have h₁ := hn.le a ha hab
  have h₂ := hm.le b hb hbb
  omega

/-! ## The ends -/

theorem dropEmptyEnds_eq (ls : List Text) :
    dropEmptyEnds ls = (ls.rdropWhile List.isEmpty).dropWhile List.isEmpty := rfl

/-- What is dropped at the ends are empty lines. -/
theorem exists_dropEmptyEnds (ls : List Text) : ∃ above below,
    ls = above ++ dropEmptyEnds ls ++ below ∧ ∀ l ∈ above ++ below, l = [] := by
  have hdropped : ∀ (ks : List Text), ∀ l ∈ ks.takeWhile List.isEmpty, l = [] := by
    intro ks l hl
    exact List.isEmpty_iff.1 (List.mem_takeWhile_imp hl)
  refine ⟨(ls.rdropWhile List.isEmpty).takeWhile List.isEmpty,
    (ls.reverse.takeWhile List.isEmpty).reverse, ?_, ?_⟩
  · rw [dropEmptyEnds_eq, List.takeWhile_append_dropWhile, List.rdropWhile, ← List.reverse_append,
      List.takeWhile_append_dropWhile, List.reverse_reverse]
  · intro l hl
    rcases List.mem_append.1 hl with hl | hl
    · exact hdropped _ l hl
    · exact hdropped _ l (List.mem_reverse.1 hl)

theorem head?_dropEmptyEnds (ls : List Text) : (dropEmptyEnds ls).head? ≠ some [] := by
  intro h
  have hfirst := List.head?_dropWhile_not List.isEmpty (ls.rdropWhile List.isEmpty)
  rw [← dropEmptyEnds_eq, h] at hfirst
  cases hfirst

theorem getLast?_dropEmptyEnds (ls : List Text) : (dropEmptyEnds ls).getLast? ≠ some [] := by
  intro h
  -- The last line that is left is the last one before the empty lines at the top are dropped.
  have hlast : (ls.rdropWhile List.isEmpty).getLast? = some [] := by
    rw [← List.takeWhile_append_dropWhile (p := List.isEmpty) (l := ls.rdropWhile List.isEmpty),
      ← dropEmptyEnds_eq, List.getLast?_append, h]
    rfl
  have hnot := List.head?_dropWhile_not List.isEmpty ls.reverse
  rw [List.rdropWhile, List.getLast?_reverse] at hlast
  rw [hlast] at hnot
  cases hnot

/-! ## What is left of the lines -/

/-- The lines that are not blank, without the white space they start with. -/
def contents (ls : List Text) : List Text := (ls.filter (!·.isBlank)).map trimStart

theorem contents_eq (ls : List Text) : contents ls = (ls.map trimStart).filter (!·.isEmpty) := by
  rw [contents, List.filter_map]
  congr 2
  funext l
  rw [Function.comp_apply, Bool.eq_iff_iff, Bool.not_eq_true', Bool.not_eq_true',
    ← Bool.not_eq_true, ← trimStart_eq_nil_iff, ← List.isEmpty_iff, Bool.not_eq_true]

theorem contents_of_empty {ls : List Text} (h : ∀ l ∈ ls, l = []) : contents ls = [] := by
  rw [contents, List.map_eq_nil_iff, List.filter_eq_nil_iff]
  intro l hl
  rw [h l hl]
  decide

theorem trimStart_drop_margin {ls : List Text} {l : Text} (hl : l ∈ ls) :
    trimStart (l.drop (margin ls)) = l.trimStart := by
  cases hb : l.isBlank with
  | true => rw [trimStart_eq_nil_iff.2 hb, trimStart_eq_nil_iff.2 (isBlank_drop hb _)]
  | false => exact trimStart_drop ((isLeastIndent_margin ls).le l hl hb)

/-- Shifting the lines takes nothing but white space off their starts. -/
theorem map_trimStart_shiftLines (ls : List Text) :
    (shiftLines ls).map trimStart = ls.map trimStart := by
  cases ls with
  | nil => rfl
  | cons first rest =>
    have hrest : (rest.map (·.drop (margin rest))).map trimStart = rest.map trimStart := by
      rw [List.map_map]
      exact List.map_congr_left fun l hl => trimStart_drop_margin hl
    rw [shiftLines, List.map_cons, List.map_cons, hrest]
    congr 1
    exact List.dropWhile_idempotent isSpace first

theorem contents_shiftLines (ls : List Text) : contents (shiftLines ls) = contents ls := by
  rw [contents_eq, contents_eq, map_trimStart_shiftLines]

theorem contents_dropEmptyEnds (ls : List Text) : contents (dropEmptyEnds ls) = contents ls := by
  obtain ⟨above, below, hls, hempty⟩ := exists_dropEmptyEnds ls
  have hends : contents above = [] ∧ contents below = [] :=
    ⟨contents_of_empty fun l hl => hempty l (List.mem_append_left _ hl),
      contents_of_empty fun l hl => hempty l (List.mem_append_right _ hl)⟩
  conv_rhs => rw [hls]
  rw [contents_eq, contents_eq] at hends
  simp only [contents_eq, List.map_append, List.filter_append, hends, List.nil_append,
    List.append_nil]

/-- What is left are characters of the lines. -/
theorem mem_of_mem_shiftLines {ls : List Text} {l : Text} (hl : l ∈ shiftLines ls) :
    ∃ k ∈ ls, ∀ c ∈ l, c ∈ k := by
  cases ls with
  | nil => cases hl
  | cons first rest =>
    rcases List.mem_cons.1 hl with rfl | hl
    · exact ⟨first, List.mem_cons_self, fun c hc => List.dropWhile_subset isSpace hc⟩
    · obtain ⟨k, hk, rfl⟩ := List.mem_map.1 hl
      exact ⟨k, List.mem_cons_of_mem first hk, fun c hc => List.mem_of_mem_drop hc⟩

theorem mem_of_mem_dropEmptyEnds {ls : List Text} {l : Text} (hl : l ∈ dropEmptyEnds ls) :
    l ∈ ls := by
  obtain ⟨above, below, hls, -⟩ := exists_dropEmptyEnds ls
  rw [hls]
  exact List.mem_append_left _ (List.mem_append_right _ hl)

/-- The lines of a text before the ends are dropped. -/
def shifted (t : Text) : List Text := shiftLines (t.lines.map expandTabs)

theorem not_mem_of_mem_shifted {t l : Text} (hl : l ∈ t.shifted) : '\t' ∉ l ∧ '\n' ∉ l := by
  obtain ⟨k, hk, hsub⟩ := mem_of_mem_shiftLines hl
  obtain ⟨line, hline, rfl⟩ := List.mem_map.1 hk
  exact ⟨fun h => tab_not_mem_expandTabs line (hsub _ h),
    fun h => newline_not_mem_expandTabs (mem_pieces hline).1 (hsub _ h)⟩

theorem lines_clean {t : Text} (h : dropEmptyEnds t.shifted ≠ []) :
    t.clean.lines = dropEmptyEnds t.shifted :=
  lines_unlines h fun _ hl => (not_mem_of_mem_shifted (mem_of_mem_dropEmptyEnds hl)).2

theorem contents_lines_clean (t : Text) :
    contents t.clean.lines = contents (t.lines.map expandTabs) := by
  have hblock : contents (dropEmptyEnds t.shifted) = contents (t.lines.map expandTabs) :=
    (contents_dropEmptyEnds _).trans (contents_shiftLines _)
  by_cases h : dropEmptyEnds t.shifted = []
  · have hclean : t.clean = [] := congrArg unlines h
    rw [hclean, ← hblock, h]
    rfl
  · rw [lines_clean h, hblock]

theorem tab_not_mem_clean (t : Text) : '\t' ∉ t.clean := by
  intro h
  rcases mem_join h with h | ⟨l, hl, h⟩
  · exact absurd h (by decide)
  · exact (not_mem_of_mem_shifted (mem_of_mem_dropEmptyEnds hl)).1 h

/-- How the text `out` comes from the lines `first :: rest`, where `m` is the margin of `rest` and
`block` what is left of the lines. -/
structure LosesMargin (first : Text) (rest : List Text) (m : Nat) (block : List Text) (out : Text) :
    Prop where
  leastIndent : IsLeastIndent m rest
  around : ∃ above below, first.trimStart :: rest.map (·.drop m) = above ++ block ++ below ∧
    ∀ l ∈ above ++ below, l = []
  head_ne : block.head? ≠ some []
  last_ne : block.getLast? ≠ some []
  lines_eq : block = [] ∧ out = [] ∨ block ≠ [] ∧ out.lines = block
  contents_eq : contents out.lines = contents (first :: rest)
  /-- A line that is not blank loses `m` characters of its indentation and keeps the others. -/
  dropped : ∀ l ∈ rest, l.isBlank = false →
    (l.take m).length = m ∧ isBlank (l.take m) = true ∧ l.indent = l.take m ++ indent (l.drop m)
  noTab : '\t' ∉ out

/-- A cleaned text is a block of the lines without their margin, and nothing but empty lines stands
outside of the block. -/
theorem clean_takes_margin (t : Text) : ExpandsTabs expandTabs ∧ ∃ first rest m block,
    t.lines.map expandTabs = first :: rest ∧ LosesMargin first rest m block t.clean := by
  have hne : t.lines.map expandTabs ≠ [] := mt List.map_eq_nil_iff.1 (pieces_ne_nil '\n' t)
  obtain ⟨first, rest, hlines⟩ := List.exists_cons_of_ne_nil hne
  have hshifted : t.shifted = first.trimStart :: rest.map (·.drop (margin rest)) := by
    rw [shifted, hlines]
    rfl
  have hmargin := isLeastIndent_margin rest
  refine ⟨expandsTabs, first, rest, margin rest, dropEmptyEnds t.shifted, hlines, hmargin, ?_,
    head?_dropEmptyEnds _, getLast?_dropEmptyEnds _, ?_, ?_, ?_, tab_not_mem_clean t⟩
  · rw [← hshifted]
    exact exists_dropEmptyEnds _
  · by_cases h : dropEmptyEnds t.shifted = []
    · exact .inl ⟨h, congrArg unlines h⟩
    · exact .inr ⟨h, lines_clean h⟩
  · rw [contents_lines_clean, hlines]
  · intro l hl hb
    have hle := hmargin.le l hl hb
    have hlength : l.indent.length ≤ l.length := (List.takeWhile_sublist isSpace).length_le
    exact ⟨List.length_take_of_le (hle.trans hlength), isBlank_take hle, indent_eq_take_append hle⟩

/-! ## Docstrings further to the right -/

/-- The text with `k` more spaces before every line after the first. -/
def nested (k : Nat) (t : Text) : Text :=
  t.flatMap fun c => if c = '\n' then '\n' :: List.replicate k ' ' else [c]

theorem lines_nested (k : Nat) {t first : Text} {rest : List Text} (ht : t.lines = first :: rest) :
    (t.nested k).lines = first :: rest.map (List.replicate k ' ' ++ ·) := by
  have hspaces : '\n' ∉ List.replicate k ' ' := fun h =>
    absurd (List.eq_of_mem_replicate h) (by decide)
  unfold lines at ht ⊢
  induction t generalizing first rest with
  | nil =>
    cases ht
    rfl
  | cons c t ih =>
    obtain ⟨p, ps, hps⟩ := List.exists_cons_of_ne_nil (pieces_ne_nil '\n' t)
    have ih := ih hps
    by_cases hc : c = '\n'
    · rw [hc, pieces_cons_self, hps] at ht
      cases ht
      have hcons : nested k (c :: t) = '\n' :: (List.replicate k ' ' ++ nested k t) := by
        rw [nested, List.flatMap_cons, if_pos hc]
        rfl
      rw [hcons, pieces_cons_self, pieces_append_of_not_mem hspaces ih, List.map_cons]
    · rw [pieces_cons_of_ne hc hps] at ht
      cases ht
      have hcons : nested k (c :: t) = c :: nested k t := by
        rw [nested, List.flatMap_cons, if_neg hc]
        rfl
      rw [hcons, pieces_cons_of_ne hc ih]

theorem isBlank_spaces (k : Nat) : isBlank (List.replicate k ' ') = true := by
  rw [isBlank, List.all_eq_true]
  intro c hc
  rw [List.eq_of_mem_replicate hc]
  decide

theorem IsLeastIndent.nested {m : Nat} {ls : List Text} (h : IsLeastIndent m ls)
    (hsome : ∃ l ∈ ls, l.isBlank = false) (k : Nat) :
    IsLeastIndent (k + m) (ls.map (List.replicate k ' ' ++ ·)) := by
  have hblank : ∀ l : Text, isBlank (List.replicate k ' ' ++ l) = l.isBlank := by
    intro l
    rw [isBlank_append, isBlank_spaces, Bool.true_and]
  have hindent : ∀ l : Text, (indent (List.replicate k ' ' ++ l)).length = k + l.indent.length := by
    intro l
    rw [indent_append (isBlank_spaces k), List.length_append, List.length_replicate]
  refine ⟨?_, .inl ?_⟩
  · intro k' hk' hb
    obtain ⟨l, hl, rfl⟩ := List.mem_map.1 hk'
    rw [hblank] at hb
    have hle := h.le l hl hb
    rw [hindent]
    omega
  · rcases h.attained with ⟨l, hl, hb, hm⟩ | ⟨-, hall⟩
    · exact ⟨_, List.mem_map_of_mem hl, by rw [hblank, hb], by rw [hindent, hm]⟩
    · obtain ⟨l, hl, hb⟩ := hsome
      rw [hall l hl] at hb
      cases hb

theorem shiftLines_nested (first : Text) {rest : List Text} (hsome : ∃ l ∈ rest, l.isBlank = false)
    (k : Nat) : shiftLines (first :: rest.map (List.replicate k ' ' ++ ·)) =
      shiftLines (first :: rest) := by
  have hmargin : margin (rest.map (List.replicate k ' ' ++ ·)) = k + margin rest := by
    refine (isLeastIndent_margin _).eq ((isLeastIndent_margin rest).nested hsome k) ?_
    obtain ⟨l, hl, hb⟩ := hsome
    refine ⟨_, List.mem_map_of_mem hl, ?_⟩
    rw [isBlank_append, hb, Bool.and_false]
  -- Blank lines may be shorter than the margin; the spaces come off before the old margin does.
  rw [shiftLines, shiftLines, hmargin, List.map_map]
  congr 1
  apply List.map_congr_left
  intro l hl
  rw [Function.comp_apply, ← List.drop_drop, List.drop_left' List.length_replicate]

theorem map_expandTabs_lines {t : Text} (h : '\t' ∉ t) : t.lines.map expandTabs = t.lines := by
  conv_rhs => rw [← List.map_id t.lines]
  apply List.map_congr_left
  intro l hl
  exact expandsTabs.plain l fun htab => h ((mem_pieces hl).2 _ htab)

theorem tab_not_mem_nested {t : Text} (h : '\t' ∉ t) (k : Nat) : '\t' ∉ t.nested k := by
  intro htab
  obtain ⟨c, hc, htab⟩ := List.mem_flatMap.1 htab
  split at htab
  · rcases List.mem_cons.1 htab with htab | htab
    · exact absurd htab (by decide)
    · exact absurd (List.eq_of_mem_replicate htab) (by decide)
  · rw [List.mem_singleton] at htab
    rw [htab] at h
    exact h hc

/-- The text of a docstring does not depend on how far to the right its lines stand. -/
theorem clean_nested (t : Text) (htab : '\t' ∉ t) (hsome : ∃ l ∈ t.lines.tail, l.isBlank = false)
    (k : Nat) : (t.nested k).clean = t.clean := by
  obtain ⟨first, rest, hlines⟩ := List.exists_cons_of_ne_nil (pieces_ne_nil '\n' t)
  change t.lines = first :: rest at hlines
  rw [hlines, List.tail_cons] at hsome
  unfold clean
  rw [map_expandTabs_lines htab, map_expandTabs_lines (tab_not_mem_nested htab k),
    lines_nested k hlines, hlines, shiftLines_nested first hsome]

/-- Blank lines move like the others, whether they are shorter or longer than the margin. -/
theorem clean_nested_blank_lines :
    let t : Text := "Title\n    a\n\n     \n  b\n".toList
    '\t' ∉ t ∧ (∃ l ∈ t.lines.tail, l.isBlank = false) ∧
      t.nested 3 = "Title\n       a\n   \n        \n     b\n   ".toList ∧
      (t.nested 3).clean = t.clean ∧ t.clean = "Title\n  a\n\n   \nb".toList := by
  intro t
  have htab : '\t' ∉ t := by decide
  have hsome : ∃ l ∈ t.lines.tail, l.isBlank = false := ⟨"  b".toList, by decide, by decide⟩
  exact ⟨htab, hsome, by decide, clean_nested t htab hsome 3, by decide⟩

end DocOutline.Text
