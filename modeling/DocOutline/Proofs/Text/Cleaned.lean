import DocOutline.Proofs.Text.Margin

/-!
# Cleaned texts

What a cleaned text looks like. Its first and its last line are not empty, but lines are cut at the
margin before the empty ones are dropped, so a blank line that is longer than the margin stays, also
at an end (`clean_ends`). If a text starts with a line that is not blank, this line stays the first
one and cleaning leaves nothing to clean (`clean_clean`).
-/

namespace DocOutline.Text

/-! ## The lines at the ends -/

theorem find?_of_empty {ls : List Text} (h : ∀ l ∈ ls, l = []) :
    ls.find? (!·.isEmpty) = none := by
  rw [List.find?_eq_none]
  intro l hl
  rw [h l hl]
  decide

theorem find?_cons_nil (ls : List Text) :
    ([] :: ls).find? (!·.isEmpty) = ls.find? (!·.isEmpty) :=
  List.find?_cons_of_neg Bool.false_ne_true

theorem find?_cons_of_ne {l : Text} (h : l ≠ []) (ls : List Text) :
    (l :: ls).find? (!·.isEmpty) = some l := by
  apply List.find?_cons_of_pos
  rw [List.isEmpty_eq_false_iff.2 h]
  rfl

theorem find?_eq_head? {ls : List Text} (h : ls.head? ≠ some []) :
    ls.find? (!·.isEmpty) = ls.head? := by
  cases ls with
  | nil => rfl
  | cons l ls => exact find?_cons_of_ne (mt (congrArg some) h) ls

theorem find?_of_around {above block below : List Text} (h : ∀ l ∈ above ++ below, l = [])
    (hblock : block.head? ≠ some []) :
    (above ++ block ++ below).find? (!·.isEmpty) = block.head? := by
  have habove := find?_of_empty fun l hl => h l (List.mem_append_left below hl)
  have hbelow := find?_of_empty fun l hl => h l (List.mem_append_right above hl)
  rw [List.find?_append, List.find?_append, habove, hbelow, Option.or_none, Option.none_or,
    find?_eq_head? hblock]

theorem head?_dropEmptyEnds_eq (ls : List Text) :
    (dropEmptyEnds ls).head? = ls.find? (!·.isEmpty) := by
  obtain ⟨above, below, hls, hempty⟩ := exists_dropEmptyEnds ls
  conv_rhs => rw [hls]
  exact (find?_of_around hempty (head?_dropEmptyEnds ls)).symm

theorem getLast?_dropEmptyEnds_eq (ls : List Text) :
    (dropEmptyEnds ls).getLast? = ls.reverse.find? (!·.isEmpty) := by
  obtain ⟨above, below, hls, hempty⟩ := exists_dropEmptyEnds ls
  have hlast := getLast?_dropEmptyEnds ls
  rw [← List.head?_reverse] at hlast ⊢
  conv_rhs => rw [hls, List.reverse_append, List.reverse_append, ← List.append_assoc]
  refine (find?_of_around (fun l hl => hempty l ?_) hlast).symm
  rw [List.mem_append, List.mem_reverse, List.mem_reverse] at hl
  exact List.mem_append.2 hl.symm

theorem isBlank_trimStart_eq_true_iff {l : Text} :
    l.trimStart.isBlank = true ↔ l.trimStart = [] := by
  rw [← trimStart_eq_nil_iff]
  exact Eq.congr_left (List.dropWhile_idempotent isSpace l)

theorem isBlank_drop_margin {ls : List Text} {l : Text} (hl : l ∈ ls) :
    isBlank (l.drop (margin ls)) = l.isBlank := by
  rw [Bool.eq_iff_iff, ← trimStart_eq_nil_iff, ← trimStart_eq_nil_iff, trimStart_drop_margin hl]

/-- The first line that a cut of `m` characters does not empty is blank if it is one of the blank
lines at the top. -/
theorem exists_find?_drop_iff {ls : List Text} {m : Nat}
    (h : ∀ l ∈ ls, isBlank (l.drop m) = l.isBlank) :
    (∃ l : Text, (ls.map (·.drop m)).find? (!·.isEmpty) = some l ∧ l.isBlank = true) ↔
      ∃ l ∈ ls.takeWhile isBlank, m < l.length := by
  induction ls with
  | nil => simp
  | cons l ls ih =>
    have hl := h l List.mem_cons_self
    have ih := ih fun k hk => h k (List.mem_cons_of_mem l hk)
    rw [List.map_cons]
    by_cases hlength : m < l.length
    · have hne : l.drop m ≠ [] := by
        rw [Ne, List.drop_eq_nil_iff]
        omega
      rw [find?_cons_of_ne hne]
      cases hb : l.isBlank with
      | true =>
        rw [List.takeWhile_cons_of_pos hb]
        exact ⟨fun _ => ⟨l, List.mem_cons_self, hlength⟩, fun _ => ⟨_, rfl, hl.trans hb⟩⟩
      | false =>
        rw [List.takeWhile_cons_of_neg (by rw [hb]; exact Bool.false_ne_true)]
        constructor
        · rintro ⟨k, hk, hkb⟩
          rw [← Option.some.inj hk, hl, hb] at hkb
          cases hkb
        · rintro ⟨k, hk, -⟩
          cases hk
    · have hnil : l.drop m = [] := List.drop_eq_nil_iff.2 (Nat.le_of_not_lt hlength)
      have hb : l.isBlank = true := by
        rw [← hl, hnil]
        rfl
      rw [hnil, find?_cons_nil, List.takeWhile_cons_of_pos hb, ih]
      simp only [List.exists_mem_cons_iff, hlength, false_or]

/-- The ends of the cleaned text `out` of the lines `first :: rest`, where `m` is the margin of
`rest`: the lines `top` and `bottom` are blank only if they were longer than the margin. -/
structure HasEnds (first : Text) (rest : List Text) (m : Nat) (top bottom : Text) (out : Text) :
    Prop where
  leastIndent : IsLeastIndent m rest
  head_eq : out.lines.head? = some top
  last_eq : out.lines.getLast? = some bottom
  top_ne : top ≠ []
  bottom_ne : bottom ≠ []
  top_isBlank : top.isBlank = true ↔
    first.isBlank = true ∧ ∃ l ∈ rest.takeWhile isBlank, m < l.length
  bottom_isBlank : bottom.isBlank = true ↔ ∃ l ∈ rest.rtakeWhile isBlank, m < l.length

section Ends

variable (first : Text) (rest : List Text)

theorem exists_find?_shiftLines_iff :
    (∃ l, (shiftLines (first :: rest)).find? (!·.isEmpty) = some l ∧ l.isBlank = true) ↔
      first.isBlank = true ∧ ∃ l ∈ rest.takeWhile isBlank, margin rest < l.length := by
  rw [← exists_find?_drop_iff fun _ hl => isBlank_drop_margin hl, shiftLines]
  by_cases hfirst : first.isBlank = true
  · rw [trimStart_eq_nil_iff.2 hfirst, find?_cons_nil]
    exact (and_iff_right hfirst).symm
  · have hne : first.trimStart ≠ [] := mt trimStart_eq_nil_iff.1 hfirst
    rw [find?_cons_of_ne hne]
    constructor
    · rintro ⟨l, hl, hb⟩
      rw [← Option.some.inj hl] at hb
      exact absurd (isBlank_trimStart_eq_true_iff.1 hb) hne
    · rintro ⟨hb, -⟩
      exact absurd hb hfirst

theorem exists_find?_reverse_shiftLines_iff :
    (∃ l, (shiftLines (first :: rest)).reverse.find? (!·.isEmpty) = some l ∧ l.isBlank = true) ↔
      ∃ l ∈ rest.rtakeWhile isBlank, margin rest < l.length := by
  have hcut : ∀ l ∈ rest.reverse, isBlank (l.drop (margin rest)) = l.isBlank := fun l hl =>
    isBlank_drop_margin (List.mem_reverse.1 hl)
  have hmem : ∀ l, l ∈ rest.rtakeWhile isBlank ↔ l ∈ rest.reverse.takeWhile isBlank := fun l =>
    List.mem_reverse
  simp only [hmem]
  rw [← exists_find?_drop_iff hcut, shiftLines, List.reverse_cons, List.find?_append,
    List.map_reverse]
  constructor
  · rintro ⟨l, hl, hb⟩
    rcases Option.or_eq_some_iff.1 hl with hl | ⟨-, hl⟩
    · exact ⟨l, hl, hb⟩
    -- The first line is trimmed, so it is not blank if anything is left of it.
    · have hmem := List.mem_of_find?_eq_some hl
      have hne := List.find?_some hl
      rw [List.mem_singleton.1 hmem] at hb hne
      rw [isBlank_trimStart_eq_true_iff.1 hb] at hne
      exact absurd hne (by decide)
  · rintro ⟨l, hl, hb⟩
    exact ⟨l, Option.or_eq_some_iff.2 (.inl hl), hb⟩

end Ends

/-- A cleaned text has no empty line at its ends, and it has a blank one only where a blank line of
the text is longer than the margin. -/
theorem clean_ends (t : Text) (h : t.clean ≠ []) : ∃ first rest m top bottom,
    t.lines.map expandTabs = first :: rest ∧ HasEnds first rest m top bottom t.clean := by
  have hne : t.lines.map expandTabs ≠ [] := mt List.map_eq_nil_iff.1 (pieces_ne_nil '\n' t)
  obtain ⟨first, rest, hlines⟩ := List.exists_cons_of_ne_nil hne
  have hshifted : t.shifted = shiftLines (first :: rest) := by rw [shifted, hlines]
  have hblock : dropEmptyEnds t.shifted ≠ [] := fun hnil => h (congrArg unlines hnil)
  obtain ⟨top, htop⟩ := Option.ne_none_iff_exists'.1 (mt List.head?_eq_none_iff.1 hblock)
  obtain ⟨bottom, hbottom⟩ := Option.ne_none_iff_exists'.1 (mt List.getLast?_eq_none_iff.1 hblock)
  have hhead := exists_find?_shiftLines_iff first rest
  have hlast := exists_find?_reverse_shiftLines_iff first rest
  rw [← hshifted, ← head?_dropEmptyEnds_eq, htop] at hhead
  rw [← hshifted, ← getLast?_dropEmptyEnds_eq, hbottom] at hlast
  refine ⟨first, rest, margin rest, top, bottom, hlines, isLeastIndent_margin rest, ?_, ?_, ?_, ?_,
    ?_, ?_⟩
  · rw [lines_clean hblock, htop]
  · rw [lines_clean hblock, hbottom]
  · intro hnil
    exact head?_dropEmptyEnds _ (htop.trans (congrArg some hnil))
  · intro hnil
    exact getLast?_dropEmptyEnds _ (hbottom.trans (congrArg some hnil))
  · simpa only [Option.some.injEq, exists_eq_left'] using hhead
  · simpa only [Option.some.injEq, exists_eq_left'] using hlast

/-- A blank line at the end stays where no other line sets a margin. -/
theorem clean_blank_end : ¬ ∀ t : Text, t.clean ≠ [] → ∀ top bottom,
    t.clean.lines.head? = some top → t.clean.lines.getLast? = some bottom →
      top.isBlank = false ∧ bottom.isBlank = false := by
  intro h
  have hends := h "a\n  ".toList (by decide) "a".toList "  ".toList (by decide) (by decide)
  exact absurd hends.2 (by decide)

/-- Blank lines that are longer than the margin at both ends, and one that is not. -/
theorem clean_ends_long_blank_lines :
    let t : Text := "\n \n   \n  a\n\t\n".toList
    t.clean ≠ [] ∧ (∃ first rest m top bottom,
      t.lines.map expandTabs = first :: rest ∧ HasEnds first rest m top bottom t.clean) ∧
      t.clean = " \na\n      ".toList := by
  intro t
  have hne : t.clean ≠ [] := by decide
  exact ⟨hne, clean_ends t hne, by decide⟩

/-! ## Cleaning again -/

theorem isBlank_cons (c : Char) (t : Text) : isBlank (c :: t) = (isSpace c && isBlank t) :=
  List.all_cons

theorem isBlank_expandTabsFrom (column : Nat) (line : Text) :
    isBlank (expandTabsFrom column line) = line.isBlank := by
  induction line generalizing column with
  | nil => rfl
  | cons c line ih =>
    by_cases hc : c = '\t'
    · have htab : isSpace '\t' = true := by decide
      rw [hc, expandTabsFrom_tab, isBlank_append, isBlank_spaces, ih, isBlank_cons, htab]
    · rw [expandTabsFrom_cons_of_ne hc, isBlank_cons, isBlank_cons, ih]

theorem isBlank_expandTabs (line : Text) : isBlank (expandTabs line) = line.isBlank :=
  isBlank_expandTabsFrom 0 line

/-- Nothing is left of the margin. -/
theorem margin_drop_margin (ls : List Text) : margin (ls.map (·.drop (margin ls))) = 0 := by
  rcases (isLeastIndent_margin ls).attained with ⟨l, hl, hb, hindent⟩ | ⟨hzero, -⟩
  · have hle := (isLeastIndent_margin (ls.map (·.drop (margin ls)))).le _
      (List.mem_map_of_mem hl) ((isBlank_drop_margin hl).trans hb)
    have hsplit := congrArg List.length (indent_eq_take_append (Nat.le_of_eq hindent.symm))
    have htake : (l.take (margin ls)).length = margin ls :=
      List.length_take_of_le (hindent ▸ (List.takeWhile_sublist isSpace).length_le)
    rw [List.length_append, htake] at hsplit
    omega
  · have hdrop : ls.map (·.drop 0) = ls := List.map_id ls
    rw [hzero, hdrop, hzero]

theorem margin_append_of_empty (ls : List Text) {below : List Text} (h : ∀ l ∈ below, l = []) :
    margin (ls ++ below) = margin ls := by
  have hbelow : below.filter (!·.isBlank) = [] := by
    rw [List.filter_eq_nil_iff]
    intro l hl
    rw [h l hl]
    decide
  rw [margin, List.filter_append, hbelow, List.append_nil, margin]

theorem dropEmptyEnds_eq_self {ls : List Text} (hhead : ls.head? ≠ some [])
    (hlast : ls.getLast? ≠ some []) : dropEmptyEnds ls = ls := by
  have hbottom : ls.rdropWhile List.isEmpty = ls := by
    rw [List.rdropWhile_eq_self_iff]
    intro hne hempty
    rw [List.getLast?_eq_some_getLast hne, List.isEmpty_iff.1 hempty] at hlast
    exact hlast rfl
  rw [dropEmptyEnds_eq, hbottom]
  cases ls with
  | nil => rfl
  | cons l ls =>
    refine List.dropWhile_cons_of_neg fun hempty => hhead ?_
    rw [List.head?_cons, List.isEmpty_iff.1 hempty]

/-- A text is clean if it has no tab, its first line no indentation, the others no margin, and
neither end an empty line. -/
theorem clean_eq_self {t first : Text} {rest : List Text} (hlines : t.lines = first :: rest)
    (htab : '\t' ∉ t) (hfirst : first.trimStart = first) (hmargin : margin rest = 0)
    (hhead : first ≠ []) (hlast : (first :: rest).getLast? ≠ some []) : t.clean = t := by
  have hshift : shiftLines (first :: rest) = first :: rest := by
    have hdrop : rest.map (·.drop 0) = rest := List.map_id rest
    rw [shiftLines, hfirst, hmargin, hdrop]
  have hends : dropEmptyEnds (first :: rest) = first :: rest :=
    dropEmptyEnds_eq_self (mt Option.some.inj hhead) hlast
  rw [clean, map_expandTabs_lines htab, hlines, hshift, hends, ← hlines, unlines_lines]

/-- A first line that is not blank stays where it is. -/
theorem exists_dropEmptyEnds_cons {first : Text} (h : first ≠ []) (rest : List Text) :
    ∃ block below, dropEmptyEnds (first :: rest) = first :: block ∧ rest = block ++ below ∧
      ∀ l ∈ below, l = [] := by
  obtain ⟨above, below, hls, hempty⟩ := exists_dropEmptyEnds (first :: rest)
  cases above with
  | nil =>
    rw [List.nil_append] at hls hempty
    cases hblock : dropEmptyEnds (first :: rest) with
    | nil =>
      rw [hblock, List.nil_append] at hls
      exact absurd (hempty first (hls ▸ List.mem_cons_self)) h
    | cons l block =>
      rw [hblock, List.cons_append] at hls
      obtain ⟨rfl, hrest⟩ := List.cons.inj hls
      exact ⟨block, below, rfl, hrest, hempty⟩
  | cons l above =>
    obtain ⟨rfl, -⟩ := List.cons.inj hls
    exact absurd (hempty first List.mem_cons_self) h

/-- Cleaning a text again changes nothing, if the text does not start with a blank line. -/
theorem clean_clean (t : Text) {first : Text} {rest : List Text} (hlines : t.lines = first :: rest)
    (hfirst : first.isBlank = false) : t.clean.clean = t.clean := by
  have hne : (expandTabs first).trimStart ≠ [] := by
    rw [Ne, trimStart_eq_nil_iff, isBlank_expandTabs, hfirst]
    exact Bool.false_ne_true
  have hshifted : t.shifted = (expandTabs first).trimStart ::
      (rest.map expandTabs).map (·.drop (margin (rest.map expandTabs))) := by
    rw [shifted, hlines]
    rfl
  obtain ⟨block, below, hends, hrest, hempty⟩ := exists_dropEmptyEnds_cons hne
    ((rest.map expandTabs).map (·.drop (margin (rest.map expandTabs))))
  rw [← hshifted] at hends
  have hclean : t.clean.lines = (expandTabs first).trimStart :: block := by
    rw [lines_clean (hends ▸ List.cons_ne_nil _ _), hends]
  have hmargin : margin block = 0 := by
    rw [← margin_append_of_empty block hempty, ← hrest, margin_drop_margin]
  have hlast : ((expandTabs first).trimStart :: block).getLast? ≠ some [] := by
    rw [← hends]
    exact getLast?_dropEmptyEnds _
  exact clean_eq_self hclean (tab_not_mem_clean t) (List.dropWhile_idempotent isSpace _) hmargin hne
    hlast

/-- The margin is set by the last line, and blank lines of all lengths stand between and behind. -/
theorem clean_clean_blank_lines :
    let t : Text := "  Title\n\t  a\n\n        \n    b\n    ".toList
    t.lines = "  Title".toList :: t.lines.tail ∧ isBlank "  Title".toList = false ∧
      t.clean.clean = t.clean ∧ t.clean = "Title\n      a\n\n    \nb".toList := by
  intro t
  have hlines : t.lines = "  Title".toList :: t.lines.tail := by decide
  exact ⟨hlines, by decide, clean_clean t hlines (by decide), by decide⟩

-- Otherwise a line that keeps some of its indentation may become the first one.
example : clean "\n  a\n b".toList = " a\nb".toList ∧ clean " a\nb".toList = "a\nb".toList := by
  decide

end DocOutline.Text
