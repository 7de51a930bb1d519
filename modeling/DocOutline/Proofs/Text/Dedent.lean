import Mathlib.Data.List.Forall2
import DocOutline.Proofs.Text.Lines
import DocOutline.Proofs.Text.Margin

/-!
# Shared indentation

What a text starts with is shared by several texts exactly if it is a start of what they share
(`prefix_commonStart_iff`), so folding `commonStart` over the indentations gives the longest white
space that all lines start with (`isSharedIndent_sharedIndent`). A text keeps its dedented form when
its lines are moved to the right together (`dedent_of_shifted`); to dedent it twice is a case of
this, since a text is its dedented form moved to the right.
-/

namespace DocOutline.Text

/-! ## What texts start with -/

theorem commonStart_nil_left (b : Text) : commonStart [] b = [] := by
  cases b with
  | nil => rfl
  | cons d b => rfl

theorem commonStart_cons_self (c : Char) (a b : Text) :
    commonStart (c :: a) (c :: b) = c :: commonStart a b := by
  rw [commonStart, if_pos rfl]

theorem commonStart_cons_of_ne {c d : Char} (h : c ≠ d) (a b : Text) :
    commonStart (c :: a) (d :: b) = [] := by
  rw [commonStart, if_neg h]

/-- What two texts have in common is the longest start of both. -/
theorem prefix_commonStart_iff {w a b : Text} : w <+: commonStart a b ↔ w <+: a ∧ w <+: b := by
  induction w generalizing a b with
  | nil => exact ⟨fun _ => ⟨List.nil_prefix, List.nil_prefix⟩, fun _ => List.nil_prefix⟩
  | cons e w ih =>
    cases a with
    | nil =>
      rw [commonStart_nil_left]
      exact ⟨fun h => absurd (List.prefix_nil.1 h) (List.cons_ne_nil e w), fun h => h.1⟩
    | cons c a =>
      cases b with
      | nil => exact ⟨fun h => absurd (List.prefix_nil.1 h) (List.cons_ne_nil e w), fun h => h.2⟩
      | cons d b =>
        by_cases hcd : c = d
        · rw [hcd, commonStart_cons_self, List.cons_prefix_cons, List.cons_prefix_cons,
            List.cons_prefix_cons, ih]
          exact and_and_left
        · rw [commonStart_cons_of_ne hcd, List.cons_prefix_cons, List.cons_prefix_cons]
          constructor
          · exact fun h => absurd (List.prefix_nil.1 h) (List.cons_ne_nil e w)
          · exact fun h => absurd (h.1.1.symm.trans h.2.1) hcd

theorem prefix_foldl_commonStart_iff {w i : Text} {is : List Text} :
    w <+: is.foldl commonStart i ↔ ∀ a ∈ i :: is, w <+: a := by
  induction is generalizing i with
  | nil => exact List.forall_mem_singleton.symm
  | cons b is ih =>
    rw [List.foldl_cons, ih, List.forall_mem_cons, List.forall_mem_cons, List.forall_mem_cons,
      prefix_commonStart_iff, and_assoc]

theorem commonStart_append (v a b : Text) :
    commonStart (v ++ a) (v ++ b) = v ++ commonStart a b := by
  induction v with
  | nil => rfl
  | cons c v ih =>
    rw [List.cons_append, List.cons_append, commonStart_cons_self, ih, List.cons_append]

theorem foldl_commonStart_append (v i : Text) (is : List Text) :
    (is.map (v ++ ·)).foldl commonStart (v ++ i) = v ++ is.foldl commonStart i := by
  induction is generalizing i with
  | nil => rfl
  | cons b is ih => rw [List.map_cons, List.foldl_cons, List.foldl_cons, commonStart_append, ih]

/-! ## The white space that lines start with -/

theorem prefix_indent_iff {w l : Text} : w <+: l.indent ↔ w.isBlank = true ∧ w <+: l := by
  constructor
  · intro h
    have hindent : l.indent.isBlank = true := List.all_takeWhile
    rw [isBlank, List.all_eq_true] at hindent ⊢
    exact ⟨fun c hc => hindent c (h.subset hc), h.trans (List.takeWhile_prefix isSpace)⟩
  · rintro ⟨hw, rest, rfl⟩
    rw [indent_append hw]
    exact List.prefix_append w _

/-- The longest white space that the lines that are not blank start with; nothing if all of them
are blank. -/
structure IsSharedIndent (ls : List Text) (w : Text) : Prop where
  isBlank : w.isBlank = true
  starts : ∀ l ∈ ls, l.isBlank = false → w <+: l
  longest : (∃ l ∈ ls, l.isBlank = false) → ∀ v : Text, v.isBlank = true →
    (∀ l ∈ ls, l.isBlank = false → v <+: l) → v.length ≤ w.length
  of_blank : (∀ l ∈ ls, l.isBlank = true) → w = []

theorem blank_or_exists (ls : List Text) :
    (∀ l ∈ ls, l.isBlank = true) ∨ ∃ l ∈ ls, l.isBlank = false := by
  by_cases h : ∃ l ∈ ls, l.isBlank = false
  · exact .inr h
  · refine .inl fun l hl => ?_
    cases hblank : l.isBlank with
    | true => rfl
    | false => exact absurd ⟨l, hl, hblank⟩ h

theorem mem_filter_not_isBlank {ls : List Text} {l : Text} :
    l ∈ ls.filter (!·.isBlank) ↔ l ∈ ls ∧ l.isBlank = false := by
  rw [List.mem_filter, Bool.not_eq_true']

theorem sharedIndent_of_blank {ls : List Text} (h : ∀ l ∈ ls, l.isBlank = true) :
    sharedIndent ls = [] := by
  have hnone : ls.filter (!·.isBlank) = [] := by
    rw [List.filter_eq_nil_iff]
    intro l hl
    rw [h l hl]
    exact Bool.false_ne_true
  rw [sharedIndent, hnone]
  rfl

theorem sharedIndent_of_cons {ls ks : List Text} {k : Text}
    (h : ls.filter (!·.isBlank) = k :: ks) :
    sharedIndent ls = (ks.map indent).foldl commonStart k.indent := by
  rw [sharedIndent, h]
  rfl

theorem prefix_sharedIndent_iff {ls : List Text} (h : ∃ l ∈ ls, l.isBlank = false) {w : Text} :
    w <+: sharedIndent ls ↔ w.isBlank = true ∧ ∀ l ∈ ls, l.isBlank = false → w <+: l := by
  obtain ⟨l, hl⟩ := h
  have hmem := mem_filter_not_isBlank.2 hl
  obtain ⟨k, ks, hks⟩ := List.exists_cons_of_ne_nil (List.ne_nil_of_mem hmem)
  have hall : (∀ a ∈ k.indent :: ks.map indent, w <+: a) ↔
      ∀ l ∈ ls.filter (!·.isBlank), w.isBlank = true ∧ w <+: l := by
    rw [hks, ← List.map_cons, List.forall_mem_map]
    simp only [prefix_indent_iff]
  rw [sharedIndent_of_cons hks, prefix_foldl_commonStart_iff, hall]
  simp only [mem_filter_not_isBlank]
  constructor
  · exact fun h => ⟨(h l hl).1, fun k hk hblank => (h k ⟨hk, hblank⟩).2⟩
  · exact fun h k hk => ⟨h.1, h.2 k hk.1 hk.2⟩

theorem isSharedIndent_sharedIndent (ls : List Text) : IsSharedIndent ls (sharedIndent ls) := by
  rcases blank_or_exists ls with hall | hsome
  · rw [sharedIndent_of_blank hall]
    refine ⟨rfl, fun _ _ _ => List.nil_prefix, ?_, fun _ => rfl⟩
    rintro ⟨l, hl, hblank⟩
    cases hblank.symm.trans (hall l hl)
  · obtain ⟨hblank, hstarts⟩ := (prefix_sharedIndent_iff hsome).1 (List.prefix_refl _)
    refine ⟨hblank, hstarts, fun _ v hv hstarts' => ?_, fun hall => ?_⟩
    · exact ((prefix_sharedIndent_iff hsome).2 ⟨hv, hstarts'⟩).length_le
    · obtain ⟨l, hl, hblank⟩ := hsome
      cases hblank.symm.trans (hall l hl)

theorem IsSharedIndent.unique {ls : List Text} {v w : Text} (hv : IsSharedIndent ls v)
    (hw : IsSharedIndent ls w) : v = w := by
  rcases blank_or_exists ls with hall | hsome
  · rw [hv.of_blank hall, hw.of_blank hall]
  · have hlength : v.length = w.length :=
      Nat.le_antisymm (hw.longest hsome v hv.isBlank hv.starts)
        (hv.longest hsome w hw.isBlank hw.starts)
    obtain ⟨l, hl, hblank⟩ := hsome
    exact (List.prefix_of_prefix_length_le (hv.starts l hl hblank) (hw.starts l hl hblank)
      (Nat.le_of_eq hlength)).eq_of_length hlength

/-! ## Lines without their indentation -/

/-- What becomes of a line: nothing is left of a blank one, and every other one loses `w`. -/
inductive LosesIndent (w : Text) : Text → Text → Prop where
  | blank {l : Text} (h : l.isBlank = true) : LosesIndent w l []
  | indented {l : Text} (h : l.isBlank = false) : LosesIndent w (w ++ l) l

theorem LosesIndent.subset {w l k : Text} (h : LosesIndent w l k) : k ⊆ l := by
  cases h with
  | blank => exact List.nil_subset l
  | indented => exact List.subset_append_right w k

/-- A line of a dedented text. -/
def dedentLine (shared line : Text) : Text :=
  if line.isBlank then [] else (after? shared line).getD line

theorem dedentLine_of_blank {l : Text} (h : l.isBlank = true) (w : Text) : dedentLine w l = [] :=
  if_pos h

theorem dedentLine_append {w l : Text} (h : isBlank (w ++ l) = false) :
    dedentLine w (w ++ l) = l := by
  rw [dedentLine, h, after?_eq_some_iff.2 rfl]
  rfl

theorem losesIndent_dedentLine {w l : Text} (hw : w.isBlank = true)
    (h : l.isBlank = false → w <+: l) : LosesIndent w l (dedentLine w l) := by
  cases hl : l.isBlank with
  | true =>
    rw [dedentLine_of_blank hl]
    exact .blank hl
  | false =>
    obtain ⟨rest, rfl⟩ := h hl
    rw [dedentLine_append hl]
    rw [isBlank_append, hw] at hl
    exact .indented hl

theorem dedent_eq (t : Text) :
    dedent t = unlines (t.lines.map (dedentLine (sharedIndent t.lines))) := rfl

theorem lines_dedent (t : Text) :
    (dedent t).lines = t.lines.map (dedentLine (sharedIndent t.lines)) := by
  rw [dedent_eq]
  apply lines_unlines (mt List.map_eq_nil_iff.1 (pieces_ne_nil '\n' t))
  intro k hk hmem
  obtain ⟨l, hl, rfl⟩ := List.mem_map.1 hk
  have hshared := isSharedIndent_sharedIndent t.lines
  have hline := losesIndent_dedentLine hshared.isBlank (hshared.starts l hl)
  exact newline_not_mem_of_mem_lines hl (hline.subset hmem)

theorem losesIndent_lines_dedent (t : Text) :
    List.Forall₂ (LosesIndent (sharedIndent t.lines)) t.lines (dedent t).lines := by
  have hshared := isSharedIndent_sharedIndent t.lines
  rw [lines_dedent, List.forall₂_map_right_iff, List.forall₂_same]
  exact fun l hl => losesIndent_dedentLine hshared.isBlank (hshared.starts l hl)

/-! ## Lines moved to the right -/

/-- Two blank lines, or a line and the same one with `v` before it. -/
inductive Shifted (v : Text) : Text → Text → Prop where
  | blank {l k : Text} (hl : l.isBlank = true) (hk : k.isBlank = true) : Shifted v l k
  | moved {k : Text} (hk : k.isBlank = false) : Shifted v (v ++ k) k

theorem LosesIndent.shifted {w l k : Text} (h : LosesIndent w l k) : Shifted w l k := by
  cases h with
  | blank hl => exact .blank hl rfl
  | indented hk => exact .moved hk

/-- The line with `v` before it, unless it is blank. -/
def indentLine (v line : Text) : Text := if line.isBlank then line else v ++ line

theorem shifted_indentLine (v l : Text) : Shifted v (indentLine v l) l := by
  rw [indentLine]
  cases hl : l.isBlank with
  | true => exact .blank hl hl
  | false => exact .moved hl

section Shifted

variable {v : Text} {ls ks : List Text} (hv : v.isBlank = true) (h : List.Forall₂ (Shifted v) ls ks)

include hv h

theorem filter_of_shifted :
    ls.filter (!·.isBlank) = (ks.filter (!·.isBlank)).map (v ++ ·) := by
  induction h with
  | nil => rfl
  | cons hline _ ih =>
    cases hline with
    | blank hl hk =>
      rw [List.filter_cons_of_neg (by simp [hl]), List.filter_cons_of_neg (by simp [hk]), ih]
    | moved hk =>
      rw [List.filter_cons_of_pos (by simp [isBlank_append, hv, hk]),
        List.filter_cons_of_pos (by simp [hk]), ih, List.map_cons]

/-- The shared indentation grows by what the lines are moved. -/
theorem sharedIndent_of_shifted (hsome : ∃ k ∈ ks, k.isBlank = false) :
    sharedIndent ls = v ++ sharedIndent ks := by
  obtain ⟨k, hk⟩ := hsome
  have hmem := mem_filter_not_isBlank.2 hk
  obtain ⟨j, js, hjs⟩ := List.exists_cons_of_ne_nil (List.ne_nil_of_mem hmem)
  have hfilter := filter_of_shifted hv h
  rw [hjs, List.map_cons] at hfilter
  have hindents : (js.map (v ++ ·)).map indent = (js.map indent).map (v ++ ·) := by
    rw [List.map_map, List.map_map]
    exact List.map_congr_left fun l _ => indent_append hv l
  rw [sharedIndent_of_cons hfilter, sharedIndent_of_cons hjs, hindents, indent_append hv,
    foldl_commonStart_append]

theorem dedentLine_of_shifted {l k : Text} (hline : Shifted v l k) (hk : k ∈ ks) :
    dedentLine (sharedIndent ls) l = dedentLine (sharedIndent ks) k := by
  cases hline with
  | blank hl hk => rw [dedentLine_of_blank hl, dedentLine_of_blank hk]
  | moved hblank =>
    have hstart := (isSharedIndent_sharedIndent ks).starts k hk hblank
    have hshared := sharedIndent_of_shifted hv h ⟨k, hk, hblank⟩
    generalize sharedIndent ks = w at hstart hshared
    obtain ⟨rest, rfl⟩ := hstart
    have hmoved : isBlank (v ++ w ++ rest) = false := by
      rw [List.append_assoc, isBlank_append, hblank, Bool.and_false]
    rw [hshared, dedentLine_append hblank, ← List.append_assoc, dedentLine_append hmoved]

end Shifted

/-- Texts whose lines differ by a move to the right have the same dedented form. -/
theorem dedent_of_shifted {v t u : Text} (hv : v.isBlank = true)
    (h : List.Forall₂ (Shifted v) t.lines u.lines) : dedent t = dedent u := by
  have hmap : ∀ {ls ks : List Text}, List.Forall₂ (Shifted v) ls ks → ks ⊆ u.lines →
      ls.map (dedentLine (sharedIndent t.lines)) = ks.map (dedentLine (sharedIndent u.lines)) := by
    intro ls ks hlines hsubset
    induction hlines with
    | nil => rfl
    | cons hline _ ih =>
      rw [List.cons_subset] at hsubset
      rw [List.map_cons, List.map_cons, dedentLine_of_shifted hv h hline hsubset.1, ih hsubset.2]
  rw [dedent_eq, dedent_eq, hmap h (List.Subset.refl _)]

theorem dedent_indented {v : Text} (hv : v.isBlank = true) (hline : '\n' ∉ v) (t : Text) :
    dedent (unlines (t.lines.map (indentLine v))) = dedent t := by
  have hlines : (unlines (t.lines.map (indentLine v))).lines = t.lines.map (indentLine v) := by
    apply lines_unlines (mt List.map_eq_nil_iff.1 (pieces_ne_nil '\n' t))
    intro k hk
    obtain ⟨l, hl, rfl⟩ := List.mem_map.1 hk
    have hnot := newline_not_mem_of_mem_lines hl
    rw [indentLine]
    split
    · exact hnot
    · rw [List.mem_append, not_or]
      exact ⟨hline, hnot⟩
  apply dedent_of_shifted hv
  rw [hlines, List.forall₂_map_left_iff, List.forall₂_same]
  exact fun l _ => shifted_indentLine v l

/-- Dedenting empties the blank lines of a text and takes exactly the shared indentation off all
others, which always start with it. So it changes nothing when it is done again, and it does not
matter how far to the right the text stands. -/
theorem dedent_takes_sharedIndent (t : Text) :
    (∀ w, IsSharedIndent t.lines w ↔ w = sharedIndent t.lines) ∧
    List.Forall₂ (LosesIndent (sharedIndent t.lines)) t.lines (dedent t).lines ∧
    (∀ l ∈ t.lines, l.isBlank = false → after? (sharedIndent t.lines) l ≠ none) ∧
    dedent (dedent t) = dedent t ∧
    ∀ v : Text, v.isBlank = true → '\n' ∉ v →
      dedent (unlines (t.lines.map (indentLine v))) = dedent t := by
  have hshared := isSharedIndent_sharedIndent t.lines
  have hlines := losesIndent_lines_dedent t
  refine ⟨fun w => ⟨fun hw => hw.unique hshared, fun hw => hw ▸ hshared⟩, hlines,
    fun l hl hblank => ?_, ?_, fun v hv hline => dedent_indented hv hline t⟩
  · obtain ⟨rest, hrest⟩ := hshared.starts l hl hblank
    rw [after?_eq_some_iff.2 hrest.symm]
    exact Option.some_ne_none rest
  · exact (dedent_of_shifted hshared.isBlank (hlines.imp fun _ _ => LosesIndent.shifted)).symm

/-- A tab and a wide space before both lines, with a blank line between them. -/
theorem dedent_takes_sharedIndent_wide :
    let t : Text := "\t\u3000a\n \n\t\u3000 b"
    IsSharedIndent t.lines "\t\u3000" ∧ dedent t = "a\n\n b".toList ∧
    List.Forall₂ (LosesIndent "\t\u3000") t.lines (dedent t).lines ∧
    dedent (dedent t) = dedent t ∧
    isBlank " \t" = true ∧ '\n' ∉ " \t".toList ∧
    unlines (t.lines.map (indentLine " \t")) = " \t\t\u3000a\n \n \t\t\u3000 b".toList ∧
    dedent (unlines (t.lines.map (indentLine " \t"))) = dedent t := by
  intro t
  have hshared : sharedIndent t.lines = "\t\u3000".toList := by decide
  have hblank : isBlank " \t" = true := by decide
  have hline : '\n' ∉ " \t".toList := by decide
  obtain ⟨hindent, hlines, -, htwice, hmoved⟩ := dedent_takes_sharedIndent t
  rw [hshared] at hindent hlines
  exact ⟨(hindent _).2 rfl, by decide, hlines, htwice, hblank, hline, by decide,
    hmoved _ hblank hline⟩

end DocOutline.Text
