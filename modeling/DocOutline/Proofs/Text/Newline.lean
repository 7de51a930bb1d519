import DocOutline.Outline
import DocOutline.Proofs.Text.Lines
import Mathlib.Data.List.Chain

/-!
# Line ends

To replace the pairs first and the carriage returns that are left after that is to read the text
once, from left to right, with each line end as a line feed (`unifyNewlines_eq_readNewlines`). So
lines may be ended in any of the three ways, mixed at will, as long as a carriage return and a line
feed that end two lines do not come together as a pair (`WrittenLines.IsClear`).
-/

namespace DocOutline.Text

/-- One pass over a text, from left to right, in which a pair, and any other carriage return, is
read as one line feed. -/
def readNewlines : Text → Text
  | [] => []
  | '\r' :: '\n' :: t => '\n' :: readNewlines t
  | '\r' :: t => '\n' :: readNewlines t
  | c :: t => c :: readNewlines t

theorem readNewlines_pair (t : Text) :
    readNewlines ('\r' :: '\n' :: t) = '\n' :: readNewlines t := by
  rw [readNewlines]

theorem readNewlines_return {t : Text} (h : ∀ u, t ≠ '\n' :: u) :
    readNewlines ('\r' :: t) = '\n' :: readNewlines t := by
  rw [readNewlines]
  exact h

theorem readNewlines_cons_of_ne {c : Char} (hc : c ≠ '\r') (t : Text) :
    readNewlines (c :: t) = c :: readNewlines t := by
  rw [readNewlines]
  · exact fun u h _ => hc h
  · exact hc

/-! ## Two replacements as one pass -/

theorem not_isPrefixOf_pair {c : Char} {t : Text} (h : c = '\r' → ∀ u, t ≠ '\n' :: u) :
    ¬['\r', '\n'].isPrefixOf (c :: t) = true := by
  rw [List.isPrefixOf_iff_prefix]
  rintro ⟨u, hu⟩
  obtain ⟨rfl, rfl⟩ := List.cons.inj hu
  exact h rfl u rfl

theorem replaceAll_return_replaceAll_pair (t : Text) :
    replaceAll ['\r'] ['\n'] (replaceAll ['\r', '\n'] ['\n'] t) = readNewlines t := by
  rw [replaceAll_singleton, replaceAll, if_neg (List.cons_ne_nil _ _)]
  fun_induction readNewlines t with
  | case1 => rfl
  | case2 t ih => exact congrArg ('\n' :: ·) ih
  | case3 t hfeed ih =>
    rw [replaceFrom_of_not_isPrefixOf _ (not_isPrefixOf_pair fun _ => hfeed), List.map_cons, ih]
    rfl
  | case4 c t _ hreturn ih =>
    rw [replaceFrom_of_not_isPrefixOf _ (not_isPrefixOf_pair fun h => absurd h hreturn),
      List.map_cons, ih, if_neg hreturn]

theorem readNewlines_append {line : Text} (h : '\r' ∉ line) (t : Text) :
    readNewlines (line ++ t) = line ++ readNewlines t := by
  induction line with
  | nil => rfl
  | cons c line ih =>
    rw [List.mem_cons, not_or] at h
    rw [List.cons_append, readNewlines_cons_of_ne (Ne.symm h.1), ih h.2, List.cons_append]

theorem readNewlines_eq_self {t : Text} (h : '\r' ∉ t) : readNewlines t = t := by
  have happend := readNewlines_append h []
  rwa [List.append_nil, readNewlines, List.append_nil] at happend

theorem unifyNewlines_eq_readNewlines (t : Text) : unifyNewlines t = readNewlines t := by
  rw [unifyNewlines]
  split
  · exact replaceAll_return_replaceAll_pair t
  · next hreturn => exact (readNewlines_eq_self (by simpa using hreturn)).symm

theorem return_not_mem_readNewlines (t : Text) : '\r' ∉ readNewlines t := by
  fun_induction readNewlines t with
  | case1 => exact List.not_mem_nil
  | case2 t ih => simpa using ih
  | case3 t _ ih => simpa using ih
  | case4 c t _ hreturn ih => simpa using ⟨Ne.symm hreturn, ih⟩

/-! ## Lines ended in different ways -/

/-- The ways to end a line. -/
inductive LineEnd where
  | lineFeed
  | carriageReturn
  | pair
  deriving DecidableEq, Repr

/-- How the end of a line is written. -/
def LineEnd.text : LineEnd → Text
  | .lineFeed => ['\n']
  | .carriageReturn => ['\r']
  | .pair => ['\r', '\n']

/-- Lines, each behind the end of the line before it. -/
def writeLines (ls : List (LineEnd × Text)) : Text := ls.flatMap fun l => l.1.text ++ l.2

/-- The ends before and behind an empty line are a carriage return and a line feed, so that they are
read as a pair. -/
def MakesPair (l next : LineEnd × Text) : Prop :=
  l = (.carriageReturn, []) ∧ next.1 = .lineFeed

instance (l next : LineEnd × Text) : Decidable (MakesPair l next) :=
  inferInstanceAs (Decidable (_ ∧ _))

theorem writeLines_cons (l : LineEnd × Text) (ls : List (LineEnd × Text)) :
    writeLines (l :: ls) = l.1.text ++ (l.2 ++ writeLines ls) := by
  rw [writeLines, List.flatMap_cons, List.append_assoc]
  rfl

theorem readNewlines_lineEnd {e : LineEnd} {t : Text}
    (h : e = .carriageReturn → ∀ u, t ≠ '\n' :: u) :
    readNewlines (e.text ++ t) = '\n' :: readNewlines t := by
  cases e with
  | lineFeed => exact readNewlines_cons_of_ne (by decide) t
  | carriageReturn => exact readNewlines_return (h rfl)
  | pair => exact readNewlines_pair t

theorem starts_with_lineFeed_iff {l : Text} (hl : '\n' ∉ l) (ls : List (LineEnd × Text)) :
    (∃ u, l ++ writeLines ls = '\n' :: u) ↔ l = [] ∧ ∃ next ∈ ls.head?, next.1 = .lineFeed := by
  cases l with
  | cons c l =>
    rw [List.mem_cons, not_or] at hl
    simp [Ne.symm hl.1]
  | nil =>
    cases ls with
    | nil => simp [writeLines]
    | cons next ls =>
      rw [List.nil_append, writeLines_cons]
      rcases next with ⟨_ | _ | _, m⟩ <;> simp [LineEnd.text]

section Neighbours

variable {l next : LineEnd × Text} {ls : List (LineEnd × Text)}

theorem readNewlines_writeLines_cons (hl : '\r' ∉ l.2 ∧ '\n' ∉ l.2)
    (h : ∀ next ∈ ls.head?, ¬MakesPair l next) :
    readNewlines (writeLines (l :: ls)) = '\n' :: (l.2 ++ readNewlines (writeLines ls)) := by
  have hend : l.1 = .carriageReturn → ∀ u, l.2 ++ writeLines ls ≠ '\n' :: u := by
    intro he u hu
    obtain ⟨hempty, next, hnext, hfeed⟩ := (starts_with_lineFeed_iff hl.2 ls).1 ⟨u, hu⟩
    exact h next hnext ⟨Prod.ext he hempty, hfeed⟩
  rw [writeLines_cons, readNewlines_lineEnd hend, readNewlines_append hl.1]

/-- The line between the ends that make a pair is not read. -/
theorem readNewlines_writeLines_of_makesPair (hnext : next ∈ ls.head?) (h : MakesPair l next) :
    readNewlines (writeLines (l :: ls)) = readNewlines (writeLines ls) := by
  obtain ⟨rfl, hfeed⟩ := h
  have hstart := (starts_with_lineFeed_iff List.not_mem_nil ls).2 ⟨rfl, next, hnext, hfeed⟩
  rw [List.nil_append] at hstart
  obtain ⟨u, hu⟩ := hstart
  calc readNewlines (writeLines ((.carriageReturn, []) :: ls))
    _ = readNewlines ('\r' :: '\n' :: u) := by rw [writeLines_cons, hu]; rfl
    _ = readNewlines ('\n' :: u) := by
      rw [readNewlines_pair, readNewlines_cons_of_ne (by decide)]
    _ = readNewlines (writeLines ls) := by rw [hu]

theorem length_readNewlines_writeLines_le (h : ∀ l ∈ ls, '\r' ∉ l.2 ∧ '\n' ∉ l.2) :
    (readNewlines (writeLines ls)).length ≤ (ls.flatMap fun l => '\n' :: l.2).length := by
  induction ls with
  | nil => exact Nat.le_refl 0
  | cons l ls ih =>
    have ih := ih fun k hk => h k (List.mem_cons_of_mem l hk)
    rw [List.flatMap_cons, List.length_append, List.length_cons]
    by_cases hpair : ∃ next ∈ ls.head?, MakesPair l next
    · obtain ⟨next, hnext, hmakes⟩ := hpair
      rw [readNewlines_writeLines_of_makesPair hnext hmakes]
      omega
    · rw [readNewlines_writeLines_cons (h l List.mem_cons_self)
        fun next hnext hmakes => hpair ⟨next, hnext, hmakes⟩, List.length_cons, List.length_append]
      omega

/-- The lines that are read are those that were written, unless a pair comes about where two lines
end. -/
theorem readNewlines_writeLines_iff (h : ∀ l ∈ ls, '\r' ∉ l.2 ∧ '\n' ∉ l.2) :
    readNewlines (writeLines ls) = (ls.flatMap fun l => '\n' :: l.2) ↔
      ls.IsChain fun l next => ¬MakesPair l next := by
  induction ls with
  | nil => exact ⟨fun _ => .nil, fun _ => rfl⟩
  | cons l ls ih =>
    have hls : ∀ k ∈ ls, '\r' ∉ k.2 ∧ '\n' ∉ k.2 := fun k hk => h k (List.mem_cons_of_mem l hk)
    rw [List.flatMap_cons, List.isChain_cons]
    by_cases hpair : ∃ next ∈ ls.head?, MakesPair l next
    · -- one end is lost, and the lines below cannot make up for it
      obtain ⟨next, hnext, hmakes⟩ := hpair
      refine ⟨fun heq => ?_, fun hchain => absurd hmakes (hchain.1 next hnext)⟩
      rw [readNewlines_writeLines_of_makesPair hnext hmakes] at heq
      have hle := length_readNewlines_writeLines_le hls
      rw [heq, List.length_append, List.length_cons] at hle
      omega
    · have hapart : ∀ next ∈ ls.head?, ¬MakesPair l next := fun next hnext hmakes =>
        hpair ⟨next, hnext, hmakes⟩
      rw [readNewlines_writeLines_cons (h l List.mem_cons_self) hapart, List.cons_append,
        List.cons.injEq, List.append_cancel_left_eq, ih hls]
      exact ⟨fun hchain => ⟨hapart, hchain.2⟩, fun hchain => ⟨rfl, hchain.2⟩⟩

end Neighbours

/-- Lines as they are written: the first one, and each other line behind the end of the line before
it. -/
structure WrittenLines where
  first : Text
  others : List (LineEnd × Text)
  unbroken : ∀ l ∈ first :: others.map Prod.snd, '\r' ∉ l ∧ '\n' ∉ l

namespace WrittenLines

/-- The lines without their ends. -/
def lines (w : WrittenLines) : List Text := w.first :: w.others.map Prod.snd

/-- The lines with their ends between them. -/
def text (w : WrittenLines) : Text := w.first ++ writeLines w.others

/-- No line ends with a carriage return right before the line feed that ends the next line. -/
def IsClear (w : WrittenLines) : Prop := w.others.IsChain fun l next => ¬MakesPair l next

instance (w : WrittenLines) : Decidable w.IsClear :=
  inferInstanceAs (Decidable (List.IsChain _ _))

theorem unlines_lines_eq (w : WrittenLines) :
    unlines w.lines = w.first ++ w.others.flatMap fun l => '\n' :: l.2 := by
  rw [lines]
  generalize w.first = first
  induction w.others generalizing first with
  | nil => rw [List.map_nil, unlines_singleton, List.flatMap_nil, List.append_nil]
  | cons l ls ih => rw [List.map_cons, unlines_cons_cons, ih, List.flatMap_cons, List.cons_append]

theorem unifyNewlines_text_iff (w : WrittenLines) :
    unifyNewlines w.text = unlines w.lines ↔ w.IsClear := by
  have hothers : ∀ l ∈ w.others, '\r' ∉ l.2 ∧ '\n' ∉ l.2 := fun l hl =>
    w.unbroken l.2 (List.mem_cons_of_mem _ (List.mem_map_of_mem hl))
  have hfirst := (w.unbroken w.first List.mem_cons_self).1
  rw [unifyNewlines_eq_readNewlines, text, readNewlines_append hfirst, unlines_lines_eq,
    List.append_cancel_left_eq, readNewlines_writeLines_iff hothers, IsClear]

end WrittenLines

end DocOutline.Text

namespace DocOutline

open Text

/-- To unify line ends is to read the text once. No carriage return is left, so to do it twice is to
do it once. Lines that are written with any ends are the lines of the unified text, exactly if no
two ends make a pair, and so the outline does not depend on the ends. -/
theorem unifyNewlines_of_mixed_ends (options : OutlineOptions) (t : Text) (w v : WrittenLines) :
    unifyNewlines t = readNewlines t ∧ '\r' ∉ unifyNewlines t ∧
    unifyNewlines (unifyNewlines t) = unifyNewlines t ∧
    (unifyNewlines w.text = unlines w.lines ↔ w.IsClear) ∧
    (w.IsClear → v.IsClear → w.lines = v.lines →
      outline options w.text = outline options v.text) := by
  have hreturn : '\r' ∉ unifyNewlines t := by
    rw [unifyNewlines_eq_readNewlines]
    exact return_not_mem_readNewlines t
  refine ⟨unifyNewlines_eq_readNewlines t, hreturn, ?_, w.unifyNewlines_text_iff, ?_⟩
  · rw [unifyNewlines_eq_readNewlines (unifyNewlines t), readNewlines_eq_self hreturn]
  · intro hw hv hlines
    have hsame : unifyNewlines w.text = unifyNewlines v.text := by
      rw [w.unifyNewlines_text_iff.2 hw, v.unifyNewlines_text_iff.2 hv, hlines]
    rw [outline, outline, hsame]

/-- A carriage return right before a pair ends a line of its own. -/
theorem outline_of_three_ends :
    ∃ w v : WrittenLines, w.text = "def f():\r\n  'a'\r\r\n\nx = 1".toList ∧
      v.text = "def f():\n  'a'\n\n\nx = 1".toList ∧ w.IsClear ∧ v.IsClear ∧ w.lines = v.lines ∧
      ∀ options, outline options w.text = outline options v.text := by
  let w : WrittenLines := ⟨"def f():", [(.pair, "  'a'"), (.carriageReturn, []), (.pair, []),
    (.lineFeed, "x = 1")], by decide⟩
  let v : WrittenLines := ⟨"def f():", [(.lineFeed, "  'a'"), (.lineFeed, []), (.lineFeed, []),
    (.lineFeed, "x = 1")], by decide⟩
  have hw : w.IsClear := by decide
  have hv : v.IsClear := by decide
  have hlines : w.lines = v.lines := rfl
  refine ⟨w, v, rfl, rfl, hw, hv, hlines, fun options => ?_⟩
  exact (unifyNewlines_of_mixed_ends options w.text w v).2.2.2.2 hw hv hlines

example : unifyNewlines "a\r\r\n\n\rb" = "a\n\n\n\nb".toList := by decide

end DocOutline
