import DocOutline.Markup.Entry
import DocOutline.Proofs.Text.Span

/-!
# Preformatted docstrings

The layout wraps the docstring, searches it for the title of its sample code and makes its headings
bold, each time in the whole text. Nothing of this leaves a line, so that the block can be given by
the lines of the docstring (`docBlock_isPreformatted`).
-/

namespace DocOutline.Text

/-- Whether a line starts with a character other than white space. -/
def startsFull (line : Text) : Bool := line.head?.any (!isSpace ·)

theorem startsFull_iff {line : Text} :
    line.startsFull = true ↔ ∃ c t, line = c :: t ∧ isSpace c = false := by
  cases line with
  | nil => simp [startsFull]
  | cons c t => simp [startsFull]

end DocOutline.Text

namespace DocOutline.Markup

open Text SpanPattern

/-! ## Headings -/

/-- Whether a line is a heading: it is not indented and ends with a colon behind something else. -/
def isHeading (line : Text) : Bool :=
  line.startsFull && line.getLast? == some ':' && decide (2 ≤ line.length)

/-- A line of a docstring, in bold type if it is a heading. -/
def bold (line : Text) : Text := if isHeading line then "<b>" ++ line ++ "</b>" else line

theorem isHeading_iff {line : Text} : isHeading line = true ↔
    ∃ c content, line = c :: (content ++ [':']) ∧ isSpace c = false := by
  rw [isHeading, Bool.and_eq_true, Bool.and_eq_true, beq_iff_eq, decide_eq_true_iff,
    startsFull_iff]
  constructor
  · rintro ⟨⟨⟨c, t, rfl, hc⟩, hlast⟩, hlength⟩
    have ht : t ≠ [] := by
      rintro rfl
      exact absurd hlength (by simp)
    rw [List.getLast?_cons_of_ne_nil ht] at hlast
    obtain ⟨content, rfl⟩ := List.getLast?_eq_some_iff.1 hlast
    exact ⟨c, content, rfl, hc⟩
  · rintro ⟨c, content, rfl, hc⟩
    refine ⟨⟨⟨c, _, rfl, hc⟩, ?_⟩, ?_⟩
    · rw [← List.cons_append, List.getLast?_concat]
    · simp

theorem lines_retag_headings (t : Text) :
    (retagSpans "^" ":$" "<b>" ":</b>" t).lines = t.lines.map bold := by
  have hpattern : ofMarks? "^" ":$" = some (wholeLine [':']) := by decide
  rw [retagSpans, hpattern]
  apply lines_retag_wholeLine (by decide) (by decide) (by decide)
  · intro c content hc
    rw [bold, if_pos (isHeading_iff.2 ⟨c, content, rfl, hc⟩)]
    simp
  · intro line hline
    rw [bold, if_neg]
    rintro hheading
    obtain ⟨c, content, hcontent, hc⟩ := isHeading_iff.1 hheading
    exact absurd (hline c content hcontent) (ne_true_of_eq_false hc)

/-! ## Preformatted blocks -/

/-- The title of the sample code. -/
def examplesTitle : Text := "Examples:"

theorem examplesLine_eq : examplesLine = '\n' :: (examplesTitle ++ ['\n']) := by decide

theorem newline_not_mem_examplesTitle : '\n' ∉ examplesTitle := by decide

/-- Lines between an opening and a closing one. -/
def enclosed (opening closing : Text) (body : List Text) : List Text :=
  opening :: (body ++ [closing])

theorem lines_wrap (t : Text) : lines ('\n' :: (t ++ ['\n'])) = [] :: (t.lines ++ [[]]) := by
  have hlines := lines_line_append List.not_mem_nil (t ++ ['\n'])
  rwa [lines_append t []] at hlines

theorem replaceFirst_of_splitFirst? {old before rest t : Text} (new : Text)
    (h : splitFirst? old t = some (before, rest)) :
    replaceFirst old new t = before ++ new ++ rest := by
  rw [replaceFirst, h]

/-- The first line of the title in a text that has lines before and behind it. -/
theorem splitFirst?_examplesLine {t first : Text} {above below : List Text}
    (ht : t.lines = first :: (above ++ examplesTitle :: below)) (habove : examplesTitle ∉ above)
    (hbelow : below ≠ []) :
    splitFirst? examplesLine t = some (unlines (first :: above), unlines below) := by
  rw [← unlines_lines t, ht, examplesLine_eq]
  apply splitFirst?_line newline_not_mem_examplesTitle _ habove hbelow
  intro l hl
  rw [← ht] at hl
  exact newline_not_mem_of_mem_lines hl

theorem has_examplesLine_eq_false {t : Text} (h : examplesTitle ∉ t.lines) :
    Text.has examplesLine ('\n' :: (t ++ ['\n'])) = false := by
  have hnone : splitFirst? examplesLine ('\n' :: (t ++ ['\n'])) = none := by
    rw [← unlines_lines ('\n' :: (t ++ ['\n'])), lines_wrap, examplesLine_eq]
    apply splitFirst?_line_eq_none newline_not_mem_examplesTitle
    · intro l hl
      rw [← lines_wrap] at hl
      exact newline_not_mem_of_mem_lines hl
    · rwa [List.dropLast_concat]
  rw [Text.has, hnone]
  rfl

theorem has_examplesLine_eq_true {t : Text} {above below : List Text}
    (ht : t.lines = above ++ examplesTitle :: below) (habove : examplesTitle ∉ above) :
    Text.has examplesLine ('\n' :: (t ++ ['\n'])) = true := by
  have hlines : lines ('\n' :: (t ++ ['\n'])) =
      [] :: (above ++ examplesTitle :: (below ++ [[]])) := by
    rw [lines_wrap, ht, List.append_assoc, List.cons_append]
  rw [Text.has, splitFirst?_examplesLine hlines habove (by simp)]
  rfl

theorem lines_preformatted_of_not_mem {t : Text} (h : examplesTitle ∉ t.lines) :
    (preformatted ('\n' :: (t ++ ['\n']))).lines =
      enclosed "<pre>" "</pre>" ([] :: (t.lines ++ [[]])) := by
  have htext : "<pre>\n".toList ++ '\n' :: (t ++ ['\n']) ++ "\n</pre>".toList =
      "<pre>".toList ++ '\n' :: ('\n' :: (t ++ ['\n']) ++ '\n' :: "</pre>".toList) := by
    simp
  have hpre : '\n' ∉ "<pre>".toList := by decide
  have hend : '\n' ∉ "</pre>".toList := by decide
  rw [preformatted, if_neg (ne_true_of_eq_false (has_examplesLine_eq_false h)), htext,
    lines_line_append hpre, lines_append, lines_wrap, lines_of_not_mem hend]
  rfl

theorem lines_before_switch (t : Text) :
    lines ("<pre>\n".toList ++ '\n' :: (t ++ ['\n']) ++ "\n\n```".toList) =
      "<pre>".toList :: [] :: (t.lines ++ [[], [], "```".toList]) := by
  have htext : "<pre>\n".toList ++ '\n' :: (t ++ ['\n']) ++ "\n\n```".toList =
      "<pre>".toList ++ '\n' :: ('\n' :: (t ++ ['\n']) ++
        '\n' :: ([] ++ '\n' :: "```".toList)) := by
    simp
  have hpre : '\n' ∉ "<pre>".toList := by decide
  have hfence : '\n' ∉ "```".toList := by decide
  rw [htext, lines_line_append hpre, lines_append, lines_wrap, lines_line_append List.not_mem_nil,
    lines_of_not_mem hfence]
  simp

theorem lines_switch (before rest : Text) :
    lines (before ++ ("\n</pre>".toList ++ examplesLine ++ "```python\n".toList) ++ rest) =
      before.lines ++ "</pre>".toList :: examplesTitle :: "```python".toList :: rest.lines := by
  have htext : before ++ ("\n</pre>".toList ++ examplesLine ++ "```python\n".toList) ++ rest =
      before ++ '\n' :: ("</pre>".toList ++ '\n' :: (examplesTitle ++ '\n' ::
        ("```python".toList ++ '\n' :: rest))) := by
    rw [examplesLine_eq]
    simp
  have hend : '\n' ∉ "</pre>".toList := by decide
  have hfence : '\n' ∉ "```python".toList := by decide
  rw [htext, lines_append, lines_line_append hend, lines_line_append newline_not_mem_examplesTitle,
    lines_line_append hfence]

theorem lines_preformatted_of_mem {t : Text} {above below : List Text}
    (ht : t.lines = above ++ examplesTitle :: below) (habove : examplesTitle ∉ above) :
    (preformatted ('\n' :: (t ++ ['\n']))).lines =
      enclosed "<pre>" "</pre>" ([] :: above) ++
        examplesTitle :: enclosed "```python" "```" (below ++ [[], []]) := by
  have hlines : lines ("<pre>\n".toList ++ '\n' :: (t ++ ['\n']) ++ "\n\n```".toList) =
      "<pre>".toList :: ([] :: above ++ examplesTitle :: (below ++ [[], [], "```".toList])) := by
    rw [lines_before_switch, ht, List.append_assoc, List.cons_append, List.cons_append]
  have hfree : ∀ l ∈ "<pre>".toList :: ([] :: above ++ examplesTitle ::
      (below ++ [[], [], "```".toList])), '\n' ∉ l := by
    rw [← hlines]
    exact fun l => newline_not_mem_of_mem_lines
  have hnot : examplesTitle ∉ [] :: above := by
    rw [List.mem_cons, not_or]
    exact ⟨by decide, habove⟩
  have hbefore : lines (unlines ("<pre>".toList :: [] :: above)) = "<pre>".toList :: [] :: above :=
    lines_unlines (List.cons_ne_nil _ _) fun l hl => hfree l (List.mem_append_left _ hl)
  have hbehind : lines (unlines (below ++ [[], [], "```".toList])) =
      below ++ [[], [], "```".toList] :=
    lines_unlines (by simp) fun l hl =>
      hfree l (List.mem_cons_of_mem _ (List.mem_append_right _ (List.mem_cons_of_mem _ hl)))
  rw [preformatted, if_pos (has_examplesLine_eq_true ht habove), replaceFirst_of_splitFirst? _
    (splitFirst?_examplesLine hlines hnot (by simp)), lines_switch, hbefore, hbehind]
  simp [enclosed]

/-! ### The marks of a block -/

section Marks

variable {mark : Text}

/-- A line that no heading becomes. -/
def IsMark (mark : Text) : Prop :=
  isHeading mark = false ∧ ¬"<b>".toList <+: mark

instance : DecidablePred IsMark := fun _ => inferInstanceAs (Decidable (_ ∧ _))

theorem IsMark.bold_eq_iff (h : IsMark mark) (line : Text) : bold line = mark ↔ line = mark := by
  rw [bold]
  cases hheading : isHeading line with
  | true =>
    rw [if_pos rfl]
    constructor
    · rintro rfl
      exact absurd ⟨_, (List.append_assoc _ _ _).symm⟩ h.2
    · rintro rfl
      exact absurd hheading (ne_true_of_eq_false h.1)
  | false => rw [if_neg Bool.false_ne_true]

theorem IsMark.count_map_bold (h : IsMark mark) (ls : List Text) :
    (ls.map bold).count mark = ls.count mark := by
  rw [List.count_eq_countP, List.countP_map, List.count_eq_countP]
  apply List.countP_congr
  intro line _
  rw [Function.comp_apply, beq_iff_eq, beq_iff_eq, h.bold_eq_iff]

end Marks

/-- How the lines of a preformatted block come from the lines of a docstring. -/
structure IsPreformatted (ls out : List Text) : Prop where
  /-- The first title ends the block, and sample code follows. -/
  switched : examplesTitle ∈ ls → ∃ above below,
    ls = above ++ examplesTitle :: below ∧ examplesTitle ∉ above ∧
      out = enclosed "<pre>" "</pre>" ([] :: above.map bold) ++
        "<b>Examples:</b>".toList :: enclosed "```python" "```" (below.map bold ++ [[], []])
  plain : examplesTitle ∉ ls → out = enclosed "<pre>" "</pre>" ([] :: (ls.map bold ++ [[]]))
  pre_opened : out.count "<pre>".toList = ls.count "<pre>".toList + 1
  pre_closed : out.count "</pre>".toList = ls.count "</pre>".toList + 1
  code_opened : out.count "```python".toList =
    ls.count "```python".toList + if examplesTitle ∈ ls then 1 else 0
  code_closed : out.count "```".toList =
    ls.count "```".toList + if examplesTitle ∈ ls then 1 else 0

/-- The lines that a preformatted block adds to those of the docstring, with or without sample
code. -/
def addedLines (switched : Bool) : List Text :=
  if switched then
    ["<pre>", [], "</pre>", "<b>Examples:</b>", "```python", [], [], "```"]
  else ["<pre>", [], [], "</pre>"]

theorem count_addedLines (switched : Bool) :
    (addedLines switched).count "<pre>".toList = 1 ∧
      (addedLines switched).count "</pre>".toList = 1 ∧
      (addedLines switched).count "```python".toList = (if switched then 1 else 0) ∧
      (addedLines switched).count "```".toList = if switched then 1 else 0 := by
  cases switched <;> decide

end DocOutline.Markup

namespace DocOutline.Entry

open Markup Text

section Preformatted

variable {e : Entry} (h : e.subject = .functionDef .pre)

include h

theorem docBlock_pre : e.docBlock =
    retagSpans "^" ":$" "<b>" ":</b>" (preformatted ('\n' :: (e.docstring ++ ['\n']))) := by
  rw [docBlock, h]
  rfl

theorem lines_docBlock_of_mem {above below : List Text}
    (hlines : e.docstring.lines = above ++ examplesTitle :: below)
    (habove : examplesTitle ∉ above) : e.docBlock.lines =
      enclosed "<pre>" "</pre>" ([] :: above.map bold) ++
        "<b>Examples:</b>".toList :: enclosed "```python" "```" (below.map bold ++ [[], []]) := by
  rw [docBlock_pre h, lines_retag_headings, lines_preformatted_of_mem hlines habove]
  simp only [enclosed, List.map_append, List.map_cons, List.map_nil]
  rfl

theorem lines_docBlock_of_not_mem (hnot : examplesTitle ∉ e.docstring.lines) : e.docBlock.lines =
    enclosed "<pre>" "</pre>" ([] :: (e.docstring.lines.map bold ++ [[]])) := by
  rw [docBlock_pre h, lines_retag_headings, lines_preformatted_of_not_mem hnot]
  simp only [enclosed, List.map_append, List.map_cons, List.map_nil]
  rfl

theorem count_docBlock {mark : Text} (hmark : IsMark mark) (hne : mark ≠ examplesTitle) :
    e.docBlock.lines.count mark = e.docstring.lines.count mark +
      (addedLines (decide (examplesTitle ∈ e.docstring.lines))).count mark := by
  by_cases hmem : examplesTitle ∈ e.docstring.lines
  · obtain ⟨above, below, hlines, habove⟩ := List.eq_append_cons_of_mem hmem
    have hcount : (above ++ examplesTitle :: below).count mark =
        above.count mark + below.count mark := by
      rw [List.count_append, List.count_cons_of_ne (Ne.symm hne)]
    rw [lines_docBlock_of_mem h hlines habove, decide_eq_true hmem, hlines, hcount]
    simp only [addedLines, enclosed, List.count_append, List.count_cons, List.count_nil,
      hmark.count_map_bold, if_true]
    omega
  · rw [lines_docBlock_of_not_mem h hmem, decide_eq_false hmem]
    simp only [addedLines, enclosed, List.count_append, List.count_cons, List.count_nil,
      hmark.count_map_bold, Bool.false_eq_true, if_false]
    omega

end Preformatted

/-- A preformatted docstring, line by line: headings are bold, the first line `Examples:` turns the
rest into sample code, and the marks that are added come in pairs. -/
theorem docBlock_isPreformatted (e : Entry) (h : e.subject = .functionDef .pre) :
    IsPreformatted e.docstring.lines e.docBlock.lines := by
  obtain ⟨hpre, hend, hpython, hfence⟩ :=
    count_addedLines (decide (examplesTitle ∈ e.docstring.lines))
  simp only [decide_eq_true_eq] at hpython hfence
  constructor
  · intro hmem
    obtain ⟨above, below, hlines, habove⟩ := List.eq_append_cons_of_mem hmem
    exact ⟨above, below, hlines, habove, lines_docBlock_of_mem h hlines habove⟩
  · exact lines_docBlock_of_not_mem h
  · rw [count_docBlock h (by decide) (by decide), hpre]
  · rw [count_docBlock h (by decide) (by decide), hend]
  · rw [count_docBlock h (by decide) (by decide), hpython]
  · rw [count_docBlock h (by decide) (by decide), hfence]

/-- The title as the first line, as part of a line, indented, and again as the last line. -/
theorem docBlock_isPreformatted_repeated_title :
    let e : Entry := ⟨.functionDef .pre, "f()", "def f():",
      "Examples:\nSee Examples:\n Examples:\n:\nExamples:", 1⟩
    e.subject = .functionDef .pre ∧ IsPreformatted e.docstring.lines e.docBlock.lines ∧
      e.docBlock = ("<pre>\n\n</pre>\n<b>Examples:</b>\n```python\n" ++
        "<b>See Examples:</b>\n Examples:\n:\n<b>Examples:</b>\n\n\n```").toList := by
  intro e
  have hsubject : e.subject = .functionDef .pre := rfl
  exact ⟨hsubject, docBlock_isPreformatted e hsubject, by decide +kernel⟩

end DocOutline.Entry
