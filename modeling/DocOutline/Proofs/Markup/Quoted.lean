import DocOutline.Proofs.Markup.Preformatted

/-!
# Quoted docstrings

A line is quoted if it does not start with white space once every four spaces are replaced. This
takes care of an indentation that starts with four spaces only, so the other indented lines stay
outside of the quotation (`docBlock_quoted_iff`).
-/

namespace DocOutline.Markup

open Text SpanPattern

/-! ## The lines of a quotation -/

/-- A line in a quotation, if it starts with something other than white space. -/
def quoteLine (line : Text) : Text :=
  if line.startsFull then "> " ++ line ++ "<br />" else line

/-- The line of a quoted block that a line of the docstring becomes. -/
def quoted (line : Text) : Text := quoteLine (bold (replaceAll "    " hardIndent line))

theorem lines_retag_quotation (t : Text) :
    (retagSpans "^" "$" "> " "<br />" t).lines = t.lines.map quoteLine := by
  have hpattern : ofMarks? "^" "$" = some (wholeLine []) := by decide
  rw [retagSpans, hpattern]
  apply lines_retag_wholeLine List.not_mem_nil (by decide) (by decide)
  · intro c content hc
    rw [List.append_nil, quoteLine, if_pos (startsFull_iff.2 ⟨c, content, rfl, hc⟩)]
  · intro line hline
    rw [quoteLine, if_neg]
    intro hfull
    obtain ⟨c, content, hcontent, hc⟩ := startsFull_iff.1 hfull
    exact absurd (hline c content (by rw [List.append_nil, hcontent])) (ne_true_of_eq_false hc)

theorem newline_not_mem_hardIndent : '\n' ∉ hardIndent := by decide +kernel

theorem lines_replaceAll_indent (t : Text) : (replaceAll "    " hardIndent t).lines =
    t.lines.map (replaceAll "    " hardIndent) := by
  apply (isLineWise_replaceAll hardIndent (by decide)).lines_eq
  intro l hl
  refine ⟨rfl, fun hmem => ?_⟩
  rcases mem_replaceAll hardIndent hmem with hmem | hmem
  · exact newline_not_mem_hardIndent hmem
  · exact newline_not_mem_of_mem_lines hl hmem

/-! ## Which lines are quoted -/

theorem startsFull_cons (c : Char) (t : Text) : startsFull (c :: t) = !isSpace c := rfl

theorem startsFull_bold (line : Text) : (bold line).startsFull = line.startsFull := by
  rw [bold]
  split
  · next hheading =>
    rw [isHeading, Bool.and_eq_true, Bool.and_eq_true] at hheading
    rw [hheading.1.1]
    rfl
  · rfl

theorem startsFull_replaceAll_indent (line : Text) :
    (replaceAll "    " hardIndent line).startsFull = true ↔
      line.startsFull = true ∨ "    ".toList <+: line := by
  rw [replaceAll, if_neg (by decide)]
  cases line with
  | nil => decide
  | cons c t =>
    by_cases hspaces : List.isPrefixOf "    ".toList (c :: t) = true
    · rw [replaceFrom_of_isPrefixOf hardIndent hspaces]
      exact ⟨fun _ => .inr (List.isPrefixOf_iff_prefix.1 hspaces), fun _ => rfl⟩
    · rw [replaceFrom_of_not_isPrefixOf hardIndent hspaces, startsFull_cons, startsFull_cons]
      rw [List.isPrefixOf_iff_prefix] at hspaces
      exact (or_iff_left hspaces).symm

theorem quoteLine_iff (line : Text) :
    "> ".toList <+: quoteLine line ∧ "<br />".toList <:+ quoteLine line ↔
      line.startsFull = true := by
  rw [quoteLine]
  by_cases hfull : line.startsFull = true
  · rw [if_pos hfull]
    refine ⟨fun _ => hfull, fun _ => ⟨⟨line ++ "<br />".toList, ?_⟩, List.suffix_append _ _⟩⟩
    rw [List.append_assoc]
  · rw [if_neg hfull]
    refine ⟨fun ⟨⟨rest, hrest⟩, _⟩ => ?_, fun h => absurd h hfull⟩
    rw [← hrest]
    rfl

theorem quoted_iff (line : Text) :
    "> ".toList <+: quoted line ∧ "<br />".toList <:+ quoted line ↔
      line.startsFull = true ∨ "    ".toList <+: line := by
  rw [quoted, quoteLine_iff, startsFull_bold, startsFull_replaceAll_indent]

end DocOutline.Markup

namespace DocOutline.Entry

open Markup Text

/-- A quoted docstring, line by line: a line is quoted if it starts with something other than white
space or with four spaces, so that lines indented otherwise are left out of the quotation. -/
theorem docBlock_quoted_iff (e : Entry) (h : e.subject = .functionDef .quote) :
    e.docBlock.lines = [] :: (e.docstring.lines.map quoted ++ [[]]) ∧
      ∀ l ∈ e.docstring.lines, "> ".toList <+: quoted l ∧ "<br />".toList <:+ quoted l ↔
        l.startsFull = true ∨ "    ".toList <+: l := by
  have hblock : e.docBlock = retagSpans "^" "$" "> " "<br />" (retagSpans "^" ":$" "<b>" ":</b>"
      (replaceAll "    " hardIndent ('\n' :: (e.docstring ++ ['\n'])))) := by
    rw [docBlock, h]
    rfl
  have hnil : quoted [] = [] := by decide
  have hquoted : (quoteLine ∘ bold) ∘ replaceAll "    " hardIndent = quoted := rfl
  refine ⟨?_, fun l _ => quoted_iff l⟩
  rw [hblock, lines_retag_quotation, lines_retag_headings, lines_replaceAll_indent, lines_wrap,
    List.map_map, List.map_map, hquoted, List.map_cons, List.map_append, List.map_singleton, hnil]

/-- Lines that are not indented or by four columns at least, and two that are indented otherwise. -/
theorem docBlock_quoted_indented_lines :
    let e : Entry := ⟨.functionDef .quote, "f()", "def f():", "a:\n  b\n\n     c\n\td", 1⟩
    e.subject = .functionDef .quote ∧
      (e.docBlock.lines = [] :: (e.docstring.lines.map quoted ++ [[]]) ∧
        ∀ l ∈ e.docstring.lines, "> ".toList <+: quoted l ∧ "<br />".toList <:+ quoted l ↔
          l.startsFull = true ∨ "    ".toList <+: l) ∧
      e.docBlock = "\n> <b>a:</b><br />\n  b\n\n> ".toList ++ hardIndent ++
        " c<br />\n\td\n".toList := by
  intro e
  have hsubject : e.subject = .functionDef .quote := rfl
  exact ⟨hsubject, docBlock_quoted_iff e hsubject, by decide +kernel⟩

end DocOutline.Entry
