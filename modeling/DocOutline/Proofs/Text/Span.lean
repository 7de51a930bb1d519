import DocOutline.Proofs.Text.Lines
import DocOutline.Text.Span

/-!
# Spans of lines

A span does not leave its line, and the pass starts afresh on each line, so the spans of a text are
those of its lines (`isLineWise_retag`). A pattern that is tied to both ends of a line has at most
one span there, which is the line without its closing mark (`lines_retag_wholeLine`).
-/

namespace DocOutline.SpanPattern

open Text

variable {p : SpanPattern} {line : Text}

/-! ## Where a span ends -/

/-- Whether a span may end before `rest`. -/
def endsBefore (p : SpanPattern) (rest : Text) : Bool :=
  !p.atLineEnd || rest.head?.all (· == '\n')

theorem closed?_eq (p : SpanPattern) (t : Text) :
    p.closed? t = (after? p.closing t).filter p.endsBefore := by
  rw [closed?]
  cases after? p.closing t with
  | none => rfl
  | some rest =>
    cases rest with
    | nil =>
      have hend : p.endsBefore [] = true := Bool.or_true _
      exact (Option.filter_some_pos hend).symm
    | cons c rest =>
      cases hend : p.atLineEnd <;> cases hc : c == '\n' <;>
        simp [Option.filter, endsBefore, hend, hc, bne]

theorem stretch?_newline (t : Text) :
    p.stretch? ('\n' :: t) = (p.closed? ('\n' :: t)).map ([], ·) := by
  rw [stretch?, if_pos rfl]

theorem stretch?_cons {c : Char} (hc : c ≠ '\n') (t : Text) : p.stretch? (c :: t) =
    ((p.stretch? t).map (Prod.map (c :: ·) id)).or ((p.closed? (c :: t)).map ([], ·)) := by
  rw [stretch?, if_neg hc]
  cases p.stretch? t with
  | none => rfl
  | some s => rfl

theorem isSome_stretch? {t : Text} (h : (p.closed? t).isSome = true) :
    (p.stretch? t).isSome = true := by
  cases t with
  | nil => rwa [stretch?, Option.isSome_map]
  | cons c t =>
    by_cases hc : c = '\n'
    · rw [hc] at h ⊢
      rwa [stretch?_newline, Option.isSome_map]
    · rw [stretch?_cons hc, Option.isSome_or, Option.isSome_map (x := p.closed? _), h, Bool.or_true]

/-- The content of a span behind its opening mark, and what follows the span. -/
def content? (p : SpanPattern) : Text → Option (Text × Text)
  | [] => none
  | c :: t => if isSpace c then none else (p.stretch? t).map (Prod.map (c :: ·) id)

theorem content?_of_isSpace {c : Char} (hc : isSpace c = true) (t : Text) :
    p.content? (c :: t) = none :=
  if_pos hc

theorem content?_cons {c : Char} (hc : isSpace c = false) (t : Text) :
    p.content? (c :: t) = (p.stretch? t).map (Prod.map (c :: ·) id) :=
  if_neg (ne_true_of_eq_false hc)

theorem span?_eq (p : SpanPattern) (fresh : Bool) (t : Text) :
    p.span? fresh t = (p.opened? fresh t).bind p.content? := by
  rw [span?]
  cases p.opened? fresh t with
  | none => rfl
  | some u =>
    cases u with
    | nil => rfl
    | cons c u => rfl

theorem opened?_of_fresh (p : SpanPattern) (t : Text) : p.opened? true t = after? p.opening t := by
  rw [opened?, Bool.not_true, Bool.and_false]
  rfl

theorem opened?_of_not_fresh (h : p.atLineStart = true) (t : Text) :
    p.opened? false t = none := by
  rw [opened?, h]
  rfl

theorem suffix_of_opened? {fresh : Bool} {t u : Text} (h : p.opened? fresh t = some u) :
    u <:+ t := by
  rw [opened?] at h
  split at h
  · cases h
  · exact ⟨p.opening, (after?_eq_some_iff.1 h).symm⟩

theorem span?_nil (p : SpanPattern) (fresh : Bool) : p.span? fresh [] = none := by
  rw [span?_eq]
  cases h : p.opened? fresh [] with
  | none => rfl
  | some u =>
    rw [List.suffix_nil.1 (suffix_of_opened? h)]
    rfl

/-! ## Spans of a text and of its lines -/

theorem closed?_append (hclosing : '\n' ∉ p.closing) (line rest : Text) :
    p.closed? (line ++ '\n' :: rest) = (p.closed? line).map (· ++ '\n' :: rest) := by
  have hends : p.endsBefore ∘ (· ++ '\n' :: rest) = p.endsBefore := by
    funext t
    cases t with
    | nil => rfl
    | cons c t => rfl
  rw [closed?_eq, closed?_eq, after?_append hclosing, Option.filter_map, hends]

theorem stretch?_append (hclosing : '\n' ∉ p.closing) (hline : '\n' ∉ line) (rest : Text) :
    p.stretch? (line ++ '\n' :: rest) =
      (p.stretch? line).map (Prod.map id (· ++ '\n' :: rest)) := by
  induction line with
  | nil =>
    have hclosed := closed?_append hclosing [] rest
    rw [List.nil_append] at hclosed ⊢
    rw [stretch?_newline, hclosed, stretch?, Option.map_map, Option.map_map]
    rfl
  | cons c line ih =>
    have hclosed := closed?_append hclosing (c :: line) rest
    rw [List.mem_cons, not_or] at hline
    rw [List.cons_append] at hclosed ⊢
    rw [stretch?_cons (Ne.symm hline.1), stretch?_cons (Ne.symm hline.1), ih hline.2, hclosed,
      Option.map_or]
    simp only [Option.map_map]
    rfl

theorem opened?_append (hopening : '\n' ∉ p.opening) (fresh : Bool) (line rest : Text) :
    p.opened? fresh (line ++ '\n' :: rest) = (p.opened? fresh line).map (· ++ '\n' :: rest) := by
  rw [opened?, opened?]
  by_cases hfresh : (p.atLineStart && !fresh) = true
  · rw [if_pos hfresh, if_pos hfresh, Option.map_none]
  · rw [if_neg hfresh, if_neg hfresh, after?_append hopening]

theorem content?_append (hclosing : '\n' ∉ p.closing) (hline : '\n' ∉ line) (rest : Text) :
    p.content? (line ++ '\n' :: rest) =
      (p.content? line).map (Prod.map id (· ++ '\n' :: rest)) := by
  cases line with
  | nil => exact content?_of_isSpace (by decide) rest
  | cons c line =>
    rw [List.mem_cons, not_or] at hline
    rw [List.cons_append]
    cases hc : isSpace c with
    | true => rw [content?_of_isSpace hc, content?_of_isSpace hc, Option.map_none]
    | false =>
      rw [content?_cons hc, content?_cons hc, stretch?_append hclosing hline.2, Option.map_map,
        Option.map_map]
      rfl

theorem span?_append (hopening : '\n' ∉ p.opening) (hclosing : '\n' ∉ p.closing)
    (hline : '\n' ∉ line) (fresh : Bool) (rest : Text) :
    p.span? fresh (line ++ '\n' :: rest) =
      (p.span? fresh line).map (Prod.map id (· ++ '\n' :: rest)) := by
  rw [span?_eq, span?_eq, opened?_append hopening]
  cases hopened : p.opened? fresh line with
  | none => rfl
  | some t =>
    have ht : '\n' ∉ t := fun h => hline ((suffix_of_opened? hopened).mem h)
    exact content?_append hclosing ht rest

variable (openTag closeTag : Text)

theorem retagFrom_of_span {fresh : Bool} {c : Char} {t content rest : Text}
    (h : p.span? fresh (c :: t) = some (content, rest)) :
    p.retagFrom openTag closeTag fresh 0 (c :: t) = openTag ++ content ++ closeTag ++
      p.retagFrom openTag closeTag (c == '\n') (t.length - rest.length) t := by
  rw [retagFrom, h]

theorem retagFrom_of_none {fresh : Bool} {c : Char} {t : Text}
    (h : p.span? fresh (c :: t) = none) : p.retagFrom openTag closeTag fresh 0 (c :: t) =
      c :: p.retagFrom openTag closeTag (c == '\n') 0 t := by
  rw [retagFrom, h]

theorem retagFrom_append (hopening : '\n' ∉ p.opening) (hclosing : '\n' ∉ p.closing)
    (hline : '\n' ∉ line) {fresh : Bool} {skip : Nat} (hskip : skip ≤ line.length) (rest : Text) :
    p.retagFrom openTag closeTag fresh skip (line ++ '\n' :: rest) =
      p.retagFrom openTag closeTag fresh skip line ++
        '\n' :: p.retagFrom openTag closeTag true 0 rest := by
  induction line generalizing fresh skip with
  | nil =>
    obtain rfl : skip = 0 := Nat.le_zero.1 hskip
    have hspan := span?_append hopening hclosing hline fresh rest
    rw [span?_nil] at hspan
    exact retagFrom_of_none openTag closeTag hspan
  | cons c line ih =>
    have hspan := span?_append hopening hclosing hline fresh rest
    rw [List.mem_cons, not_or] at hline
    cases skip with
    | succ skip => exact ih hline.2 (Nat.le_of_succ_le_succ hskip)
    | zero =>
      rw [List.cons_append] at hspan ⊢
      cases hs : p.span? fresh (c :: line) with
      | none =>
        rw [hs] at hspan
        rw [retagFrom_of_none openTag closeTag hs, retagFrom_of_none openTag closeTag hspan,
          ih hline.2 (Nat.zero_le _), List.cons_append]
      | some s =>
        rw [hs] at hspan
        have hlength : (line ++ '\n' :: rest).length - (s.2 ++ '\n' :: rest).length =
            line.length - s.2.length := by
          rw [List.length_append, List.length_append]
          omega
        rw [retagFrom_of_span openTag closeTag hs, retagFrom_of_span openTag closeTag hspan, id,
          hlength, ih hline.2 (Nat.sub_le _ _)]
        simp only [List.append_assoc]

/-- The spans of a text are the spans of its lines. -/
theorem isLineWise_retag (hopening : '\n' ∉ p.opening) (hclosing : '\n' ∉ p.closing) :
    IsLineWise (p.retag openTag closeTag) := fun _ rest hline =>
  retagFrom_append openTag closeTag hopening hclosing hline (Nat.zero_le _) rest

/-! ## Patterns tied to both ends of a line -/

/-- The pattern whose span is a line up to a mark at its end. -/
def wholeLine (closing : Text) : SpanPattern := ⟨true, [], closing, true⟩

section WholeLine

variable {closing : Text}

theorem closed?_wholeLine {t rest : Text} (ht : '\n' ∉ t) :
    (wholeLine closing).closed? t = some rest ↔ t = closing ∧ rest = [] := by
  rw [closed?_eq, Option.filter_eq_some_iff, after?_eq_some_iff]
  constructor
  · rintro ⟨h, hends⟩
    change t = closing ++ rest at h
    cases rest with
    | nil => exact ⟨h.trans (List.append_nil _), rfl⟩
    | cons c rest =>
      have hc : c = '\n' := eq_of_beq hends
      rw [h, hc, List.mem_append, List.mem_cons] at ht
      exact absurd (.inr (.inl rfl)) ht
  · rintro ⟨rfl, rfl⟩
    exact ⟨(List.append_nil _).symm, rfl⟩

theorem eq_of_stretch?_wholeLine {t content rest : Text} (ht : '\n' ∉ t)
    (h : (wholeLine closing).stretch? t = some (content, rest)) :
    t = content ++ closing ∧ rest = [] := by
  induction t generalizing content with
  | nil =>
    obtain ⟨u, hu, hpair⟩ := Option.map_eq_some_iff.1 h
    obtain ⟨rfl, rfl⟩ := Prod.mk.inj hpair
    exact (closed?_wholeLine ht).1 hu
  | cons c t ih =>
    have hnot := ht
    rw [List.mem_cons, not_or] at hnot
    rw [stretch?_cons (Ne.symm hnot.1)] at h
    rcases Option.or_eq_some_iff.1 h with h | ⟨-, h⟩
    · obtain ⟨s, hs, hpair⟩ := Option.map_eq_some_iff.1 h
      obtain ⟨rfl, rfl⟩ := Prod.mk.inj hpair
      obtain ⟨ht', hrest⟩ := ih hnot.2 hs
      exact ⟨congrArg (c :: ·) ht', hrest⟩
    · obtain ⟨u, hu, hpair⟩ := Option.map_eq_some_iff.1 h
      obtain ⟨rfl, rfl⟩ := Prod.mk.inj hpair
      exact (closed?_wholeLine ht).1 hu

theorem stretch?_wholeLine {content : Text} (h : '\n' ∉ content ++ closing) :
    (wholeLine closing).stretch? (content ++ closing) = some (content, []) := by
  have hsome : ((wholeLine closing).stretch? (content ++ closing)).isSome = true := by
    induction content with
    | nil =>
      rw [List.nil_append] at h ⊢
      apply isSome_stretch?
      rw [(closed?_wholeLine h).2 ⟨rfl, rfl⟩]
      rfl
    | cons c content ih =>
      rw [List.cons_append, List.mem_cons, not_or] at h
      rw [List.cons_append, stretch?_cons (Ne.symm h.1), Option.isSome_or, Option.isSome_map,
        ih h.2, Bool.true_or]
  obtain ⟨⟨content', rest⟩, hs⟩ := Option.isSome_iff_exists.1 hsome
  obtain ⟨hcontent, rfl⟩ := eq_of_stretch?_wholeLine h hs
  rw [hs, List.append_cancel_right hcontent]

theorem retagFrom_of_length_le {fresh : Bool} {skip : Nat} {t : Text} (h : t.length ≤ skip) :
    p.retagFrom openTag closeTag fresh skip t = [] := by
  induction t generalizing fresh skip with
  | nil => rw [retagFrom]
  | cons c t ih =>
    cases skip with
    | zero => exact absurd h (Nat.not_succ_le_zero _)
    | succ skip => exact ih (Nat.le_of_succ_le_succ h)

theorem retagFrom_of_not_fresh (h : p.atLineStart = true) (hline : '\n' ∉ line) :
    p.retagFrom openTag closeTag false 0 line = line := by
  induction line with
  | nil => rw [retagFrom]
  | cons c line ih =>
    rw [List.mem_cons, not_or] at hline
    have hnone : p.span? false (c :: line) = none := by
      rw [span?_eq, opened?_of_not_fresh h]
      rfl
    have hc : (c == '\n') = false := beq_false_of_ne (Ne.symm hline.1)
    rw [retagFrom_of_none openTag closeTag hnone, hc, ih hline.2]

/-- A line with the closing mark at its end, behind at least one character. -/
theorem retag_wholeLine_of_span {c : Char} {content : Text} (hc : isSpace c = false)
    (h : '\n' ∉ content ++ closing) :
    (wholeLine closing).retag openTag closeTag (c :: (content ++ closing)) =
      openTag ++ c :: content ++ closeTag := by
  have hspan : (wholeLine closing).span? true (c :: (content ++ closing)) =
      some (c :: content, []) := by
    rw [span?_eq, opened?_of_fresh]
    change (wholeLine closing).content? (c :: (content ++ closing)) = some (c :: content, [])
    rw [content?_cons hc, stretch?_wholeLine h]
    rfl
  have hrest : (content ++ closing).length ≤ (content ++ closing).length - [].length (α := Char) :=
    Nat.le_refl _
  rw [retag, retagFrom_of_span openTag closeTag hspan,
    retagFrom_of_length_le openTag closeTag hrest, List.append_nil]

theorem retag_wholeLine_of_not (hline : '\n' ∉ line)
    (h : ∀ c content, line = c :: (content ++ closing) → isSpace c = true) :
    (wholeLine closing).retag openTag closeTag line = line := by
  cases line with
  | nil => rw [retag, retagFrom]
  | cons c t =>
    rw [List.mem_cons, not_or] at hline
    have hnone : (wholeLine closing).span? true (c :: t) = none := by
      rw [span?_eq, opened?_of_fresh]
      change (wholeLine closing).content? (c :: t) = none
      cases hc : isSpace c with
      | true => exact content?_of_isSpace hc t
      | false =>
        rw [content?_cons hc, Option.map_eq_none_iff, Option.eq_none_iff_forall_ne_some]
        rintro ⟨content, rest⟩ hs
        have ht := (eq_of_stretch?_wholeLine hline.2 hs).1
        exact absurd (h c content (congrArg (c :: ·) ht)) (ne_true_of_eq_false hc)
    have hfresh : (c == '\n') = false := beq_false_of_ne (Ne.symm hline.1)
    rw [retag, retagFrom_of_none openTag closeTag hnone, hfresh,
      retagFrom_of_not_fresh openTag closeTag rfl hline.2]

/-- A text whose lines are retagged has the lines that `g` gives, if `g` does to a line what the
pattern says. -/
theorem lines_retag_wholeLine {openTag closeTag : Text} {g : Text → Text}
    (hclosing : '\n' ∉ closing) (hopenTag : '\n' ∉ openTag) (hcloseTag : '\n' ∉ closeTag)
    (hspan : ∀ c content, isSpace c = false →
      g (c :: (content ++ closing)) = openTag ++ c :: content ++ closeTag)
    (hnot : ∀ line, (∀ c content, line = c :: (content ++ closing) → isSpace c = true) →
      g line = line) (t : Text) :
    ((wholeLine closing).retag openTag closeTag t).lines = t.lines.map g := by
  have hwise : IsLineWise ((wholeLine closing).retag openTag closeTag) :=
    isLineWise_retag openTag closeTag List.not_mem_nil hclosing
  apply hwise.lines_eq
  intro l hl
  have hl := newline_not_mem_of_mem_lines hl
  by_cases hspanned : ∃ c content, l = c :: (content ++ closing) ∧ isSpace c = false
  · obtain ⟨c, content, rfl, hc⟩ := hspanned
    rw [List.mem_cons, List.mem_append, not_or, not_or] at hl
    have hrest : '\n' ∉ content ++ closing := by
      rw [List.mem_append, not_or]
      exact hl.2
    refine ⟨(retag_wholeLine_of_span openTag closeTag hc hrest).trans (hspan c content hc).symm, ?_⟩
    rw [hspan c content hc, List.mem_append, List.mem_append, List.mem_cons]
    rintro ((h | h | h) | h)
    · exact hopenTag h
    · exact hl.1 h
    · exact hl.2.1 h
    · exact hcloseTag h
  · have hl' : ∀ c content, l = c :: (content ++ closing) → isSpace c = true := by
      intro c content hline
      cases hc : isSpace c with
      | true => rfl
      | false => exact absurd ⟨c, content, hline, hc⟩ hspanned
    rw [hnot l hl']
    exact ⟨retag_wholeLine_of_not openTag closeTag hl hl', hl⟩

end WholeLine

end DocOutline.SpanPattern
