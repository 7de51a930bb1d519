import DocOutline.Proofs.Markup.Preformatted

/-!
# Rewritten spans

Replacing the spans of a text is done line by line, and on each line it is done at most once: the
span that starts first, and is the longest of those that start there, ends with the last closing
mark of the line, so that nothing behind it can be a span (`rewritten_retagFrom`). This holds for
every pattern whose marks stay on one line; `retagSpans_rewrites_lines` says it for the marks that
layouts are made of, with the places where the marks match given by themselves.
-/

namespace DocOutline

/-- A division of a line: what stands before a span, its content, and what stands behind it. The
marks of the span are left out. -/
structure Split where
  before : Text
  content : Text
  behind : Text
  deriving DecidableEq, Repr

namespace Split

/-- The line with tags in the place of the marks. -/
def retagged (openTag closeTag : Text) (s : Split) : Text :=
  s.before ++ openTag ++ s.content ++ closeTag ++ s.behind

/-- The split that starts first and, of those that start there, has the longest content. -/
structure IsFirst (P : Split → Prop) (s : Split) : Prop where
  valid : P s
  leftmost : ∀ s', P s' → s.before.length ≤ s'.before.length
  longest : ∀ s', P s' → s'.before.length = s.before.length →
    s'.content.length ≤ s.content.length

/-- What becomes of a line: it is kept if it has no split, and else its first split is retagged. -/
inductive Rewritten (P : Split → Prop) (openTag closeTag line : Text) : Text → Prop where
  | kept (h : ∀ s, ¬P s) : Rewritten P openTag closeTag line line
  | replaced {s : Split} (h : IsFirst P s) :
      Rewritten P openTag closeTag line (s.retagged openTag closeTag)

namespace Rewritten

variable {P : Split → Prop} {openTag closeTag line result : Text}

theorem eq_of_no_split (h : Rewritten P openTag closeTag line result) (hnone : ∀ s, ¬P s) :
    result = line := by
  cases h with
  | kept => rfl
  | replaced hfirst => exact absurd hfirst.valid (hnone _)

theorem exists_first {s : Split} (h : Rewritten P openTag closeTag line result) (hs : P s) :
    ∃ first, IsFirst P first ∧ result = first.retagged openTag closeTag := by
  cases h with
  | kept hnone => exact absurd hs (hnone s)
  | replaced hfirst => exact ⟨_, hfirst, rfl⟩

theorem unique (hP : ∀ s s', IsFirst P s → IsFirst P s' → s = s') {result' : Text}
    (h : Rewritten P openTag closeTag line result)
    (h' : Rewritten P openTag closeTag line result') : result = result' := by
  cases h with
  | kept hnone => exact (h'.eq_of_no_split hnone).symm
  | replaced hfirst =>
    obtain ⟨s', hfirst', rfl⟩ := h'.exists_first hfirst.valid
    rw [hP _ s' hfirst hfirst']

end Rewritten

end Split

namespace SpanPattern

open Text

variable {p : SpanPattern} {fresh : Bool} {line : Text}

/-! ## Where a span can end -/

/-- A text is a content, the closing mark and a rest, where the mark is allowed to stand. -/
structure EndsAt (p : SpanPattern) (t content rest : Text) : Prop where
  eq : t = content ++ p.closing ++ rest
  atEnd : p.atLineEnd = true → rest = []

theorem endsBefore_iff {rest : Text} (hrest : '\n' ∉ rest) :
    p.endsBefore rest = true ↔ (p.atLineEnd = true → rest = []) := by
  rw [endsBefore]
  cases p.atLineEnd with
  | false => simp
  | true =>
    cases rest with
    | nil => simp
    | cons c rest =>
      rw [List.mem_cons, not_or] at hrest
      simp [Ne.symm hrest.1]

theorem closed?_eq_some_iff {t rest : Text} (ht : '\n' ∉ t) :
    p.closed? t = some rest ↔ p.EndsAt t [] rest := by
  rw [closed?_eq, Option.filter_eq_some_iff, after?_eq_some_iff]
  constructor
  · rintro ⟨rfl, hends⟩
    rw [List.mem_append, not_or] at ht
    exact ⟨rfl, (endsBefore_iff ht.2).1 hends⟩
  · rintro ⟨heq, hends⟩
    rw [List.nil_append] at heq
    subst heq
    rw [List.mem_append, not_or] at ht
    exact ⟨rfl, (endsBefore_iff ht.2).2 hends⟩

theorem endsAt_cons {c : Char} {t content rest : Text} :
    p.EndsAt (c :: t) (c :: content) rest ↔ p.EndsAt t content rest := by
  constructor
  · rintro ⟨heq, hends⟩
    exact ⟨(List.cons.inj heq).2, hends⟩
  · rintro ⟨rfl, hends⟩
    exact ⟨rfl, hends⟩

/-- The content of an end that is not here starts with the first character. -/
theorem EndsAt.cases_cons {c : Char} {t content rest : Text} (h : p.EndsAt (c :: t) content rest) :
    content = [] ∨ ∃ more, content = c :: more ∧ p.EndsAt t more rest := by
  cases content with
  | nil => exact .inl rfl
  | cons d more =>
    obtain ⟨rfl, -⟩ := List.cons.inj h.eq
    exact .inr ⟨more, rfl, endsAt_cons.1 h⟩

theorem stretch?_eq_none {t : Text} (ht : '\n' ∉ t) (h : p.stretch? t = none) :
    ∀ content rest, ¬p.EndsAt t content rest := by
  induction t with
  | nil =>
    rw [stretch?, Option.map_eq_none_iff] at h
    rintro content rest ⟨heq, hends⟩
    obtain ⟨hcontent, hrest⟩ := List.append_eq_nil_iff.1 heq.symm
    obtain ⟨rfl, -⟩ := List.append_eq_nil_iff.1 hcontent
    cases h.symm.trans ((closed?_eq_some_iff ht).2 ⟨heq, hends⟩)
  | cons c t ih =>
    have hnot := ht
    rw [List.mem_cons, not_or] at hnot
    rw [stretch?_cons (Ne.symm hnot.1), Option.or_eq_none_iff, Option.map_eq_none_iff,
      Option.map_eq_none_iff] at h
    intro content rest hends
    rcases hends.cases_cons with rfl | ⟨more, rfl, hmore⟩
    · cases h.2.symm.trans ((closed?_eq_some_iff ht).2 hends)
    · exact ih hnot.2 h.1 more rest hmore

/-- A stretch is the longest content with an end behind it. -/
theorem stretch?_eq_some {t content rest : Text} (ht : '\n' ∉ t)
    (h : p.stretch? t = some (content, rest)) :
    p.EndsAt t content rest ∧
      ∀ content' rest', p.EndsAt t content' rest' → content'.length ≤ content.length := by
  induction t generalizing content with
  | nil =>
    rw [stretch?, Option.map_eq_some_iff] at h
    obtain ⟨u, hu, hpair⟩ := h
    obtain ⟨rfl, rfl⟩ := Prod.mk.inj hpair
    refine ⟨(closed?_eq_some_iff ht).1 hu, fun content' rest' hends => ?_⟩
    obtain ⟨hcontent, -⟩ := List.append_eq_nil_iff.1 hends.eq.symm
    exact Nat.le_of_eq (congrArg List.length (List.append_eq_nil_iff.1 hcontent).1)
  | cons c t ih =>
    have hnot := ht
    rw [List.mem_cons, not_or] at hnot
    rw [stretch?_cons (Ne.symm hnot.1), Option.or_eq_some_iff] at h
    rcases h with h | ⟨hnone, h⟩
    · obtain ⟨⟨more, rest'⟩, hs, hpair⟩ := Option.map_eq_some_iff.1 h
      obtain ⟨rfl, rfl⟩ := Prod.mk.inj hpair
      obtain ⟨hends, hlongest⟩ := ih hnot.2 hs
      refine ⟨endsAt_cons.2 hends, fun content' rest'' hends' => ?_⟩
      rcases hends'.cases_cons with rfl | ⟨more', rfl, hmore⟩
      · exact Nat.zero_le _
      · exact Nat.succ_le_succ (hlongest more' rest'' hmore)
    · -- No end further on, so the only content is the empty one.
      obtain ⟨u, hu, hpair⟩ := Option.map_eq_some_iff.1 h
      obtain ⟨rfl, rfl⟩ := Prod.mk.inj hpair
      rw [Option.map_eq_none_iff] at hnone
      refine ⟨(closed?_eq_some_iff ht).1 hu, fun content' rest' hends => ?_⟩
      rcases hends.cases_cons with rfl | ⟨more, rfl, hmore⟩
      · exact Nat.le_refl 0
      · exact absurd hmore (stretch?_eq_none hnot.2 hnone more rest')

/-! ## Splits of a line -/

/-- A split of a line at a span of the pattern; `fresh` says that a line starts here. -/
structure IsSplit (p : SpanPattern) (fresh : Bool) (t : Text) (s : Split) : Prop where
  eq : t = s.before ++ p.opening ++ s.content ++ p.closing ++ s.behind
  full : s.content.startsFull = true
  atStart : p.atLineStart = true → fresh = true ∧ s.before = []
  atEnd : p.atLineEnd = true → s.behind = []

theorem IsSplit.ne_nil {s : Split} (h : p.IsSplit fresh line s) : line ≠ [] := by
  obtain ⟨c, content, hcontent, -⟩ := startsFull_iff.1 h.full
  rw [h.eq, hcontent]
  simp

theorem isSplit_shift {c : Char} {t before content behind : Text} :
    p.IsSplit fresh (c :: t) ⟨c :: before, content, behind⟩ ↔
      p.IsSplit false t ⟨before, content, behind⟩ := by
  constructor
  · rintro ⟨heq, hfull, hstart, hend⟩
    exact ⟨(List.cons.inj heq).2, hfull, fun h => absurd (hstart h).2 (List.cons_ne_nil _ _), hend⟩
  · rintro ⟨rfl, hfull, hstart, hend⟩
    exact ⟨rfl, hfull, fun h => absurd (hstart h).1 Bool.false_ne_true, hend⟩

/-- A split that does not start here is a split of what follows the first character. -/
theorem IsSplit.cases_cons {c : Char} {t : Text} {s : Split} (h : p.IsSplit fresh (c :: t) s) :
    s.before = [] ∨
      ∃ before, s.before = c :: before ∧ p.IsSplit false t ⟨before, s.content, s.behind⟩ := by
  obtain ⟨before, content, behind⟩ := s
  cases before with
  | nil => exact .inl rfl
  | cons d before =>
    obtain ⟨rfl, -⟩ := List.cons.inj h.eq
    exact .inr ⟨before, rfl, isSplit_shift.1 h⟩

theorem opened?_eq_some_iff {t u : Text} : p.opened? fresh t = some u ↔
    t = p.opening ++ u ∧ (p.atLineStart = true → fresh = true) := by
  rw [opened?]
  cases p.atLineStart <;> cases fresh <;> simp [after?_eq_some_iff]

theorem content?_eq_none {t : Text} (ht : '\n' ∉ t) (h : p.content? t = none)
    {content rest : Text} (hfull : content.startsFull = true) : ¬p.EndsAt t content rest := by
  obtain ⟨c, more, rfl, hc⟩ := startsFull_iff.1 hfull
  intro hends
  have heq := hends.eq
  cases t with
  | nil => cases heq
  | cons d t =>
    obtain ⟨rfl, -⟩ := List.cons.inj heq
    rw [content?_cons hc, Option.map_eq_none_iff] at h
    rw [List.mem_cons, not_or] at ht
    exact stretch?_eq_none ht.2 h more rest (endsAt_cons.1 hends)

theorem content?_eq_some {t content rest : Text} (ht : '\n' ∉ t)
    (h : p.content? t = some (content, rest)) :
    content.startsFull = true ∧ p.EndsAt t content rest ∧
      ∀ content' rest', p.EndsAt t content' rest' → content'.length ≤ content.length := by
  cases t with
  | nil => cases h
  | cons c t =>
    rw [List.mem_cons, not_or] at ht
    cases hc : isSpace c with
    | true =>
      rw [content?_of_isSpace hc] at h
      cases h
    | false =>
      rw [content?_cons hc, Option.map_eq_some_iff] at h
      obtain ⟨⟨more, rest'⟩, hs, hpair⟩ := h
      obtain ⟨rfl, rfl⟩ := Prod.mk.inj hpair
      obtain ⟨hends, hlongest⟩ := stretch?_eq_some ht.2 hs
      refine ⟨startsFull_iff.2 ⟨c, more, rfl, hc⟩, endsAt_cons.2 hends, fun content' rest'' h => ?_⟩
      rcases h.cases_cons with rfl | ⟨more', rfl, hmore⟩
      · exact Nat.zero_le _
      · exact Nat.succ_le_succ (hlongest more' rest'' hmore)

/-- What follows the opening mark of a split that starts here. -/
theorem IsSplit.endsAt {t u content behind : Text} (h : p.IsSplit fresh t ⟨[], content, behind⟩)
    (hu : t = p.opening ++ u) : p.EndsAt u content behind := by
  have heq : p.opening ++ u = p.opening ++ (content ++ p.closing ++ behind) := by
    rw [← hu, h.eq]
    simp
  exact ⟨List.append_cancel_left heq, h.atEnd⟩

theorem span?_eq_none {t : Text} (ht : '\n' ∉ t) (h : p.span? fresh t = none) {s : Split}
    (hs : p.IsSplit fresh t s) : s.before ≠ [] := by
  obtain ⟨before, content, behind⟩ := s
  rintro rfl
  have heq := hs.eq
  rw [List.nil_append, List.append_assoc, List.append_assoc] at heq
  have hopened : p.opened? fresh t = some (content ++ (p.closing ++ behind)) :=
    opened?_eq_some_iff.2 ⟨heq, fun h => (hs.atStart h).1⟩
  rw [span?_eq, hopened, Option.bind_some] at h
  have hrest : '\n' ∉ content ++ (p.closing ++ behind) := fun hmem =>
    ht ((suffix_of_opened? hopened).mem hmem)
  exact content?_eq_none hrest h hs.full (hs.endsAt heq)

/-- A span that starts here is the longest split that does. -/
theorem span?_eq_some {t content rest : Text} (ht : '\n' ∉ t)
    (h : p.span? fresh t = some (content, rest)) :
    Split.IsFirst (p.IsSplit fresh t) ⟨[], content, rest⟩ := by
  rw [span?_eq, Option.bind_eq_some_iff] at h
  obtain ⟨u, hopened, hcontent⟩ := h
  have hu : '\n' ∉ u := fun hmem => ht ((suffix_of_opened? hopened).mem hmem)
  obtain ⟨hfull, hends, hlongest⟩ := content?_eq_some hu hcontent
  obtain ⟨heq, hfresh⟩ := opened?_eq_some_iff.1 hopened
  refine ⟨⟨?_, hfull, fun h => ⟨hfresh h, rfl⟩, hends.atEnd⟩, fun s' _ => Nat.zero_le _, ?_⟩
  · rw [heq, hends.eq]
    simp
  · rintro ⟨before, content', behind⟩ hs hbefore
    obtain rfl : before = [] := List.eq_nil_of_length_eq_zero hbefore
    exact hlongest content' behind (hs.endsAt heq)

/-- Nothing behind the first split of a line is a split again, since it could have been longer. -/
theorem not_isSplit_behind {t : Text} {s : Split} (h : Split.IsFirst (p.IsSplit fresh t) s)
    {fresh' : Bool} (s' : Split) : ¬p.IsSplit fresh' s.behind s' := by
  intro hs
  have hlong : p.IsSplit fresh t ⟨s.before,
      s.content ++ p.closing ++ s'.before ++ p.opening ++ s'.content, s'.behind⟩ := by
    refine ⟨?_, ?_, h.valid.atStart, hs.atEnd⟩
    · rw [h.valid.eq, hs.eq]
      simp
    · obtain ⟨c, content, hcontent, hc⟩ := startsFull_iff.1 h.valid.full
      rw [hcontent]
      exact startsFull_iff.2 ⟨c, _, rfl, hc⟩
  have hle := h.longest _ hlong rfl
  have hne : s'.content ≠ [] := by
    rintro hnil
    have hfull := hs.full
    rw [hnil] at hfull
    cases hfull
  have hpos := List.length_pos_iff.2 hne
  simp only [List.length_append] at hle
  omega

/-- A line has one first split at most. -/
theorem isFirst_unique {t : Text} (s s' : Split) (h : Split.IsFirst (p.IsSplit fresh t) s)
    (h' : Split.IsFirst (p.IsSplit fresh t) s') : s = s' := by
  have hbefore : s.before.length = s'.before.length :=
    Nat.le_antisymm (h.leftmost s' h'.valid) (h'.leftmost s h.valid)
  have hcontent : s.content.length = s'.content.length :=
    Nat.le_antisymm (h'.longest s h.valid hbefore) (h.longest s' h'.valid hbefore.symm)
  have heq := h.valid.eq.symm.trans h'.valid.eq
  simp only [List.append_assoc] at heq
  obtain ⟨hbefore, heq⟩ := List.append_inj heq hbefore
  obtain ⟨hcontent, heq⟩ := List.append_inj (List.append_cancel_left heq) hcontent
  have hbehind := List.append_cancel_left heq
  obtain ⟨before, content, behind⟩ := s
  exact Split.mk.injEq .. ▸ ⟨hbefore, hcontent, hbehind⟩

/-! ## One pass over a line -/

section Pass

variable (openTag closeTag : Text)

theorem retagFrom_skip {u rest : Text} (hu : '\n' ∉ u) :
    p.retagFrom openTag closeTag false u.length (u ++ rest) =
      p.retagFrom openTag closeTag false 0 rest := by
  induction u with
  | nil => rfl
  | cons c u ih =>
    rw [List.mem_cons, not_or] at hu
    have hc : (c == '\n') = false := beq_false_of_ne (Ne.symm hu.1)
    rw [List.cons_append, List.length_cons, retagFrom, hc, ih hu.2]

theorem retagFrom_of_no_split {t : Text} (ht : '\n' ∉ t) (h : ∀ s, ¬p.IsSplit fresh t s) :
    p.retagFrom openTag closeTag fresh 0 t = t := by
  induction t generalizing fresh with
  | nil => rw [retagFrom]
  | cons c t ih =>
    have hnone : p.span? fresh (c :: t) = none := by
      rw [Option.eq_none_iff_forall_ne_some]
      rintro ⟨content, rest⟩ hspan
      exact h _ (span?_eq_some ht hspan).valid
    rw [List.mem_cons, not_or] at ht
    have hc : (c == '\n') = false := beq_false_of_ne (Ne.symm ht.1)
    rw [retagFrom_of_none openTag closeTag hnone, hc, ih ht.2]
    rintro ⟨before, content, behind⟩ hs
    exact h _ (isSplit_shift.2 hs)

theorem retagFrom_of_first {c : Char} {t content rest : Text} (ht : '\n' ∉ c :: t)
    (h : p.span? fresh (c :: t) = some (content, rest)) :
    p.retagFrom openTag closeTag fresh 0 (c :: t) = openTag ++ content ++ closeTag ++ rest := by
  have hfirst := span?_eq_some ht h
  obtain ⟨d, more, hcontent, -⟩ := startsFull_iff.1 hfirst.valid.full
  -- The span has a character, so the first one is dropped and the others are skipped.
  obtain ⟨u, hu⟩ : ∃ u, t = u ++ rest := by
    have heq := hfirst.valid.eq
    change c :: t = [] ++ p.opening ++ content ++ p.closing ++ rest at heq
    have hne : [] ++ p.opening ++ content ++ p.closing ≠ [] := by
      change content = d :: more at hcontent
      simp [hcontent]
    obtain ⟨e, u, hspan⟩ := List.exists_cons_of_ne_nil hne
    rw [hspan, List.cons_append, List.cons.injEq] at heq
    exact ⟨u, heq.2⟩
  rw [List.mem_cons, not_or] at ht
  have hc : (c == '\n') = false := beq_false_of_ne (Ne.symm ht.1)
  rw [hu, List.mem_append, not_or] at ht
  have hlength : t.length - rest.length = u.length := by
    rw [hu, List.length_append, Nat.add_sub_cancel]
  have hrest : ∀ s, ¬p.IsSplit false rest s := not_isSplit_behind hfirst
  rw [retagFrom_of_span openTag closeTag h, hc, hlength, hu, retagFrom_skip openTag closeTag ht.2.1,
    retagFrom_of_no_split openTag closeTag ht.2.2 hrest]

/-- A pass over a line keeps it or retags its first split. -/
theorem rewritten_retagFrom {t : Text} (ht : '\n' ∉ t) :
    Split.Rewritten (p.IsSplit fresh t) openTag closeTag t
      (p.retagFrom openTag closeTag fresh 0 t) := by
  induction t generalizing fresh with
  | nil =>
    rw [retagFrom]
    exact .kept fun s hs => hs.ne_nil rfl
  | cons c t ih =>
    cases hspan : p.span? fresh (c :: t) with
    | some found =>
      rw [retagFrom_of_first openTag closeTag ht hspan]
      exact .replaced (span?_eq_some ht hspan)
    | none =>
      have hlater : ∀ s, p.IsSplit fresh (c :: t) s → ∃ before, s.before = c :: before ∧
          p.IsSplit false t ⟨before, s.content, s.behind⟩ := fun s hs =>
        hs.cases_cons.resolve_left (span?_eq_none ht hspan hs)
      rw [List.mem_cons, not_or] at ht
      have hc : (c == '\n') = false := beq_false_of_ne (Ne.symm ht.1)
      have hline := @ih false ht.2
      rw [retagFrom_of_none openTag closeTag hspan, hc]
      generalize p.retagFrom openTag closeTag false 0 t = result at hline ⊢
      cases hline with
      | kept hnone =>
        refine .kept fun s hs => ?_
        obtain ⟨before, -, hs'⟩ := hlater s hs
        exact hnone _ hs'
      | @replaced s hfirst =>
        have hsplit : Split.IsFirst (p.IsSplit fresh (c :: t))
            ⟨c :: s.before, s.content, s.behind⟩ := by
          refine ⟨isSplit_shift.2 hfirst.valid, fun s' hs' => ?_, fun s' hs' hlength => ?_⟩
          · obtain ⟨before, hbefore, hsplit⟩ := hlater s' hs'
            rw [hbefore]
            exact Nat.succ_le_succ (hfirst.leftmost _ hsplit)
          · obtain ⟨before, hbefore, hsplit⟩ := hlater s' hs'
            rw [hbefore] at hlength
            exact hfirst.longest ⟨before, s'.content, s'.behind⟩ hsplit (Nat.succ.inj hlength)
        exact .replaced hsplit

end Pass

end SpanPattern

namespace Markup

open Text SpanPattern

/-! ## Marks -/

/-- The text that an opening mark stands for behind `before`. A caret ties it to the start of the
line, and every other mark stands for itself. -/
inductive Opens : (mark before text : Text) → Prop where
  | anywhere {mark : Text} (h : isPlain mark = true) (before : Text) : Opens mark before mark
  | lineStart {mark : Text} (h : isPlain mark = true) : Opens ('^' :: mark) [] mark

/-- The text that a closing mark stands for in front of `behind`. A dollar sign ties it to the end
of the line, and every other mark stands for itself. -/
inductive Closes : (mark text behind : Text) → Prop where
  | anywhere {mark : Text} (h : isPlain mark = true) (behind : Text) : Closes mark mark behind
  | lineEnd {mark : Text} (h : isPlain mark = true) : Closes (mark ++ ['$']) mark []

/-- A split of a line at a span: its content starts with a character other than white space, and the
marks match the texts on both sides of it. -/
def IsSpan (opening closing line : Text) (s : Split) : Prop :=
  s.content.startsFull = true ∧ ∃ first last, Opens opening s.before first ∧
    Closes closing last s.behind ∧ line = s.before ++ first ++ s.content ++ last ++ s.behind

/-- The marks of the spans that texts are searched for. -/
def spanMarks : List (Text × Text) :=
  [("^", ":$"), ("^", "$"), ("<", ">"), ("", ""), ("", ":"), ("^", "")]

theorem not_isPlain_caret (mark : Text) : ¬isPlain ('^' :: mark) = true := Bool.false_ne_true

theorem not_isPlain_dollar (mark : Text) : ¬isPlain (mark ++ ['$']) = true := by
  rw [isPlain, List.all_append, Bool.and_eq_true]
  exact fun h => Bool.false_ne_true h.2

end Markup

namespace SpanPattern

open Text Markup

variable {p : SpanPattern}

/-- The opening mark of a pattern as it is written. -/
def openingMark (p : SpanPattern) : Text := if p.atLineStart then '^' :: p.opening else p.opening

/-- The closing mark of a pattern as it is written. -/
def closingMark (p : SpanPattern) : Text := if p.atLineEnd then p.closing ++ ['$'] else p.closing

/-- The marks of a pattern can be written and stay on one line. -/
structure IsProper (p : SpanPattern) : Prop where
  opening : isPlain p.opening = true
  closing : isPlain p.closing = true
  opening_line : '\n' ∉ p.opening
  closing_line : '\n' ∉ p.closing

theorem opens_iff (h : p.IsProper) {before text : Text} :
    Opens p.openingMark before text ↔ text = p.opening ∧ (p.atLineStart = true → before = []) := by
  rw [openingMark]
  cases p.atLineStart with
  | true =>
    rw [if_pos rfl]
    constructor
    · intro hopens
      cases hopens with
      | anywhere hplain => exact absurd hplain (not_isPlain_caret _)
      | lineStart => exact ⟨rfl, fun _ => rfl⟩
    · rintro ⟨rfl, hbefore⟩
      rw [hbefore rfl]
      exact .lineStart h.opening
  | false =>
    rw [if_neg Bool.false_ne_true]
    constructor
    · intro hopens
      generalize hmark : p.opening = mark at hopens
      cases hopens with
      | anywhere => exact ⟨rfl, nofun⟩
      | lineStart => exact absurd (hmark ▸ h.opening) (not_isPlain_caret _)
    · rintro ⟨rfl, -⟩
      exact .anywhere h.opening before

theorem closes_iff (h : p.IsProper) {text behind : Text} :
    Closes p.closingMark text behind ↔ text = p.closing ∧ (p.atLineEnd = true → behind = []) := by
  rw [closingMark]
  cases p.atLineEnd with
  | true =>
    rw [if_pos rfl]
    constructor
    · intro hcloses
      generalize hmark : p.closing ++ ['$'] = mark at hcloses
      cases hcloses with
      | anywhere hplain => exact absurd hplain (hmark ▸ not_isPlain_dollar _)
      | lineEnd => exact ⟨(List.append_cancel_right hmark).symm, fun _ => rfl⟩
    · rintro ⟨rfl, hbehind⟩
      rw [hbehind rfl]
      exact .lineEnd h.closing
  | false =>
    rw [if_neg Bool.false_ne_true]
    constructor
    · intro hcloses
      generalize hmark : p.closing = mark at hcloses
      cases hcloses with
      | anywhere => exact ⟨rfl, nofun⟩
      | lineEnd => exact absurd (hmark ▸ h.closing) (not_isPlain_dollar _)
    · rintro ⟨rfl, -⟩
      exact .anywhere h.closing behind

theorem isSpan_iff (h : p.IsProper) {line : Text} {s : Split} :
    IsSpan p.openingMark p.closingMark line s ↔ p.IsSplit true line s := by
  constructor
  · rintro ⟨hfull, first, last, hopens, hcloses, hline⟩
    obtain ⟨rfl, hstart⟩ := (opens_iff h).1 hopens
    obtain ⟨rfl, hend⟩ := (closes_iff h).1 hcloses
    exact ⟨hline, hfull, fun h => ⟨rfl, hstart h⟩, hend⟩
  · rintro ⟨hline, hfull, hstart, hend⟩
    exact ⟨hfull, p.opening, p.closing, (opens_iff h).2 ⟨rfl, fun h => (hstart h).2⟩,
      (closes_iff h).2 ⟨rfl, hend⟩, hline⟩

/-- A pattern can be read back from its marks. -/
theorem ofMarks?_marks (h : p.IsProper) : ofMarks? p.openingMark p.closingMark = some p := by
  obtain ⟨atLineStart, opening, closing, atLineEnd⟩ := p
  obtain ⟨hopening, hclosing, -, -⟩ := h
  have hcaret : ∀ rest, opening = '^' :: rest → False := by
    rintro rest rfl
    exact not_isPlain_caret rest hopening
  have hdollar : ∀ rest, closing.reverse = '$' :: rest → False := by
    intro rest hrest
    rw [List.reverse_eq_cons_iff] at hrest
    rw [hrest] at hclosing
    exact not_isPlain_dollar rest.reverse hclosing
  have hreverse : (closing ++ ['$']).reverse = '$' :: closing.reverse := List.reverse_concat ..
  cases atLineStart <;> cases atLineEnd <;>
    simp only [openingMark, closingMark, ofMarks?, hopening, hclosing, hreverse,
      List.reverse_reverse, Bool.and_self, Bool.false_eq_true, ↓reduceIte]

end SpanPattern

namespace Markup

open Text SpanPattern

/-! ## Texts with their spans rewritten -/

theorem exists_pattern {opening closing : Text} (h : (opening, closing) ∈ spanMarks) :
    ∃ p : SpanPattern, p.IsProper ∧ opening = p.openingMark ∧ closing = p.closingMark := by
  simp only [spanMarks, List.mem_cons, Prod.mk.injEq, List.not_mem_nil, or_false] at h
  rcases h with ⟨rfl, rfl⟩ | ⟨rfl, rfl⟩ | ⟨rfl, rfl⟩ | ⟨rfl, rfl⟩ | ⟨rfl, rfl⟩ | ⟨rfl, rfl⟩
  · exact ⟨⟨true, [], [':'], true⟩, ⟨by decide, by decide, by decide, by decide⟩, rfl, rfl⟩
  · exact ⟨⟨true, [], [], true⟩, ⟨by decide, by decide, by decide, by decide⟩, rfl, rfl⟩
  · exact ⟨⟨false, ['<'], ['>'], false⟩, ⟨by decide, by decide, by decide, by decide⟩, rfl, rfl⟩
  · exact ⟨⟨false, [], [], false⟩, ⟨by decide, by decide, by decide, by decide⟩, rfl, rfl⟩
  · exact ⟨⟨false, [], [':'], false⟩, ⟨by decide, by decide, by decide, by decide⟩, rfl, rfl⟩
  · exact ⟨⟨true, [], [], false⟩, ⟨by decide, by decide, by decide, by decide⟩, rfl, rfl⟩

section Proper

variable {p : SpanPattern} (h : p.IsProper) {line : Text} (hline : '\n' ∉ line)

include h

theorem retagSpans_marks (openTag closeTag : Text) :
    retagSpans p.openingMark p.closingMark openTag closeTag = p.retag openTag closeTag := by
  funext t
  rw [retagSpans, ofMarks?_marks h]

theorem isSpan_eq_isSplit (line : Text) :
    IsSpan p.openingMark p.closingMark line = p.IsSplit true line :=
  funext fun _ => propext (isSpan_iff h)

include hline

theorem rewritten_iff (openTag closeTag result : Text) :
    Split.Rewritten (IsSpan p.openingMark p.closingMark line) openTag closeTag line result ↔
      retagSpans p.openingMark p.closingMark openTag closeTag line = result := by
  have hrewritten : Split.Rewritten (p.IsSplit true line) openTag closeTag line
      (p.retag openTag closeTag line) := rewritten_retagFrom openTag closeTag hline
  rw [isSpan_eq_isSplit h, retagSpans_marks h]
  constructor
  · exact hrewritten.unique isFirst_unique
  · rintro rfl
    exact hrewritten

/-- A line that stays the same whatever the tags are has no span. -/
theorem retagSpans_eq_self_iff :
    (∀ openTag closeTag, retagSpans p.openingMark p.closingMark openTag closeTag line = line) ↔
      ∀ s, ¬IsSpan p.openingMark p.closingMark line s := by
  constructor
  · intro hsame s hs
    -- A tag that is longer than the line would show.
    have hrewritten := (rewritten_iff h hline ('x' :: line) [] line).2 (hsame _ _)
    obtain ⟨first, -, hfirst⟩ := hrewritten.exists_first hs
    have hlength := congrArg List.length hfirst
    simp only [Split.retagged, List.length_append, List.length_cons] at hlength
    omega
  · intro hnone openTag closeTag
    exact ((rewritten_iff h hline openTag closeTag _).2 rfl).eq_of_no_split hnone

end Proper

/-- The spans of a text are rewritten line by line, and one on each line at most: the line stays
what it is if it has no span, and else the tags take the place of the marks of the span that starts
first and is the longest there. -/
theorem retagSpans_rewrites_lines {opening closing : Text}
    (hmarks : (opening, closing) ∈ spanMarks) (openTag closeTag t : Text) :
    retagSpans opening closing openTag closeTag t =
      unlines (t.lines.map (retagSpans opening closing openTag closeTag)) ∧
    ∀ line, '\n' ∉ line →
      (∀ result, Split.Rewritten (IsSpan opening closing line) openTag closeTag line result ↔
        retagSpans opening closing openTag closeTag line = result) ∧
      ((∀ openTag closeTag, retagSpans opening closing openTag closeTag line = line) ↔
        ∀ s, ¬IsSpan opening closing line s) := by
  obtain ⟨p, hp, rfl, rfl⟩ := exists_pattern hmarks
  refine ⟨?_, fun line hline => ⟨rewritten_iff hp hline openTag closeTag,
    retagSpans_eq_self_iff hp hline⟩⟩
  rw [retagSpans_marks hp]
  exact (isLineWise_retag openTag closeTag hp.opening_line hp.closing_line).eq_unlines t

/-- An opening mark before white space, two closing marks behind the next one, and nothing but white
space behind the only opening mark. -/
theorem retagSpans_rewrites_lines_angles :
    let line : Text := "a < b <c> d> e"
    let bare : Text := "< x>"
    let t : Text := line ++ '\n' :: bare
    ("<".toList, ">".toList) ∈ spanMarks ∧
    retagSpans "<" ">" "[" "]" t = unlines (t.lines.map (retagSpans "<" ">" "[" "]")) ∧
    retagSpans "<" ">" "[" "]" t = "a < b [c> d] e\n< x>".toList ∧
    Split.Rewritten (IsSpan "<" ">" line) "[" "]" line "a < b [c> d] e" ∧
    ∀ s, ¬IsSpan "<" ">" bare s := by
  intro line bare t
  have hmarks : ("<".toList, ">".toList) ∈ spanMarks := by decide
  obtain ⟨hlines, hline⟩ := retagSpans_rewrites_lines hmarks "[" "]" t
  obtain ⟨hrewritten, -⟩ := hline line (by decide)
  obtain ⟨-, hsame⟩ := hline bare (by decide)
  exact ⟨hmarks, hlines, by decide, (hrewritten _).2 (by decide), hsame.1 fun _ _ => rfl⟩

end Markup

end DocOutline
