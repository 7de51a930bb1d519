import DocOutline.Docstring
import DocOutline.Proofs.Literal
import DocOutline.Proofs.Syntax.Shape
import DocOutline.Syntax.Statement

/-!
# Which statements are docstrings

In Python the first statement of a block is its docstring if it is one string, perhaps given by
several literals in a row and perhaps in parentheses, and no literal is formatted or bytes
(`IsDocstring`). The docstrings that are found are these, with two exceptions: a string with a comma
behind it, which is a tuple, is taken for a docstring, and a string in parentheses is not
(`docstring?_follows_rule_iff`).
-/

namespace DocOutline.Docstring

open Syntax

/-! ## The rule -/

/-- The literals that an expression consists of, inside any number of parentheses. -/
inductive ConsistsOf : SyntaxTree → List Literal.Token → Prop
  | string {t : SyntaxTree} {token : Literal.Token} (hk : t.kind = .string)
      (ht : t.text = token.text) : ConsistsOf t [token]
  | concatenated {t : SyntaxTree} {tokens : List Literal.Token} (hk : t.kind = .concatenatedString)
      (hp : ∀ p ∈ t.parts, p.kind = .string)
      (ht : t.parts.map (·.text) = tokens.map (·.text)) : ConsistsOf t tokens
  | parenthesized {t e : SyntaxTree} {tokens : List Literal.Token}
      (hk : t.kind = .parenthesizedExpression) (hp : t.parts = [e]) (h : ConsistsOf e tokens) :
      ConsistsOf t tokens

/-- A literal that is neither formatted nor bytes. -/
def IsFixed (token : Literal.Token) : Prop := ¬ token.HasLetter "fFbB"

/-- An expression consists of these literals, and all of them are fixed. -/
def IsText (e : SyntaxTree) (tokens : List Literal.Token) : Prop :=
  ConsistsOf e tokens ∧ ∀ token ∈ tokens, IsFixed token

/-- The text that a fixed literal stands for. -/
def valueOf (token : Literal.Token) : Text := (Literal.decode? token.text).getD []

/-- The statements of a block. A comment is none, nor is a line end that is hidden. -/
def statements (block : SyntaxTree) : List SyntaxTree :=
  block.parts.filter (·.kind ≠ .lineContinuation)

/-- The first statement of a block consists of these expressions and commas. -/
def StartsWith (block : SyntaxTree) (es : List SyntaxTree) : Prop :=
  ∃ first, (statements block).head? = some first ∧ first.kind = .expressionStatement ∧
    first.elements = es

/-- Python's rule: the first statement is one expression and nothing else, and that is a text. -/
def IsDocstring (block : SyntaxTree) (d : Text) : Prop :=
  ∃ e tokens, StartsWith block [e] ∧ IsText e tokens ∧ d = Text.clean (tokens.flatMap valueOf)

/-- The first statement is a tuple of one text without parentheses. -/
def StartsWithTuple (block : SyntaxTree) : Prop :=
  ∃ e comma tokens, StartsWith block [e, comma] ∧ comma.isSign "," = true ∧
    e.kind ≠ .parenthesizedExpression ∧ IsText e tokens

/-- The first statement is a text in parentheses. -/
def StartsInParentheses (block : SyntaxTree) : Prop :=
  ∃ e tokens, StartsWith block [e] ∧ e.kind = .parenthesizedExpression ∧ IsText e tokens

/-- Whether these are expressions with commas between them, and perhaps behind the last one. -/
def isValues : List SyntaxTree → Bool
  | [] => false
  | [v] => v.isNamed
  | [v, comma] => v.isNamed && comma.isSign ","
  | v :: comma :: rest => v.isNamed && comma.isSign "," && isValues rest

/-- What the grammar says about a statement of expressions and the strings in it. -/
structure IsLegible (t : SyntaxTree) : Prop where
  values : isValues t.elements = true
  strings : ∀ n ∈ t.nodes, n.kind = .concatenatedString → ∀ p ∈ n.parts, p.kind = .string
  literals : ∀ n ∈ t.nodes, n.kind = .string → ∃ token : Literal.Token, n.text = token.text

/-- A block starts with a statement, and this is legible if it is one of expressions. -/
def StartsLegibly (block : SyntaxTree) : Prop :=
  ∀ first, block.parts.head? = some first →
    first.kind ≠ .lineContinuation ∧ (first.kind = .expressionStatement → IsLegible first)

theorem StartsLegibly.head?_statements {block : SyntaxTree} (h : StartsLegibly block) :
    (statements block).head? = block.parts.head? := by
  unfold statements
  cases hparts : block.parts with
  | nil => rfl
  | cons first rest =>
    have hfirst := (h first (by rw [hparts]; rfl)).1
    rw [List.filter_cons_of_pos (by simpa using hfirst)]
    rfl

/-! ## Literals -/

theorem decode?_eq_none_iff (token : Literal.Token) :
    Literal.decode? token.text = none ↔ token.HasLetter "fFbB" := by
  have hletters : ((Text.asciiLower token.letters).contains 'f' ||
      (Text.asciiLower token.letters).contains 'b') = true ↔ token.HasLetter "fFbB" := by
    rw [Bool.or_eq_true, Literal.contains_asciiLower token 'f' "fF" (Text.forall_mem (by decide)),
      Literal.contains_asciiLower token 'b' "bB" (Text.forall_mem (by decide)),
      ← token.hasLetter_append]
    rfl
  rw [← hletters, Literal.decode?_text]
  split
  · simp_all
  · split <;> simp_all

theorem decode?_of_isFixed {token : Literal.Token} (h : IsFixed token) :
    Literal.decode? token.text = some (valueOf token) := by
  rw [valueOf]
  cases hd : Literal.decode? token.text with
  | none => exact absurd ((decode?_eq_none_iff token).1 hd) h
  | some x => rfl

theorem mapM_decode?_of_isFixed {tokens : List Literal.Token}
    (h : ∀ token ∈ tokens, IsFixed token) :
    (tokens.map (·.text)).mapM Literal.decode? = some (tokens.map valueOf) := by
  induction tokens with
  | nil => rfl
  | cons token tokens ih =>
    rw [List.forall_mem_cons] at h
    rw [List.map_cons, List.mapM_cons, decode?_of_isFixed h.1, ih h.2]
    rfl

theorem isFixed_of_mapM_decode? {tokens : List Literal.Token} {xs : List Text}
    (h : (tokens.map (·.text)).mapM Literal.decode? = some xs) :
    ∀ token ∈ tokens, IsFixed token := by
  induction tokens generalizing xs with
  | nil => nofun
  | cons token tokens ih =>
    rw [List.map_cons, List.mapM_cons] at h
    obtain ⟨x, hx, h⟩ := Option.bind_eq_some_iff.1 h
    obtain ⟨ys, hys, -⟩ := Option.bind_eq_some_iff.1 h
    rw [List.forall_mem_cons]
    refine ⟨fun hletter => ?_, ih hys⟩
    rw [(decode?_eq_none_iff token).2 hletter] at hx
    cases hx

/-! ## The text of an expression -/

section Text

variable {t : SyntaxTree}

theorem literal?_string (hk : t.kind = .string) : literal? t = Literal.decode? t.text := by
  simp only [literal?, hk]

theorem literal?_concatenated (hk : t.kind = .concatenatedString)
    (hp : ∀ p ∈ t.parts, p.kind = .string) :
    literal? t = ((t.parts.map (·.text)).mapM Literal.decode?).map List.flatten := by
  have hfilter : t.namedChildren.filter (·.kind = .string) = t.parts := by
    apply List.filter_congr
    intro c hc
    cases hcomment : c.isComment with
    | true =>
      have hkind : c.kind = .comment := of_decide_eq_true hcomment
      simp [hkind]
    | false =>
      have hmem : c ∈ t.parts := List.mem_filter.2 ⟨hc, by simp [hcomment]⟩
      simp [hp c hmem]
  simp only [literal?, hk, hfilter, List.mapM_map]
  rfl

theorem literal?_eq_none (hs : t.kind ≠ .string) (hc : t.kind ≠ .concatenatedString) :
    literal? t = none := by
  unfold literal?
  split
  · contradiction
  · contradiction
  · rfl

/-- A text without parentheses is read. -/
theorem literal?_of_isText {tokens : List Literal.Token} (h : IsText t tokens)
    (hk : t.kind ≠ .parenthesizedExpression) : literal? t = some (tokens.flatMap valueOf) := by
  obtain ⟨hconsists, hfixed⟩ := h
  cases hconsists with
  | @string _ token hs ht =>
    rw [literal?_string hs, ht, decode?_of_isFixed (hfixed token (List.mem_singleton_self token)),
      List.flatMap_singleton]
  | concatenated hc hp ht =>
    rw [literal?_concatenated hc hp, ht, mapM_decode?_of_isFixed hfixed, Option.map_some]
    rfl
  | parenthesized hpar _ _ => exact absurd hpar hk

theorem exists_tokens {ps : List SyntaxTree}
    (h : ∀ p ∈ ps, ∃ token : Literal.Token, p.text = token.text) :
    ∃ tokens : List Literal.Token, ps.map (·.text) = tokens.map (·.text) := by
  induction ps with
  | nil => exact ⟨[], rfl⟩
  | cons p ps ih =>
    rw [List.forall_mem_cons] at h
    obtain ⟨token, htoken⟩ := h.1
    obtain ⟨tokens, htokens⟩ := ih h.2
    exact ⟨token :: tokens, by rw [List.map_cons, List.map_cons, htoken, htokens]⟩

/-- What is read is a text without parentheses. -/
theorem isText_of_literal? {first : SyntaxTree} (hl : IsLegible first) (ht : t ∈ first.nodes)
    {x : Text} (h : literal? t = some x) :
    t.kind ≠ .parenthesizedExpression ∧ ∃ tokens, IsText t tokens := by
  by_cases hs : t.kind = .string
  · obtain ⟨token, htoken⟩ := hl.literals t ht hs
    rw [literal?_string hs, htoken] at h
    have hfixed : IsFixed token := by
      intro hletter
      rw [(decode?_eq_none_iff token).2 hletter] at h
      cases h
    refine ⟨by rw [hs]; decide, [token], .string hs htoken, ?_⟩
    rw [List.forall_mem_singleton]
    exact hfixed
  by_cases hc : t.kind = .concatenatedString
  · have hp := hl.strings t ht hc
    obtain ⟨tokens, htokens⟩ := exists_tokens fun p hmem =>
      hl.literals p (SyntaxTree.mem_nodes_trans ht (SyntaxTree.mem_nodes_of_child
        (SyntaxTree.mem_children_of_mem_parts hmem) p.self_mem_nodes)) (hp p hmem)
    rw [literal?_concatenated hc hp, htokens] at h
    obtain ⟨xs, hxs, -⟩ := Option.map_eq_some_iff.1 h
    exact ⟨by rw [hc]; decide, tokens, .concatenated hc hp htokens, isFixed_of_mapM_decode? hxs⟩
  · rw [literal?_eq_none hs hc] at h
    cases h

end Text

/-! ## The first statement -/

theorem isNamed_of_isValues {v : SyntaxTree} {rest : List SyntaxTree}
    (h : isValues (v :: rest) = true) : v.isNamed = true := by
  unfold isValues at h
  split at h <;> simp_all

/-- One expression, and perhaps a comma behind it. -/
theorem filter_isNamed_eq_singleton_iff {e : SyntaxTree} : ∀ {es : List SyntaxTree},
    isValues es = true → (es.filter SyntaxTree.isNamed = [e] ↔
      es = [e] ∨ ∃ comma, comma.isSign "," = true ∧ es = [e, comma])
  | [v], h => by
    change v.isNamed = true at h
    simp [h]
  | [v, comma], h => by
    simp only [isValues, Bool.and_eq_true] at h
    simp [h.1, SyntaxTree.isNamed_sign h.2, h.2]
  | v :: comma :: w :: rest, h => by
    simp only [isValues, Bool.and_eq_true] at h
    simp [h.1.1, SyntaxTree.isNamed_sign h.1.2, isNamed_of_isValues h.2]

theorem soleExpression?_eq_some {t e : SyntaxTree} :
    soleExpression? t = some e ↔ t.kind = .expressionStatement ∧ t.namedChildren = [e] := by
  unfold soleExpression?
  by_cases hk : t.kind = .expressionStatement
  · rw [if_pos hk]
    rcases t.namedChildren with - | ⟨v, - | ⟨w, rest⟩⟩
    · simp
    · simp [hk]
    · simp
  · rw [if_neg hk]
    exact iff_of_false nofun fun h => hk h.1

theorem soleExpression?_eq_some_iff {t e : SyntaxTree} (hg : t.IsGrammatical)
    (hl : t.kind = .expressionStatement → IsLegible t) :
    soleExpression? t = some e ↔ t.kind = .expressionStatement ∧
      (t.elements = [e] ∨ ∃ comma, comma.isSign "," = true ∧ t.elements = [e, comma]) := by
  rw [soleExpression?_eq_some]
  refine and_congr_right fun hk => ?_
  -- No comment stands inside of a statement, so that its named children are its named elements.
  have helements : t.elements = t.children := by
    have hshape := hg.shape
    simp only [SyntaxTree.hasShape, hk] at hshape
    exact List.filter_eq_self.2 (List.all_eq_true.1 hshape)
  rw [← filter_isNamed_eq_singleton_iff (hl hk).values, helements]
  rfl

section Block

variable {block : SyntaxTree}

theorem docstring?_eq_some {d : Text} : docstring? block = some d ↔ ∃ e x,
    (∃ first, block.parts.head? = some first ∧ soleExpression? first = some e) ∧
      literal? e = some x ∧ d = Text.clean x := by
  unfold docstring?
  simp only [Option.bind_eq_bind, Option.bind_eq_some_iff, Option.pure_def, Option.some.injEq]
  constructor
  · rintro ⟨first, hfirst, e, he, x, hx, hd⟩
    exact ⟨e, x, ⟨first, hfirst, he⟩, hx, hd.symm⟩
  · rintro ⟨e, x, ⟨first, hfirst, he⟩, hx, hd⟩
    exact ⟨first, hfirst, e, he, x, hx, hd.symm⟩

/-- The first statement of a block is this expression, perhaps with a comma behind it. -/
def Opens (block e : SyntaxTree) : Prop :=
  StartsWith block [e] ∨ ∃ comma, comma.isSign "," = true ∧ StartsWith block [e, comma]

theorem exists_soleExpression?_iff (hg : block.IsGrammatical) (hl : StartsLegibly block)
    {e : SyntaxTree} :
    (∃ first, block.parts.head? = some first ∧ soleExpression? first = some e) ↔ Opens block e := by
  have hsole : ∀ {first}, block.parts.head? = some first → (soleExpression? first = some e ↔
      first.kind = .expressionStatement ∧ (first.elements = [e] ∨
        ∃ comma, comma.isSign "," = true ∧ first.elements = [e, comma])) := by
    intro first hfirst
    have hmem := SyntaxTree.mem_children_of_mem_parts (List.mem_of_head? hfirst)
    exact soleExpression?_eq_some_iff (hg.child hmem) (hl first hfirst).2
  unfold Opens StartsWith
  rw [hl.head?_statements]
  constructor
  · rintro ⟨first, hfirst, he⟩
    obtain ⟨hk, helements⟩ := (hsole hfirst).1 he
    rcases helements with helements | ⟨comma, hcomma, helements⟩
    · exact .inl ⟨first, hfirst, hk, helements⟩
    · exact .inr ⟨comma, hcomma, first, hfirst, hk, helements⟩
  · rintro (⟨first, hfirst, hk, helements⟩ | ⟨comma, hcomma, first, hfirst, hk, helements⟩)
    · exact ⟨first, hfirst, (hsole hfirst).2 ⟨hk, .inl helements⟩⟩
    · exact ⟨first, hfirst, (hsole hfirst).2 ⟨hk, .inr ⟨comma, hcomma, helements⟩⟩⟩

theorem StartsWith.exists_isLegible (hl : StartsLegibly block) {es : List SyntaxTree}
    (h : StartsWith block es) {e : SyntaxTree} (he : e ∈ es) :
    ∃ first, IsLegible first ∧ e ∈ first.nodes := by
  obtain ⟨first, hfirst, hk, rfl⟩ := h
  rw [hl.head?_statements] at hfirst
  exact ⟨first, (hl first hfirst).2 hk, SyntaxTree.mem_nodes_of_child
    (SyntaxTree.mem_children_of_mem_elements he) e.self_mem_nodes⟩

theorem Opens.exists_isLegible (hl : StartsLegibly block) {e : SyntaxTree} (h : Opens block e) :
    ∃ first, IsLegible first ∧ e ∈ first.nodes := by
  rcases h with h | ⟨comma, -, h⟩
  · exact h.exists_isLegible hl List.mem_cons_self
  · exact h.exists_isLegible hl List.mem_cons_self

/-- The docstring that is found: a text without parentheses that opens the block. -/
theorem docstring?_eq_some_iff (hg : block.IsGrammatical) (hl : StartsLegibly block) {d : Text} :
    docstring? block = some d ↔ ∃ e tokens, Opens block e ∧ e.kind ≠ .parenthesizedExpression ∧
      IsText e tokens ∧ d = Text.clean (tokens.flatMap valueOf) := by
  rw [docstring?_eq_some]
  constructor
  · rintro ⟨e, x, hfirst, hx, rfl⟩
    have hopens := (exists_soleExpression?_iff hg hl).1 hfirst
    obtain ⟨first, hlegible, he⟩ := hopens.exists_isLegible hl
    obtain ⟨hpar, tokens, htext⟩ := isText_of_literal? hlegible he hx
    rw [literal?_of_isText htext hpar, Option.some.injEq] at hx
    exact ⟨e, tokens, hopens, hpar, htext, by rw [hx]⟩
  · rintro ⟨e, tokens, hopens, hpar, htext, rfl⟩
    exact ⟨e, _, (exists_soleExpression?_iff hg hl).2 hopens, literal?_of_isText htext hpar, rfl⟩

theorem StartsWith.unique {es fs : List SyntaxTree} (h : StartsWith block es)
    (h' : StartsWith block fs) : es = fs := by
  obtain ⟨first, hfirst, -, hes⟩ := h
  obtain ⟨first', hfirst', -, hfs⟩ := h'
  rw [hfirst, Option.some.injEq] at hfirst'
  rw [← hes, hfirst', hfs]

theorem docstring?_of_tuple (hg : block.IsGrammatical) (hl : StartsLegibly block)
    (h : StartsWithTuple block) :
    (∃ d, docstring? block = some d) ∧ ∀ d, ¬ IsDocstring block d := by
  obtain ⟨e, comma, tokens, hstart, hcomma, hpar, htext⟩ := h
  refine ⟨⟨_, (docstring?_eq_some_iff hg hl).2
    ⟨e, tokens, .inr ⟨comma, hcomma, hstart⟩, hpar, htext, rfl⟩⟩, ?_⟩
  rintro d ⟨e', tokens', hstart', -⟩
  cases hstart.unique hstart'

theorem docstring?_of_parentheses (hg : block.IsGrammatical) (hl : StartsLegibly block)
    (h : StartsInParentheses block) :
    docstring? block = none ∧ ∃ d, IsDocstring block d := by
  obtain ⟨e, tokens, hstart, hpar, htext⟩ := h
  refine ⟨?_, _, e, tokens, hstart, htext, rfl⟩
  rw [Option.eq_none_iff_forall_ne_some]
  intro d hd
  obtain ⟨e', tokens', hstart', hne, -⟩ := (docstring?_eq_some_iff hg hl).1 hd
  rcases hstart' with hstart' | ⟨comma, -, hstart'⟩
  · cases hstart.unique hstart'
    exact hne hpar
  · cases hstart.unique hstart'

end Block

/-! ## Concrete blocks -/

theorem startsLegibly_of_tokens {block : SyntaxTree} (tokens : List Literal.Token)
    (h : ∀ t ∈ block.parts, t.kind = .expressionStatement ∧ isValues t.elements = true ∧
      (∀ n ∈ t.nodes, n.kind = .concatenatedString → ∀ p ∈ n.parts, p.kind = .string) ∧
      ∀ n ∈ t.nodes, n.kind = .string → n.text ∈ tokens.map (·.text)) : StartsLegibly block := by
  intro first hfirst
  obtain ⟨hk, hvalues, hstrings, hliterals⟩ := h first (List.mem_of_head? hfirst)
  refine ⟨by rw [hk]; decide, fun _ => ⟨hvalues, hstrings, ?_⟩⟩
  intro n hn hstring
  obtain ⟨token, -, ht⟩ := List.mem_map.1 (hliterals n hn hstring)
  exact ⟨token, ht.symm⟩

/-- What a node shows of itself. -/
structure Label where
  kind : Kind
  role : Role
  text : Text
  deriving DecidableEq

def labelOf (t : SyntaxTree) : Label := ⟨t.kind, t.role, t.text⟩

/-- The labels of the expressions and commas in the first statement, with those of their parts. -/
def startLabels (block : SyntaxTree) : Option (List (Label × List Label)) :=
  ((statements block).head?.filter (·.kind = .expressionStatement)).map fun first =>
    first.elements.map fun e => (labelOf e, e.parts.map labelOf)

theorem exists_startsWith {block : SyntaxTree} {labels : List (Label × List Label)}
    (h : startLabels block = some labels) :
    ∃ es, StartsWith block es ∧ es.map (fun e => (labelOf e, e.parts.map labelOf)) = labels := by
  obtain ⟨first, hfirst, hlabels⟩ := Option.map_eq_some_iff.1 h
  obtain ⟨hhead, hk⟩ := Option.filter_eq_some_iff.1 hfirst
  exact ⟨first.elements, ⟨first, hhead, of_decide_eq_true hk, rfl⟩, hlabels⟩

/-- The literal `'a'`. -/
def quotedLetter : Literal.Token :=
  ⟨[], '\'', 1, ['a'], nofun, .inl rfl, .inl rfl, by decide⟩

theorem isText_quotedLetter {e : SyntaxTree} (h : ConsistsOf e [quotedLetter]) :
    IsText e [quotedLetter] := by
  refine ⟨h, ?_⟩
  rw [List.forall_mem_singleton]
  rintro ⟨c, hc, -⟩
  cases hc

/-! ## The rule and its exceptions -/

/-- The docstrings that are found follow Python's rule, except that a tuple of one text counts as a
docstring and a text in parentheses does not. -/
theorem docstring?_follows_rule_iff (block : SyntaxTree) (hg : block.IsGrammatical)
    (hl : StartsLegibly block) :
    ((∀ d, docstring? block = some d ↔ IsDocstring block d) ↔
      ¬ StartsWithTuple block ∧ ¬ StartsInParentheses block) ∧
    (StartsWithTuple block → (∃ d, docstring? block = some d) ∧ ∀ d, ¬ IsDocstring block d) ∧
    (StartsInParentheses block → docstring? block = none ∧ ∃ d, IsDocstring block d) := by
  refine ⟨⟨fun h => ⟨fun ht => ?_, fun hp => ?_⟩, fun h d => ?_⟩, docstring?_of_tuple hg hl,
    docstring?_of_parentheses hg hl⟩
  · obtain ⟨⟨d, hd⟩, hnot⟩ := docstring?_of_tuple hg hl ht
    exact hnot d ((h d).1 hd)
  · obtain ⟨hnone, d, hd⟩ := docstring?_of_parentheses hg hl hp
    rw [← h d, hnone] at hd
    cases hd
  · rw [docstring?_eq_some_iff hg hl]
    constructor
    · rintro ⟨e, tokens, hstart | ⟨comma, hcomma, hstart⟩, hpar, htext, hd⟩
      · exact ⟨e, tokens, hstart, htext, hd⟩
      · exact absurd ⟨e, comma, tokens, hstart, hcomma, hpar, htext⟩ h.1
    · rintro ⟨e, tokens, hstart, htext, hd⟩
      refine ⟨e, tokens, .inl hstart, fun hpar => ?_, htext, hd⟩
      exact h.2 ⟨e, tokens, hstart, hpar, htext⟩

/-- A string behind a comment, a string with a comma behind it, and a string in parentheses. -/
theorem docstring?_follows_rule_three_blocks :
    let plain := parse "# c\n'a'\n"
    let tuple := parse "'a',\n"
    let inner := parse "('a')\n"
    (plain.IsGrammatical ∧ StartsLegibly plain ∧ docstring? plain = some "a".toList ∧
        ∀ d, docstring? plain = some d ↔ IsDocstring plain d) ∧
      (tuple.IsGrammatical ∧ StartsLegibly tuple ∧ docstring? tuple = some "a".toList ∧
        ∀ d, ¬ IsDocstring tuple d) ∧
      inner.IsGrammatical ∧ StartsLegibly inner ∧ docstring? inner = none ∧
        ∃ d, IsDocstring inner d := by
  intro plain tuple inner
  have hplain : plain.IsGrammatical ∧ docstring? plain = some "a".toList ∧
      startLabels plain = some [(⟨.string, .plain, "'a'".toList⟩, [])] := by
    decide +kernel
  have htuple : tuple.IsGrammatical ∧ docstring? tuple = some "a".toList ∧
      startLabels tuple = some [(⟨.string, .plain, "'a'".toList⟩, []),
        (⟨.token, .plain, ",".toList⟩, [])] := by
    decide +kernel
  have hinner : inner.IsGrammatical ∧ startLabels inner =
      some [(⟨.parenthesizedExpression, .plain, "('a')".toList⟩,
        [⟨.string, .plain, "'a'".toList⟩])] := by
    decide +kernel
  have hlplain : StartsLegibly plain := startsLegibly_of_tokens [quotedLetter] (by decide +kernel)
  have hltuple : StartsLegibly tuple := startsLegibly_of_tokens [quotedLetter] (by decide +kernel)
  have hlinner : StartsLegibly inner := startsLegibly_of_tokens [quotedLetter] (by decide +kernel)
  refine ⟨⟨hplain.1, hlplain, hplain.2.1, ?_⟩, ⟨htuple.1, hltuple, htuple.2.1, ?_⟩,
    hinner.1, hlinner, ?_⟩
  · obtain ⟨es, hstart, hlabels⟩ := exists_startsWith hplain.2.2
    obtain ⟨e, rfl, he⟩ := List.map_eq_singleton_iff.1 hlabels
    have hk : e.kind = .string := congrArg (·.1.kind) he
    rw [(docstring?_follows_rule_iff plain hplain.1 hlplain).1]
    constructor
    · rintro ⟨e', comma, -, hstart', -⟩
      cases hstart.unique hstart'
    · rintro ⟨e', -, hstart', hpar, -⟩
      cases hstart.unique hstart'
      rw [hk] at hpar
      cases hpar
  · obtain ⟨es, hstart, hlabels⟩ := exists_startsWith htuple.2.2
    obtain ⟨e, rest, rfl, he, hrest⟩ := List.map_eq_cons_iff.1 hlabels
    obtain ⟨comma, rfl, hcomma⟩ := List.map_eq_singleton_iff.1 hrest
    have hk : e.kind = .string := congrArg (·.1.kind) he
    have hsign : comma.isSign "," = true := SyntaxTree.isSign_iff.2
      ⟨congrArg (·.1.kind) hcomma, congrArg (·.1.role) hcomma, congrArg (·.1.text) hcomma⟩
    refine ((docstring?_follows_rule_iff tuple htuple.1 hltuple).2.1
      ⟨e, comma, [quotedLetter], hstart, hsign, by rw [hk]; decide, ?_⟩).2
    exact isText_quotedLetter (.string hk (congrArg (·.1.text) he))
  · obtain ⟨es, hstart, hlabels⟩ := exists_startsWith hinner.2
    obtain ⟨e, rfl, he⟩ := List.map_eq_singleton_iff.1 hlabels
    have hk : e.kind = .parenthesizedExpression := congrArg (·.1.kind) he
    obtain ⟨s, hparts, hs⟩ := List.map_eq_singleton_iff.1 (congrArg (·.2) he)
    refine (docstring?_follows_rule_iff inner hinner.1 hlinner).2.2
      ⟨e, [quotedLetter], hstart, hk, isText_quotedLetter (.parenthesized hk hparts ?_)⟩
    exact .string (congrArg (·.kind) hs) (congrArg (·.text) hs)

end DocOutline.Docstring
