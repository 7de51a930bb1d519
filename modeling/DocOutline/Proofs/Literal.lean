import DocOutline.Literal
import DocOutline.Proofs.Text

/-!
# Spelling a text as a literal

A literal's body is a row of units: characters that stand for themselves, and escapes. `BodyUnit`
says how each of them is spelled and what it stands for, and `Token` is a literal as a whole, with
its letters, its quotes and a body in which the quotes are not closed too early. The decoder takes
one unit off the front of a body, whatever follows (`unescapeFrom_spelled`); so it gives the values
of all units one after the other (`decode?_token`).
-/

namespace DocOutline.Literal

/-! ## Units of a body -/

def octDigits : Text := "01234567"

def hexDigits : Text := "0123456789abcdefABCDEF"

/-- The value of a digit; letters count in either case. -/
def digitValue (c : Char) : Nat := ("0123456789abcdef" : Text).idxOf c.toLower

/-- The number that a row of digits spells, the highest place first. -/
def numberIn (base : Nat) : Text → Nat
  | [] => 0
  | d :: ds => digitValue d * Nat.pow base ds.length + numberIn base ds

/-- The one-letter escapes and what they stand for. -/
def simpleEscapes : List (Char × Char) :=
  [('\\', '\\'), ('\'', '\''), ('"', '"'), ('n', '\n'), ('t', '\t'), ('r', '\r'), ('a', '\x07'),
    ('b', '\x08'), ('f', '\x0c'), ('v', '\x0b')]

/-- The letters of escapes by code point, with the number of digits behind them. -/
def codeEscapes : List (Char × Nat) := [('u', 4), ('U', 8)]

/-- The characters that start an escape behind a backslash. -/
def escapeStarts : Text :=
  '\n' :: 'x' :: (octDigits ++ simpleEscapes.map Prod.fst ++ codeEscapes.map Prod.fst)

/-- A unit of a body. -/
inductive BodyUnit where
  | plain (c : Char) (h : c ≠ '\\')
  | simple (p : Char × Char) (h : p ∈ simpleEscapes)
  | octal (d : Char) (more : Text) (h : ∀ c ∈ d :: more, c ∈ octDigits) (hlen : more.length ≤ 2)
  | hex (a b : Char) (h : ∀ c ∈ [a, b], c ∈ hexDigits)
  | code (p : Char × Nat) (ds : Text) (hp : p ∈ codeEscapes) (h : ∀ c ∈ ds, c ∈ hexDigits)
      (hlen : ds.length = p.2) (hscalar : (numberIn 16 ds).isValidChar)
  /-- A backslash at the end of a line. -/
  | continuation
  | unknown (c : Char) (h : c ∉ escapeStarts)

namespace BodyUnit

def spelled : BodyUnit → Text
  | plain c _ => [c]
  | simple p _ => ['\\', p.1]
  | octal d more _ _ => '\\' :: d :: more
  | hex a b _ => ['\\', 'x', a, b]
  | code p ds _ _ _ _ => '\\' :: p.1 :: ds
  | continuation => ['\\', '\n']
  | unknown c _ => ['\\', c]

def value : BodyUnit → Text
  | plain c _ => [c]
  | simple p _ => [p.2]
  | octal d more _ _ => [Char.ofNat (numberIn 8 (d :: more))]
  | hex a b _ => [Char.ofNat (numberIn 16 [a, b])]
  | code _ ds _ _ _ _ => [Char.ofNat (numberIn 16 ds)]
  | continuation => []
  | unknown c _ => ['\\', c]

/-- An octal escape of less than three digits ends before a digit only if that is no octal one. -/
def MayPrecede (rest : Text) : BodyUnit → Prop
  | octal _ more _ _ => more.length < 2 → ∀ c ∈ rest.head?, c ∉ octDigits
  | _ => True

theorem mayPrecede_octal (rest : Text) (d : Char) (more : Text)
    (h : ∀ c ∈ d :: more, c ∈ octDigits) (hlen : more.length ≤ 2) :
    (more.length < 2 → rest.head?.all (· ∉ octDigits) = true) ↔
      (octal d more h hlen).MayPrecede rest := by
  refine imp_congr_right fun _ => ?_
  cases rest <;> simp

instance (rest : Text) : (u : BodyUnit) → Decidable (u.MayPrecede rest)
  | octal d more h hlen => decidable_of_decidable_of_iff (mayPrecede_octal rest d more h hlen)
  | plain .. | simple .. | hex .. | code .. | continuation | unknown .. => isTrue True.intro

end BodyUnit

def spelling (us : List BodyUnit) : Text := us.flatMap BodyUnit.spelled

def meaning (us : List BodyUnit) : Text := us.flatMap BodyUnit.value

/-- Every unit ends where the next one starts. -/
def InStep : List BodyUnit → Prop
  | [] => True
  | u :: us => u.MayPrecede (spelling us) ∧ InStep us

instance : (us : List BodyUnit) → Decidable (InStep us)
  | [] => isTrue True.intro
  | u :: us =>
    have := instDecidableInStep us
    inferInstanceAs (Decidable (u.MayPrecede (spelling us) ∧ InStep us))

/-! ## Classes of characters -/

theorem isOctDigit_iff {c : Char} : isOctDigit c = true ↔ c ∈ octDigits := by
  refine ⟨fun h => ?_, fun h => ?_⟩
  · have hmem : c.toNat ∈ octDigits.map Char.toNat := by
      simp only [isOctDigit, Bool.and_eq_true, decide_eq_true_eq, Char.le_def,
        UInt32.le_iff_toNat_le] at h
      have hlow : 48 ≤ c.toNat := h.1
      have hhigh : c.toNat ≤ 55 := h.2
      change c.toNat ∈ [48, 49, 50, 51, 52, 53, 54, 55]
      simp only [List.mem_cons, List.not_mem_nil, or_false]
      omega
    obtain ⟨d, hd, he⟩ := List.mem_map.1 hmem
    rwa [← Char.toNat_inj.1 he]
  · exact Text.forall_mem (P := (isOctDigit · = true)) (by decide) c h

theorem simpleEscapes_facts :
    ∀ p ∈ simpleEscapes, p.1 ≠ '\n' ∧ simpleEscape? p.1 = some p.2 := by decide

theorem octDigits_facts : ∀ c ∈ octDigits, c ≠ '\n' ∧ simpleEscape? c = none ∧
    c.toNat - 48 = digitValue c := Text.forall_mem (by decide)

theorem hexDigits_facts : ∀ c ∈ hexDigits, hexDigit? c = some (digitValue c) :=
  Text.forall_mem (by decide)

theorem codeEscapes_facts : ∀ p ∈ ('x', 2) :: codeEscapes, p.1 ≠ '\n' ∧
    simpleEscape? p.1 = none ∧ isOctDigit p.1 = false ∧ codeWidth? p.1 = some p.2 := by decide

theorem unknown_facts {c : Char} (h : c ∉ escapeStarts) : c ≠ '\n' ∧ simpleEscape? c = none ∧
    isOctDigit c = false ∧ codeWidth? c = none := by
  simp only [escapeStarts, List.mem_cons, List.mem_append, not_or] at h
  obtain ⟨hnewline, hx, ⟨hoct, hsimple⟩, hcode⟩ := h
  refine ⟨hnewline, ?_, ?_, ?_⟩
  · simp only [simpleEscapes, List.map_cons, List.map_nil, List.mem_cons, not_or] at hsimple
    simp [simpleEscape?, hsimple]
  · rw [← Bool.not_eq_true, isOctDigit_iff]
    exact hoct
  · simp only [codeEscapes, List.map_cons, List.map_nil, List.mem_cons, not_or] at hcode
    simp [codeWidth?, hx, hcode]

/-! ## Numbers -/

theorem foldl_digits {base : Nat} (digit : Char → Nat) {ds : Text}
    (hds : ∀ d ∈ ds, digit d = digitValue d) (n : Nat) :
    ds.foldl (fun n d => base * n + digit d) n =
      n * Nat.pow base ds.length + numberIn base ds := by
  induction ds generalizing n with
  | nil => exact (Nat.mul_one n).symm
  | cons d ds ih =>
    have hpow : Nat.pow base (d :: ds).length = Nat.pow base ds.length * base := rfl
    rw [List.foldl_cons, ih (fun c hc => hds c (List.mem_cons_of_mem d hc)),
      hds d List.mem_cons_self, hpow, numberIn, Nat.add_mul]
    have hcomm : base * n * Nat.pow base ds.length = n * (Nat.pow base ds.length * base) := by
      rw [Nat.mul_comm base n, Nat.mul_assoc, Nat.mul_comm base]
    omega

theorem octValue_eq {ds : Text} (hds : ∀ d ∈ ds, d ∈ octDigits) :
    octValue ds = numberIn 8 ds := by
  unfold octValue
  rw [foldl_digits (fun d => d.toNat - 48) (fun d hd => (octDigits_facts d (hds d hd)).2.2)]
  omega

theorem hexValue?_eq {ds : Text} (hds : ∀ d ∈ ds, d ∈ hexDigits) :
    hexValue? ds = some (numberIn 16 ds) := by
  have hfold : ∀ n, ds.foldlM (fun n d => (hexDigit? d).map (16 * n + ·)) n =
      some (ds.foldl (fun n d => 16 * n + digitValue d) n) := by
    induction ds with
    | nil => intro n; rfl
    | cons d ds ih =>
      intro n
      rw [List.foldlM_cons, hexDigits_facts d (hds d List.mem_cons_self)]
      exact ih (fun c hc => hds c (List.mem_cons_of_mem d hc)) _
  unfold hexValue?
  rw [hfold, foldl_digits digitValue (fun _ _ => rfl), Nat.zero_mul, Nat.zero_add]

theorem codePoint?_append {ds : Text} (hds : ∀ d ∈ ds, d ∈ hexDigits)
    (hscalar : (numberIn 16 ds).isValidChar) (rest : Text) :
    codePoint? ds.length (ds ++ rest) = some (Char.ofNat (numberIn 16 ds)) := by
  unfold codePoint?
  rw [if_neg (by simp), List.take_left', hexValue?_eq hds]
  · exact if_pos hscalar
  · rfl

/-! ## One unit -/

/-- What belongs to an escape that is already read does not count. -/
theorem unescapeFrom_skip (read rest : Text) :
    unescapeFrom read.length (read ++ rest) = unescapeFrom 0 rest := by
  induction read with
  | nil => rfl
  | cons c read ih => exact ih

theorem unescapeFrom_escape {c : Char} (read : Text) {rest value : Text}
    (h : escapeValue c (read ++ rest) = (value, read.length)) :
    unescapeFrom 0 ('\\' :: c :: (read ++ rest)) = value ++ unescapeFrom 0 rest := by
  rw [unescapeFrom]
  simp only [if_true, h]
  rw [← unescapeFrom_skip (c :: read) rest]
  rfl

theorem escapeValue_simple {p : Char × Char} (h : p ∈ simpleEscapes) (rest : Text) :
    escapeValue p.1 rest = ([p.2], 0) := by
  obtain ⟨hnewline, hsimple⟩ := simpleEscapes_facts p h
  simp only [escapeValue, if_neg hnewline, hsimple]

theorem takeWhile_octal {more rest : Text} (hmore : ∀ c ∈ more, c ∈ octDigits)
    (hlen : more.length ≤ 2) (hrest : more.length < 2 → ∀ c ∈ rest.head?, c ∉ octDigits) :
    ((more ++ rest).take 2).takeWhile isOctDigit = more := by
  have hall : ∀ c ∈ more, isOctDigit c = true := fun c hc => isOctDigit_iff.2 (hmore c hc)
  rw [List.take_append, List.take_of_length_le hlen,
    List.takeWhile_append_of_pos hall]
  rcases Nat.lt_or_ge more.length 2 with hlt | hge
  · cases rest with
    | nil => simp
    | cons c rest =>
      have hc : isOctDigit c = false := by
        rw [← Bool.not_eq_true, isOctDigit_iff]
        exact hrest hlt c rfl
      obtain ⟨k, hk⟩ : ∃ k, 2 - more.length = k + 1 := ⟨1 - more.length, by omega⟩
      rw [hk, List.take_succ_cons, List.takeWhile_cons_of_neg (by simp [hc]), List.append_nil]
  · rw [Nat.sub_eq_zero_of_le hge]
    simp

theorem escapeValue_octal {d : Char} {more rest : Text} (h : ∀ c ∈ d :: more, c ∈ octDigits)
    (hlen : more.length ≤ 2) (hrest : more.length < 2 → ∀ c ∈ rest.head?, c ∉ octDigits) :
    escapeValue d (more ++ rest) = ([Char.ofNat (numberIn 8 (d :: more))], more.length) := by
  have hd := h d List.mem_cons_self
  obtain ⟨hnewline, hsimple, -⟩ := octDigits_facts d hd
  have hmore := takeWhile_octal (fun c hc => h c (List.mem_cons_of_mem d hc)) hlen hrest
  simp only [escapeValue, if_neg hnewline, hsimple, isOctDigit_iff.2 hd, if_true, hmore,
    octValue_eq h]

theorem escapeValue_code {p : Char × Nat} {ds : Text} (hp : p ∈ ('x', 2) :: codeEscapes)
    (hds : ∀ c ∈ ds, c ∈ hexDigits) (hlen : ds.length = p.2)
    (hscalar : (numberIn 16 ds).isValidChar) (rest : Text) :
    escapeValue p.1 (ds ++ rest) = ([Char.ofNat (numberIn 16 ds)], ds.length) := by
  obtain ⟨hnewline, hsimple, hoct, hwidth⟩ := codeEscapes_facts p hp
  have hcode := codePoint?_append hds hscalar rest
  rw [hlen] at hcode
  simp only [escapeValue, if_neg hnewline, hsimple, hoct, Bool.false_eq_true, if_false, hwidth,
    hcode, hlen]

theorem escapeValue_unknown {c : Char} (h : c ∉ escapeStarts) (rest : Text) :
    escapeValue c rest = (['\\', c], 0) := by
  obtain ⟨hnewline, hsimple, hoct, hwidth⟩ := unknown_facts h
  simp only [escapeValue, if_neg hnewline, hsimple, hoct, Bool.false_eq_true, if_false, hwidth]

theorem digitValue_lt : ∀ c ∈ hexDigits, digitValue c < 16 := Text.forall_mem (by decide)

theorem isValidChar_hex {a b : Char} (h : ∀ c ∈ [a, b], c ∈ hexDigits) :
    (numberIn 16 [a, b]).isValidChar := by
  have ha := digitValue_lt a (h a List.mem_cons_self)
  have hb := digitValue_lt b (h b (List.mem_cons_of_mem a List.mem_cons_self))
  have hn : numberIn 16 [a, b] = digitValue a * 16 + digitValue b := by
    simp [numberIn]
  left
  rw [hn]
  omega

/-- The decoder takes one unit off the front of a body. -/
theorem unescapeFrom_spelled (u : BodyUnit) {rest : Text} (h : u.MayPrecede rest) :
    unescapeFrom 0 (u.spelled ++ rest) = u.value ++ unescapeFrom 0 rest := by
  cases u with
  | plain c hc =>
    exact if_neg hc
  | simple p hp => exact unescapeFrom_escape [] (escapeValue_simple hp rest)
  | octal d more hds hlen => exact unescapeFrom_escape more (escapeValue_octal hds hlen h)
  | hex a b hds =>
    exact unescapeFrom_escape [a, b]
      (escapeValue_code (p := ('x', 2)) List.mem_cons_self hds rfl (isValidChar_hex hds) rest)
  | code p ds hp hds hlen hscalar =>
    exact unescapeFrom_escape ds
      (escapeValue_code (List.mem_cons_of_mem _ hp) hds hlen hscalar rest)
  | continuation => exact unescapeFrom_escape [] rfl
  | unknown c hc => exact unescapeFrom_escape [] (escapeValue_unknown hc rest)

theorem unescape_spelling {us : List BodyUnit} (h : InStep us) :
    unescape (spelling us) = meaning us := by
  induction us with
  | nil => rfl
  | cons u us ih =>
    have hfirst := unescapeFrom_spelled u h.1
    have hrest : unescapeFrom 0 (spelling us) = meaning us := ih h.2
    rw [hrest] at hfirst
    exact hfirst

/-! ## Whole literals -/

/-- How much of a text comes before the first closing quotes. A backslash hides what is behind it.
-/
def closeAt? (quotes : Text) : Text → Option Nat
  | [] => none
  | [c] => if quotes.isPrefixOf [c] then some 0 else none
  | c :: d :: rest =>
    if quotes.isPrefixOf (c :: d :: rest) then some 0
    else if c = '\\' then (closeAt? quotes rest).map (· + 2)
    else (closeAt? quotes (d :: rest)).map (· + 1)

/-- A string literal: letters, quotes, a body, and the quotes again, which close it. -/
structure Token where
  letters : Text
  quote : Char
  width : Nat
  body : Text
  letters_legal : ∀ c ∈ letters, c ∈ ("rRuUbBfF" : Text)
  quote_legal : quote = '\'' ∨ quote = '"'
  width_legal : width = 1 ∨ width = 3
  closed : closeAt? (List.replicate width quote) (body ++ List.replicate width quote) =
    some body.length

namespace Token

variable (t : Token)

def quotes : Text := List.replicate t.width t.quote

def quoted : Text := t.quotes ++ (t.body ++ t.quotes)

def text : Text := t.letters ++ t.quoted

/-- One of these letters stands before the quotes. -/
def HasLetter (cs : Text) : Prop := ∃ c ∈ t.letters, c ∈ cs

theorem any_letters_iff (cs : Text) :
    t.letters.any (fun c => cs.contains c) = true ↔ t.HasLetter cs := by
  simp [HasLetter]

instance (cs : Text) : Decidable (t.HasLetter cs) :=
  decidable_of_decidable_of_iff (t.any_letters_iff cs)

theorem hasLetter_append (cs ds : Text) :
    t.HasLetter (cs ++ ds) ↔ t.HasLetter cs ∨ t.HasLetter ds := by
  simp only [HasLetter, List.mem_append, and_or_left, exists_or]

theorem isQuote_quote : isQuote t.quote = true := by
  rcases t.quote_legal with h | h <;> rw [h] <;> decide

theorem utf8Size_quote : t.quote.utf8Size = 1 := by
  rcases t.quote_legal with h | h <;> rw [h] <;> decide

theorem quotes_eq_cons : ∃ more, t.quotes = t.quote :: more := by
  unfold quotes
  rcases t.width_legal with h | h <;> rw [h] <;> exact ⟨_, rfl⟩

theorem not_isQuote_letters : ∀ c ∈ t.letters, (!isQuote c) = true := by
  have hlegal : ∀ c ∈ ("rRuUbBfF" : Text), (!isQuote c) = true := Text.forall_mem (by decide)
  intro c hc
  exact hlegal c (t.letters_legal c hc)

theorem takeWhile_text : t.text.takeWhile (!isQuote ·) = t.letters := by
  obtain ⟨more, hmore⟩ := t.quotes_eq_cons
  unfold text quoted
  rw [List.takeWhile_append_of_pos t.not_isQuote_letters, hmore, List.cons_append,
    List.takeWhile_cons_of_neg (by simp [t.isQuote_quote]), List.append_nil]

theorem dropWhile_text : t.text.dropWhile (!isQuote ·) = t.quoted := by
  obtain ⟨more, hmore⟩ := t.quotes_eq_cons
  unfold text quoted
  rw [List.dropWhile_append_of_pos t.not_isQuote_letters, hmore, List.cons_append,
    List.dropWhile_cons_of_neg (by simp [t.isQuote_quote])]

/-- The first character of a body is no quote that would close a single one. -/
theorem head_ne_quote {c : Char} {rest : Text} (hwidth : t.width = 1) (hbody : t.body = c :: rest) :
    c ≠ t.quote := by
  rintro rfl
  have hclosed := t.closed
  rw [hwidth, hbody] at hclosed
  cases rest <;> simp [closeAt?] at hclosed

theorem quoteWidth_quoted : quoteWidth t.quoted = t.width := by
  unfold quoted quotes
  rcases t.width_legal with hwidth | hwidth
  · rw [hwidth]
    cases hbody : t.body with
    | nil => rcases t.quote_legal with hq | hq <;> rw [hq] <;> rfl
    | cons c rest =>
      have hc := t.head_ne_quote hwidth hbody
      change quoteWidth (t.quote :: c :: (rest ++ [t.quote])) = 1
      unfold quoteWidth
      split
      · rename_i heq
        simp only [List.cons.injEq] at heq
        exact absurd (heq.2.1.trans heq.1.symm) hc
      · rename_i heq
        simp only [List.cons.injEq] at heq
        exact absurd (heq.2.1.trans heq.1.symm) hc
      · rfl
  · rw [hwidth]
    rcases t.quote_legal with hq | hq <;> rw [hq] <;> rfl

theorem byteSize_quotes : Text.byteSize t.quotes = t.width := by
  unfold quotes
  induction t.width with
  | zero => rfl
  | succ n ih =>
    rw [List.replicate_succ, Text.byteSize_cons, ih, t.utf8Size_quote, Nat.add_comm]

theorem byteSize_quoted :
    Text.byteSize t.quoted = t.width + (Text.byteSize t.body + t.width) := by
  rw [quoted, Text.byteSize_append, Text.byteSize_append, byteSize_quotes]

end Token

theorem dropBytes_replicate {q : Char} (hq : q.utf8Size = 1) (n : Nat) (rest : Text) :
    dropBytes n (List.replicate n q ++ rest) = rest := by
  induction n with
  | zero => cases rest <;> rfl
  | succ n ih =>
    rw [List.replicate_succ, List.cons_append, dropBytes, hq]
    exact ih

theorem body?_quoted (t : Token) : body? t.quoted = some t.body := by
  unfold body?
  simp only [t.quoteWidth_quoted, t.byteSize_quoted]
  rw [if_neg (by omega)]
  have hdrop : t.quoted.drop t.width = t.body ++ t.quotes := by
    rw [Token.quoted, List.drop_left']
    exact List.length_replicate
  rw [hdrop, List.reverse_append, Token.quotes, List.reverse_replicate,
    dropBytes_replicate t.utf8Size_quote, List.reverse_reverse]

/-- The decoder looks for letters in lower case. -/
theorem contains_asciiLower (t : Token) (x : Char) (cs : Text)
    (h : ∀ c ∈ ("rRuUbBfF" : Text), c.toLower = x ↔ c ∈ cs) :
    (Text.asciiLower t.letters).contains x = true ↔ t.HasLetter cs := by
  unfold Text.asciiLower Token.HasLetter
  rw [List.contains_iff_mem, List.mem_map]
  exact exists_congr fun c => and_congr_right fun hc => h c (t.letters_legal c hc)

theorem decode?_text (t : Token) : decode? t.text =
    if (Text.asciiLower t.letters).contains 'f' || (Text.asciiLower t.letters).contains 'b' then none
    else if (Text.asciiLower t.letters).contains 'r' then some t.body
    else some (unescape t.body) := by
  have hempty : t.quoted.isEmpty = false := by
    obtain ⟨more, hmore⟩ := t.quotes_eq_cons
    rw [Token.quoted, hmore]
    rfl
  unfold decode?
  simp only [t.takeWhile_text, t.dropWhile_text, hempty, body?_quoted, Bool.false_or,
    Option.map_some]
  split
  · rfl
  · split <;> rfl

/-- The decoder cuts a token only between characters: behind its letters, and behind and before its
quotes. -/
def CutsFit (token : Text) : Prop :=
  let quoted : Text := token.dropWhile (!isQuote ·)
  token.CutsAt (Text.byteSize (token.takeWhile (!isQuote ·))) ∧
    2 * quoteWidth quoted ≤ Text.byteSize quoted ∧
    quoted.CutsAt (quoteWidth quoted) ∧
    quoted.CutsAt (Text.byteSize quoted - quoteWidth quoted)

theorem cutsFit_text (t : Token) : CutsFit t.text := by
  unfold CutsFit
  simp only [t.takeWhile_text, t.dropWhile_text, t.quoteWidth_quoted, t.byteSize_quoted]
  refine ⟨⟨t.letters, t.quoted, rfl, rfl⟩, by omega, ⟨t.quotes, _, rfl, t.byteSize_quotes⟩,
    ⟨t.quotes ++ t.body, t.quotes, ?_, ?_⟩⟩
  · rw [Token.quoted, List.append_assoc]
  · rw [Text.byteSize_append, t.byteSize_quotes]
    omega

/-- A literal denotes the values of the units of its body, a raw literal its body as it stands, and a
formatted or bytes literal no fixed text. -/
theorem decode?_token (t : Token) :
    (t.HasLetter "fFbB" → decode? t.text = none) ∧
    (¬ t.HasLetter "fFbB" → t.HasLetter "rR" → decode? t.text = some t.body) ∧
    (¬ t.HasLetter "fFbB" → ¬ t.HasLetter "rR" → ∀ us : List BodyUnit, InStep us →
      t.body = spelling us → decode? t.text = some (meaning us)) ∧
    CutsFit t.text := by
  have hvariable : ((Text.asciiLower t.letters).contains 'f' ||
      (Text.asciiLower t.letters).contains 'b') = true ↔ t.HasLetter "fFbB" := by
    rw [Bool.or_eq_true, contains_asciiLower t 'f' "fF" (Text.forall_mem (by decide)),
      contains_asciiLower t 'b' "bB" (Text.forall_mem (by decide)), ← t.hasLetter_append]
    rfl
  have hraw := contains_asciiLower t 'r' "rR" (Text.forall_mem (by decide))
  rw [decode?_text]
  refine ⟨?_, ?_, ?_, cutsFit_text t⟩
  · intro hv
    exact if_pos (hvariable.2 hv)
  · intro hv hr
    rw [if_neg (mt hvariable.1 hv), if_pos (hraw.2 hr)]
  · intro hv hr us hus hbody
    rw [if_neg (mt hvariable.1 hv), if_neg (mt hraw.1 hr), hbody, unescape_spelling hus]

/-- A short octal escape before another digit, code points of every length, a quote in the body, a
continued line and an unknown escape. -/
theorem decode?_token_escapes :
    let us : List BodyUnit := [.octal '0' ['7'] (Text.forall_mem (by decide)) (by decide),
      .plain '8' (by decide), .hex '4' 'a' (Text.forall_mem (by decide)), .plain '"' (by decide),
      .code ('u', 4) "00e9" (by decide) (Text.forall_mem (by decide)) rfl (by decide),
      .code ('U', 8) "0001F600" (by decide) (Text.forall_mem (by decide)) rfl (by decide),
      .continuation, .simple ('"', '"') (by decide), .unknown 'd' (by decide)]
    let t : Token := ⟨"u", '"', 3, spelling us, Text.forall_mem (by decide), by decide, by decide,
      by decide⟩
    t.text = "u\"\"\"\\078\\x4a\"\\u00e9\\U0001F600\\\n\\\"\\d\"\"\"".toList ∧ InStep us ∧
      ¬ t.HasLetter "fFbB" ∧ ¬ t.HasLetter "rR" ∧
      decode? t.text = some "\x078J\"é😀\"\\d".toList := by
  intro us t
  have hus : InStep us := by decide
  have hv : ¬ t.HasLetter "fFbB" := by decide
  have hr : ¬ t.HasLetter "rR" := by decide
  refine ⟨by decide, hus, hv, hr, ?_⟩
  rw [(decode?_token t).2.2.1 hv hr us hus rfl]
  decide

end DocOutline.Literal
