import DocOutline.Path
import DocOutline.Proofs.Text

/-!
# Names at the end of a path

A name put behind a path is the last piece of the new path, whether or not the path ends with a
slash. So ways below a directory can be read off the pieces of their paths (`below_inj`).
-/

namespace DocOutline

namespace Path

/-- Whether a text can be the name of a file or directory. -/
def isName (n : Text) : Bool :=
  n ≠ [] && n ≠ "." && n ≠ ".." && !n.contains slash && !n.contains '\x00'

section Name

variable {n : Text}

theorem isName_iff : isName n = true ↔
    n ≠ [] ∧ n ≠ ".".toList ∧ n ≠ "..".toList ∧ slash ∉ n ∧ '\x00' ∉ n := by
  simp [isName, and_assoc]

theorem isAbsolute_of_isName (hn : isName n = true) : isAbsolute ⟨n⟩ = false := by
  obtain ⟨-, -, -, hslash, -⟩ := isName_iff.1 hn
  cases n with
  | nil => rfl
  | cons c n =>
    rw [List.mem_cons, not_or] at hslash
    simpa [isAbsolute] using Ne.symm hslash.1

theorem getLast?_of_isName (hn : isName n = true) (t : Text) :
    (t ++ n).getLast? ≠ some slash := by
  obtain ⟨hne, -, -, hslash, -⟩ := isName_iff.1 hn
  intro hlast
  rw [List.getLast?_append] at hlast
  cases h : n.getLast? with
  | none => exact hne (List.getLast?_eq_none_iff.1 h)
  | some c =>
    rw [h, Option.some_or] at hlast
    exact hslash (Option.some.inj hlast ▸ List.mem_of_getLast? h)

theorem laterPart?_of_isName (hn : isName n = true) : laterPart? n = some (.name n) := by
  obtain ⟨hne, hhere, hup, -, -⟩ := isName_iff.1 hn
  unfold laterPart?
  rw [if_neg (by simpa using ⟨hne, hhere⟩), if_neg hup]

end Name

/-- The pieces of a path that ends with a name put behind this one, without the name. -/
def base (p : Path) : List Text :=
  if p.text.getLast? = some slash then p.pieces.dropLast else p.pieces

/-- A path behind which a way through directories is put. -/
def below (p : Path) (names : List Text) : Path := names.foldl child p

theorem below_cons (p : Path) (n : Text) (names : List Text) :
    p.below (n :: names) = (p.child n).below names := rfl

section Child

variable {p : Path} {n : Text}

theorem child_text (hp : p.text ≠ []) (hn : isName n = true) :
    (p.child n).text =
      if p.text.getLast? = some slash then p.text ++ n else p.text ++ slash :: n := by
  unfold child join
  rw [if_neg (by rw [isAbsolute_of_isName hn]; exact Bool.false_ne_true)]
  by_cases hlast : p.text.getLast? = some slash
  · rw [if_pos (by simp [hlast]), if_pos hlast]
  · rw [if_neg (by simp [hlast, hp]), if_neg hlast]

theorem child_text_eq_append (hp : p.text ≠ []) (hn : isName n = true) :
    ∃ more, (p.child n).text = p.text ++ (more ++ n) ∧ (more = [] ∨ more = [slash]) := by
  rw [child_text hp hn]
  split
  · exact ⟨[], rfl, Or.inl rfl⟩
  · exact ⟨[slash], rfl, Or.inr rfl⟩

theorem child_text_ne_nil (hp : p.text ≠ []) (hn : isName n = true) : (p.child n).text ≠ [] := by
  obtain ⟨more, htext, -⟩ := child_text_eq_append hp hn
  rw [htext]
  exact List.append_ne_nil_of_left_ne_nil hp _

theorem isAbsolute_child (hp : p.text ≠ []) (hn : isName n = true) :
    (p.child n).isAbsolute = p.isAbsolute := by
  obtain ⟨more, htext, -⟩ := child_text_eq_append hp hn
  obtain ⟨c, t, hc⟩ := List.exists_cons_of_ne_nil hp
  unfold isAbsolute
  rw [htext, hc]
  rfl

theorem pieces_child (hp : p.text ≠ []) (hn : isName n = true) :
    (p.child n).pieces = p.base ++ [n] := by
  obtain ⟨-, -, -, hslash, -⟩ := isName_iff.1 hn
  unfold pieces base
  rw [child_text hp hn]
  by_cases hlast : p.text.getLast? = some slash
  · obtain ⟨t, ht⟩ := List.getLast?_eq_some_iff.1 hlast
    rw [if_pos hlast, if_pos hlast, pieces, ht, List.append_assoc, List.singleton_append,
      Text.pieces_append, Text.pieces_append, Text.pieces_of_not_mem hslash,
      Text.pieces_of_not_mem List.not_mem_nil, List.dropLast_concat]
  · rw [if_neg hlast, if_neg hlast, Text.pieces_append, Text.pieces_of_not_mem hslash, pieces]

/-- Only a slash at the end of a path tells its pieces from its base. -/
theorem pieces_eq_base (p : Path) : p.pieces = p.base ∨ p.pieces = p.base ++ [[]] := by
  unfold base
  by_cases hlast : p.text.getLast? = some slash
  · right
    obtain ⟨t, ht⟩ := List.getLast?_eq_some_iff.1 hlast
    rw [if_pos hlast, pieces, ht, Text.pieces_append, Text.pieces_of_not_mem List.not_mem_nil,
      List.dropLast_concat]
  · rw [if_neg hlast]
    exact Or.inl rfl

theorem base_ne_nil (p : Path) : p.base ≠ [] := by
  unfold base
  by_cases hlast : p.text.getLast? = some slash
  · obtain ⟨t, ht⟩ := List.getLast?_eq_some_iff.1 hlast
    rw [if_pos hlast, pieces, ht, Text.pieces_append, Text.pieces_of_not_mem List.not_mem_nil,
      List.dropLast_concat]
    exact Text.pieces_ne_nil slash t
  · rw [if_neg hlast]
    exact Text.pieces_ne_nil slash p.text

theorem base_child (hp : p.text ≠ []) (hn : isName n = true) :
    (p.child n).base = p.base ++ [n] := by
  have hlast : (p.child n).text.getLast? ≠ some slash := by
    obtain ⟨more, htext, -⟩ := child_text_eq_append hp hn
    rw [htext, ← List.append_assoc]
    exact getLast?_of_isName hn _
  unfold base
  rw [if_neg hlast, pieces_child hp hn]
  rfl

theorem pieces_below (hp : p.text ≠ []) {names : List Text} (hne : names ≠ [])
    (hnames : ∀ n ∈ names, isName n = true) : (p.below names).pieces = p.base ++ names := by
  induction names generalizing p with
  | nil => exact absurd rfl hne
  | cons n names ih =>
    have hn := hnames n List.mem_cons_self
    rw [below_cons]
    cases names with
    | nil => exact pieces_child hp hn
    | cons m names =>
      rw [ih (child_text_ne_nil hp hn) (List.cons_ne_nil m names)
        (fun k hk => hnames k (List.mem_cons_of_mem n hk)), base_child hp hn, List.append_assoc,
        List.singleton_append]

/-- Different ways below a directory have different paths. -/
theorem below_inj (hp : p.text ≠ []) {names others : List Text} (hne : names ≠ [])
    (hne' : others ≠ []) (hnames : ∀ n ∈ names, isName n = true)
    (hothers : ∀ n ∈ others, isName n = true) (h : p.below names = p.below others) :
    names = others := by
  have hpieces := congrArg pieces h
  rw [pieces_below hp hne hnames, pieces_below hp hne' hothers] at hpieces
  exact List.append_cancel_left hpieces

theorem name?_child (hp : p.text ≠ []) (hn : isName n = true) : (p.child n).name? = some n := by
  obtain ⟨first, rest, hbase⟩ := List.exists_cons_of_ne_nil p.base_ne_nil
  unfold name? parts
  rw [pieces_child hp hn, hbase, List.cons_append]
  simp only [List.filterMap_append, List.filterMap_cons, laterPart?_of_isName hn,
    List.filterMap_nil]
  rw [← List.append_assoc, List.getLast?_concat]

theorem extension?_child (hp : p.text ≠ []) (hn : isName n = true) :
    (p.child n).extension? = (splitName n).2 := by
  unfold extension?
  rw [name?_child hp hn]
  rfl

end Child

theorem splitName_eq_py {n : Text} : (splitName n).2 = some "py" ↔
    ∃ stem : Text, stem ≠ [] ∧ n = stem ++ ".py" := by
  have hsplit := List.takeWhile_append_dropWhile (p := (· != '.')) (l := n.reverse)
  unfold splitName
  constructor
  · intro h
    split at h
    · cases h
    · cases h
    · rename_i d before hne heq
      have hbehind : n.reverse.takeWhile (· != '.') = ['y', 'p'] := by
        have hreverse := congrArg List.reverse (Option.some.inj h)
        rwa [List.reverse_reverse] at hreverse
      have hdot : d = '.' := by
        have hhead := List.head_dropWhile_not (· != '.') (by rw [heq]; exact List.cons_ne_nil _ _)
        simpa [heq] using hhead
      rw [hbehind, heq, hdot] at hsplit
      refine ⟨before.reverse, ?_, ?_⟩
      · intro hnil
        exact hne (List.reverse_eq_nil_iff.1 hnil)
      · rw [← List.reverse_reverse n, ← hsplit]
        simp
  · rintro ⟨stem, hne, rfl⟩
    have hreverse : (stem ++ ".py".toList).reverse = 'y' :: 'p' :: '.' :: stem.reverse := by
      simp
    rw [hreverse]
    cases hstem : stem.reverse with
    | nil => exact absurd (List.reverse_eq_nil_iff.1 hstem) hne
    | cons c cs => rfl

end Path

end DocOutline
