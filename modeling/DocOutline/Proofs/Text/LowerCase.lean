import DocOutline.Text.LowerCase
import Mathlib

/-!
# Lower case is settled

The lower-case forms of characters are no capital letters: the runs of the table are checked against
each other (`isApart_capitalRuns`), not character by character. The final form of the sigma depends
on the text around it, but both of its forms are settled, so a text in lower case stays what it is
wherever it stands and whatever is left out of it (`lower_eq_self_iff`).
-/

namespace DocOutline

namespace CapitalRun

/-- The code points with a lower-case form by this run. -/
structure Reaches (r : CapitalRun) (n : Nat) : Prop where
  first : r.first ≤ n
  last : n ≤ r.last
  step : (n - r.first) % r.step = 0

/-- Whether no lower-case form of a run is a capital letter of another one: it lies outside of it,
or between two of its letters. -/
def isApart (r q : CapitalRun) : Bool :=
  r.image + (r.last - r.first) < q.first || q.last < r.image ||
    (q.step = 2 && (r.step = 2 || r.first = r.last) && (r.image + q.first) % 2 = 1)

theorem not_reaches_of_isApart {r q : CapitalRun} (h : r.isApart q = true) {n : Nat}
    (hn : r.Reaches n) : ¬q.Reaches (r.image + (n - r.first)) := by
  rintro ⟨hfirst, hlast, hstep⟩
  obtain ⟨hfirst', hlast', hstep'⟩ := hn
  simp only [isApart, Bool.or_eq_true, Bool.and_eq_true, decide_eq_true_eq] at h
  rcases h with (h | h) | ⟨⟨hq, hr | hr⟩, hodd⟩
  · omega
  · omega
  · rw [hq] at hstep
    rw [hr] at hstep'
    omega
  · rw [hq] at hstep
    omega

/-- Whether the lower-case forms of a run are characters other than the space and the capital letter
that has a form of two characters. -/
def isSound (r : CapitalRun) : Bool :=
  0x20 < r.image && (r.image + (r.last - r.first) < 0x130 || 0x130 < r.image) &&
    (r.image + (r.last - r.first) < 0xD800 ||
      (0xDFFF < r.image && r.image + (r.last - r.first) < 0x110000))

theorem isApart_capitalRuns : (capitalRuns.all fun r => capitalRuns.all r.isApart) = true := by
  decide +kernel

theorem isSound_capitalRuns : capitalRuns.all isSound = true := by
  decide +kernel

end CapitalRun

/-! ## Code points -/

/-- A code point is settled or has its form from a run that reaches it. -/
theorem lowerCode_cases (rs : List CapitalRun) (n : Nat) : lowerCode rs n = n ∨
    ∃ r ∈ rs, r.Reaches n ∧ lowerCode rs n = r.image + (n - r.first) := by
  induction rs with
  | nil => exact .inl rfl
  | cons r rs ih =>
    rw [lowerCode]
    by_cases hfirst : n < r.first
    · exact .inl (if_pos hfirst)
    rw [if_neg hfirst]
    by_cases hlast : n ≤ r.last
    · rw [if_pos hlast]
      by_cases hstep : (n - r.first) % r.step = 0
      · refine .inr ⟨r, List.mem_cons_self, ⟨Nat.le_of_not_lt hfirst, hlast, hstep⟩, ?_⟩
        rw [if_pos hstep]
      · exact .inl (if_neg hstep)
    · rw [if_neg hlast]
      exact ih.imp_right fun ⟨q, hq, h⟩ => ⟨q, List.mem_cons_of_mem r hq, h⟩

theorem lowerCode_eq_self {rs : List CapitalRun} {n : Nat} (h : ∀ r ∈ rs, ¬r.Reaches n) :
    lowerCode rs n = n := by
  rcases lowerCode_cases rs n with heq | ⟨r, hr, hreaches, -⟩
  · exact heq
  · exact absurd hreaches (h r hr)

theorem lowerCode_image {r : CapitalRun} (hr : r ∈ capitalRuns) {n : Nat} (hn : r.Reaches n) :
    lowerCode capitalRuns (r.image + (n - r.first)) = r.image + (n - r.first) := by
  have hapart := List.all_eq_true.1 CapitalRun.isApart_capitalRuns r hr
  refine lowerCode_eq_self fun q hq => ?_
  exact CapitalRun.not_reaches_of_isApart (List.all_eq_true.1 hapart q hq) hn

/-! ## Characters -/

/-- A character whose lower-case form is itself, wherever it stands. -/
structure IsLower (c : Char) : Prop where
  lowerChar : lowerChar c = [c]
  ne_sigma : c.toNat ≠ 0x3A3

theorem isLower_of_lowerCode {c : Char} (hcode : lowerCode capitalRuns c.toNat = c.toNat)
    (hne : c.toNat ≠ 0x130) : IsLower c := by
  refine ⟨?_, fun hsigma => ?_⟩
  · rw [DocOutline.lowerChar, if_neg hne, hcode, Char.ofNat_toNat]
  · rw [hsigma] at hcode
    revert hcode
    decide +kernel

theorem image_sound {r : CapitalRun} (hr : r ∈ capitalRuns) {n : Nat} (hn : r.Reaches n) :
    Nat.isValidChar (r.image + (n - r.first)) ∧ r.image + (n - r.first) ≠ 0x20 ∧
      r.image + (n - r.first) ≠ 0x130 := by
  obtain ⟨hfirst, hlast, -⟩ := hn
  have hsound := List.all_eq_true.1 CapitalRun.isSound_capitalRuns r hr
  simp only [CapitalRun.isSound, Bool.and_eq_true, Bool.or_eq_true, decide_eq_true_eq] at hsound
  obtain ⟨⟨hspace, hdotted⟩, hvalid⟩ := hsound
  refine ⟨?_, by omega, by omega⟩
  rcases hvalid with hvalid | hvalid
  · exact .inl (by omega)
  · exact .inr (by omega)

/-- The lower-case form of a character is settled, and it is no space unless the character is. -/
theorem isLower_of_mem_lowerChar {c d : Char} (h : d ∈ lowerChar c) :
    IsLower d ∧ (d = ' ' → c = ' ') := by
  rw [lowerChar] at h
  by_cases hdotted : c.toNat = 0x130
  · rw [if_pos hdotted, List.mem_cons, List.mem_singleton] at h
    rcases h with rfl | rfl
    · exact ⟨⟨by decide +kernel, by decide⟩, fun h => absurd h (by decide)⟩
    · exact ⟨⟨by decide +kernel, by decide⟩, fun h => absurd h (by decide)⟩
  · rw [if_neg hdotted, List.mem_singleton] at h
    rcases lowerCode_cases capitalRuns c.toNat with hcode | ⟨r, hr, hreaches, hcode⟩
    · rw [hcode, Char.ofNat_toNat] at h
      subst h
      exact ⟨isLower_of_lowerCode hcode hdotted, id⟩
    · obtain ⟨hvalid, hspace, hne⟩ := image_sound hr hreaches
      have hd : d.toNat = r.image + (c.toNat - r.first) := by
        rw [h, hcode, Char.toNat_ofNat, if_pos hvalid]
      refine ⟨isLower_of_lowerCode ?_ ?_, fun hd' => ?_⟩
      · rw [hd, lowerCode_image hr hreaches]
      · rw [hd]
        exact hne
      · rw [hd'] at hd
        exact absurd hd.symm hspace

/-! ## Texts -/

namespace Text

/-- One character of a text: its form is settled, and is the character itself if that is. -/
theorem lowerAfter_cons (before : Text) (c : Char) (t : Text) : ∃ form : Text,
    lowerAfter before (c :: t) = form ++ lowerAfter (c :: before) t ∧
      (∀ d ∈ form, IsLower d ∧ (d = ' ' → c = ' ')) ∧ (IsLower c → form = [c]) := by
  by_cases hsigma : c.toNat = 0x3A3
  · refine ⟨_, by rw [lowerAfter, if_pos hsigma], fun d hd => ?_, fun h => absurd hsigma h.ne_sigma⟩
    rw [List.mem_singleton] at hd
    split at hd
    · rw [hd]
      exact ⟨⟨by decide +kernel, by decide⟩, fun h => absurd h (by decide)⟩
    · rw [hd]
      exact ⟨⟨by decide +kernel, by decide⟩, fun h => absurd h (by decide)⟩
  · exact ⟨lowerChar c, by rw [lowerAfter, if_neg hsigma], fun d hd => isLower_of_mem_lowerChar hd,
      fun h => h.lowerChar⟩

theorem isLower_of_mem_lowerAfter {before t : Text} {d : Char} (h : d ∈ lowerAfter before t) :
    IsLower d ∧ (d = ' ' → ' ' ∈ t) := by
  induction t generalizing before with
  | nil => cases h
  | cons c t ih =>
    obtain ⟨form, hform, hlower, -⟩ := lowerAfter_cons before c t
    rw [hform, List.mem_append] at h
    rcases h with h | h
    · exact ⟨(hlower d h).1, fun hd => (hlower d h).2 hd ▸ List.mem_cons_self⟩
    · exact ⟨(ih h).1, fun hd => List.mem_cons_of_mem c ((ih h).2 hd)⟩

theorem lowerAfter_eq_self {t : Text} (h : ∀ c ∈ t, IsLower c) (before : Text) :
    lowerAfter before t = t := by
  induction t generalizing before with
  | nil => rfl
  | cons c t ih =>
    rw [List.forall_mem_cons] at h
    obtain ⟨form, hform, -, hself⟩ := lowerAfter_cons before c t
    rw [hform, hself h.1, ih h.2, List.singleton_append]

/-- A text is in lower case if each of its characters is. -/
theorem lower_eq_self_iff {t : Text} : lower t = t ↔ ∀ c ∈ t, IsLower c := by
  constructor
  · intro h c hc
    rw [← h] at hc
    exact (isLower_of_mem_lowerAfter hc).1
  · exact fun h => lowerAfter_eq_self h []

end Text

end DocOutline
