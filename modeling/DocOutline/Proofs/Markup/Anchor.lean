import DocOutline.Markup.Anchor
import DocOutline.Proofs.Text.Lines
import DocOutline.Proofs.Text.LowerCase

/-!
# Anchors of anchors

An anchor holds nothing that the steps of `anchor` act on: no parenthesis, no space, no capital
letter and nothing that is dropped. The texts of this form are exactly those that are their own
anchors, so that to make an anchor twice is to make it once (`anchor_of_anchor`).
-/

namespace DocOutline.Markup

open Text

/-! ## Steps that change nothing -/

theorem dunderCall?_eq_none {t : Text} (h : '(' ∉ t) : dunderCall? t = none := by
  rw [dunderCall?]
  cases hinner : after? "__" t with
  | none => rfl
  | some inner =>
    have hnot : '(' ∉ inner := by
      rw [after?_eq_some_iff.1 hinner, List.mem_append, not_or] at h
      exact h.2
    dsimp only
    split
    · next rest name hrest _ =>
      have hmem : '(' ∈ inner.dropWhile isDunderChar := hrest ▸ List.mem_cons_self
      exact absurd (List.dropWhile_subset isDunderChar hmem) hnot
    · rfl

theorem stripDunder_eq_self {t : Text} (h : '(' ∉ t) : stripDunder t = t := by
  induction t with
  | nil => rfl
  | cons c t ih =>
    rw [stripDunder, dunderCall?_eq_none h]
    rw [List.mem_cons, not_or] at h
    exact congrArg (c :: ·) (ih h.2)

/-! ## The form of an anchor -/

/-- What makes a text an anchor: word characters and hyphens, none of them a capital letter. -/
structure IsAnchor (t : Text) : Prop where
  chars : ∀ c ∈ t, isWord c = true ∨ c = '-'
  lower : lower t = t

theorem IsAnchor.not_mem {t : Text} (h : IsAnchor t) {c : Char} (hword : isWord c = false)
    (hc : c ≠ '-') : c ∉ t := by
  intro hmem
  rcases h.chars c hmem with hc' | hc'
  · cases hword.symm.trans hc'
  · exact hc hc'

theorem isAnchor_anchor (title : Text) : IsAnchor (anchor title) := by
  have hlower : ∀ c ∈ anchor title, IsLower c ∧ c ≠ ' ' ∧ isAnchorChar c = true := by
    intro c hc
    obtain ⟨hmem, hchar⟩ := List.mem_filter.1 hc
    obtain ⟨hlower, hspace⟩ := isLower_of_mem_lowerAfter hmem
    refine ⟨hlower, fun h => ?_, hchar⟩
    have hspace := hspace h
    rw [replaceAll_singleton, List.mem_map] at hspace
    obtain ⟨e, -, he⟩ := hspace
    split at he
    · exact absurd he (by decide)
    · next hne => exact hne he
  refine ⟨fun c hc => ?_, lower_eq_self_iff.2 fun c hc => (hlower c hc).1⟩
  obtain ⟨-, hspace, hchar⟩ := hlower c hc
  simpa [isAnchorChar, hspace] using hchar

theorem anchor_eq_self {t : Text} (h : IsAnchor t) : anchor t = t := by
  have hparenthesis : '(' ∉ t := h.not_mem (by decide +kernel) (by decide)
  have hspace : ' ' ∉ t := h.not_mem (by decide +kernel) (by decide)
  have hreplace : replaceAll [' '] ['-'] t = t := by
    rw [replaceAll_singleton]
    refine (List.map_congr_left fun c hc => ?_).trans (List.map_id t)
    rw [if_neg]
    · rfl
    · rintro rfl
      exact hspace hc
  rw [anchor, stripDunder_eq_self hparenthesis, hreplace, h.lower, List.filter_eq_self]
  intro c hc
  rcases h.chars c hc with hc | rfl
  · rw [isAnchorChar, hc]
    rfl
  · rfl

/-- An anchor is made of word characters and hyphens, without a space, and is its own anchor. A
title is its own anchor only if it has this form and is in lower case. -/
theorem anchor_of_anchor (title : Text) :
    (∀ c ∈ anchor title, isWord c = true ∨ c = '-') ∧ ' ' ∉ anchor title ∧
    anchor (anchor title) = anchor title ∧
    (anchor title = title ↔ (∀ c ∈ title, isWord c = true ∨ c = '-') ∧ lower title = title) := by
  have h := isAnchor_anchor title
  refine ⟨h.chars, h.not_mem (by decide +kernel) (by decide), anchor_eq_self h, fun heq => ?_,
    fun ⟨hchars, hlower⟩ => anchor_eq_self ⟨hchars, hlower⟩⟩
  rw [heq] at h
  exact ⟨h.chars, h.lower⟩

example : anchor "ΟΔΟΣ İd.__len__()" = "οδος-i\u0307dlen".toList := by decide +kernel

end DocOutline.Markup
