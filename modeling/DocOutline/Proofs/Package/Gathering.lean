import Mathlib.Data.List.Basic

/-!
# Gathering results

Results that come in one by one, in any order, are put where they belong; the first error to come in
is kept. However they come in, what is gathered is all the results in their own order, or an error
of one that failed (`exists_gathered`). Going through them from first to last gives the same
(`gathers_mapM`), up to which of the errors it is.
-/

namespace DocOutline

variable {ε α : Type}

/-- What has to become of some outcomes: all values in order, or one of the errors. -/
structure Gathers (outcomes : List (Except ε α)) (result : Except ε (List α)) : Prop where
  ok_iff : ∀ as, result = .ok as ↔ outcomes = as.map .ok
  error : ∀ e, result = .error e → .error e ∈ outcomes

theorem error_not_mem_map_ok {as : List α} {e : ε} : .error e ∉ as.map (Except.ok (ε := ε)) := by
  intro h
  obtain ⟨a, -, ha⟩ := List.mem_map.1 h
  cases ha

theorem map_ok_inj {as bs : List α} (h : as.map (Except.ok (ε := ε)) = bs.map .ok) : as = bs :=
  List.map_injective_iff.2 (fun _ _ heq => Except.ok.inj heq) h

theorem gathers_ok (as : List α) : Gathers (as.map (Except.ok (ε := ε))) (.ok as) where
  ok_iff bs := by
    constructor
    · intro h
      cases h
      rfl
    · intro h
      rw [map_ok_inj h]
  error := nofun

theorem gathers_error {outcomes : List (Except ε α)} {e : ε} (he : .error e ∈ outcomes) :
    Gathers outcomes (.error e) where
  ok_iff as := by
    refine ⟨nofun, ?_⟩
    rintro rfl
    exact absurd he error_not_mem_map_ok
  error e' h := by
    cases h
    exact he

theorem mapM_cases (outcomes : List (Except ε α)) :
    (∃ as, outcomes = as.map .ok ∧ outcomes.mapM id = .ok as) ∨
      ∃ e, .error e ∈ outcomes ∧ outcomes.mapM id = .error e := by
  induction outcomes with
  | nil => exact Or.inl ⟨[], rfl, rfl⟩
  | cons outcome outcomes ih =>
    rw [List.mapM_cons]
    cases outcome with
    | error e => exact Or.inr ⟨e, List.mem_cons_self, rfl⟩
    | ok a =>
      rcases ih with ⟨as, rfl, has⟩ | ⟨e, he, hrest⟩
      · rw [has]
        exact Or.inl ⟨a :: as, rfl, rfl⟩
      · rw [hrest]
        exact Or.inr ⟨e, List.mem_cons_of_mem _ he, rfl⟩

theorem gathers_mapM (outcomes : List (Except ε α)) : Gathers outcomes (outcomes.mapM id) := by
  rcases mapM_cases outcomes with ⟨as, rfl, has⟩ | ⟨e, he, hresult⟩
  · rw [has]
    exact gathers_ok as
  · rw [hresult]
    exact gathers_error he

/-- Results that have come in: the values at their positions, and the first error. -/
structure Gathering (ε α : Type) where
  values : List (Option α)
  failure : Option ε

namespace Gathering

/-- Nothing has come in for `n` positions. -/
def start (n : Nat) : Gathering ε α := ⟨List.replicate n none, none⟩

/-- The outcome at a position comes in. -/
def step (outcomes : List (Except ε α)) (g : Gathering ε α) (i : Nat) : Gathering ε α :=
  match outcomes[i]? with
  | none => g
  | some (.ok a) => { g with values := g.values.set i (some a) }
  | some (.error e) => { g with failure := g.failure.or (some e) }

/-- Outcomes come in one by one. -/
def run (outcomes : List (Except ε α)) (order : List Nat) : Gathering ε α :=
  order.foldl (step outcomes) (start outcomes.length)

/-- What is gathered, once it is settled. -/
def result? (g : Gathering ε α) : Option (Except ε (List α)) :=
  match g.failure with
  | some e => some (.error e)
  | none => (g.values.mapM id).map .ok

/-- What has come in is settled: every position, or one that failed. After a failure the others may
be left out. -/
def IsSettled (outcomes : List (Except ε α)) (order : List Nat) : Prop :=
  (∀ i < outcomes.length, i ∈ order) ∨ ∃ i ∈ order, ∃ e, outcomes[i]? = some (.error e)

/-- What has been gathered after some positions. -/
structure Holds (outcomes : List (Except ε α)) (done : List Nat) (g : Gathering ε α) : Prop where
  length_eq : g.values.length = outcomes.length
  value_of_done : ∀ i ∈ done, ∀ a, outcomes[i]? = some (.ok a) → g.values[i]? = some (some a)
  failure_of_done : ∀ i ∈ done, ∀ e, outcomes[i]? = some (.error e) → g.failure ≠ none
  failure_mem : ∀ e, g.failure = some e → .error e ∈ outcomes

variable {outcomes : List (Except ε α)}

theorem holds_start : Holds outcomes [] (start outcomes.length) where
  length_eq := List.length_replicate
  value_of_done := nofun
  failure_of_done := nofun
  failure_mem := nofun

theorem step_of_none {g : Gathering ε α} {i : Nat} (hi : outcomes[i]? = none) :
    step outcomes g i = g := by
  unfold step
  rw [hi]

theorem step_of_ok {g : Gathering ε α} {i : Nat} {a : α} (hi : outcomes[i]? = some (.ok a)) :
    step outcomes g i = ⟨g.values.set i (some a), g.failure⟩ := by
  unfold step
  rw [hi]

theorem step_of_error {g : Gathering ε α} {i : Nat} {e : ε}
    (hi : outcomes[i]? = some (.error e)) :
    step outcomes g i = ⟨g.values, g.failure.or (some e)⟩ := by
  unfold step
  rw [hi]

theorem Holds.step {done : List Nat} {g : Gathering ε α} (h : Holds outcomes done g) (i : Nat) :
    Holds outcomes (done ++ [i]) (step outcomes g i) := by
  have hmem : ∀ j ∈ done ++ [i], j ∈ done ∨ j = i := by simp
  cases hi : outcomes[i]? with
  | none =>
    rw [step_of_none hi]
    refine ⟨h.length_eq, ?_, ?_, h.failure_mem⟩
    · intro j hj a ha
      rcases hmem j hj with hj | rfl
      · exact h.value_of_done j hj a ha
      · cases hi.symm.trans ha
    · intro j hj e he
      rcases hmem j hj with hj | rfl
      · exact h.failure_of_done j hj e he
      · cases hi.symm.trans he
  | some outcome =>
    cases outcome with
    | ok b =>
      rw [step_of_ok hi]
      refine ⟨(List.length_set ..).trans h.length_eq, ?_, ?_, h.failure_mem⟩
      · intro j hj a ha
        by_cases hij : i = j
        · subst hij
          cases hi.symm.trans ha
          have hlt : i < g.values.length := by
            rw [h.length_eq]
            exact (List.getElem?_eq_some_iff.1 hi).1
          exact List.getElem?_set_self hlt
        · rw [List.getElem?_set_ne hij]
          exact h.value_of_done j ((hmem j hj).resolve_right (Ne.symm hij)) a ha
      · intro j hj e he
        rcases hmem j hj with hj | rfl
        · exact h.failure_of_done j hj e he
        · cases hi.symm.trans he
    | error e =>
      rw [step_of_error hi]
      refine ⟨h.length_eq, ?_, ?_, ?_⟩
      · intro j hj a ha
        rcases hmem j hj with hj | rfl
        · exact h.value_of_done j hj a ha
        · cases hi.symm.trans ha
      · intro j _ e' _
        cases g.failure <;> exact Option.some_ne_none _
      · intro e' he'
        cases hfailure : g.failure with
        | none =>
          rw [hfailure] at he'
          cases he'
          exact List.mem_of_getElem? hi
        | some e'' =>
          rw [hfailure] at he'
          cases he'
          exact h.failure_mem _ hfailure

theorem holds_run (outcomes : List (Except ε α)) (order : List Nat) :
    Holds outcomes order (run outcomes order) := by
  -- The positions that have come in are a prefix of the order.
  have hrun : ∀ (rest done : List Nat) (g : Gathering ε α), Holds outcomes done g →
      Holds outcomes (done ++ rest) (rest.foldl (Gathering.step outcomes) g) := by
    intro rest
    induction rest with
    | nil =>
      intro done g h
      rwa [List.append_nil]
    | cons i rest ih =>
      intro done g h
      have hrest := ih (done ++ [i]) _ (h.step i)
      rwa [List.append_assoc, List.singleton_append] at hrest
  exact hrun order [] _ holds_start

theorem Holds.values_eq {done : List Nat} {g : Gathering ε α} {as : List α}
    (h : Holds (as.map .ok) done g) (hall : ∀ i < as.length, i ∈ done) :
    g.values = as.map some := by
  apply List.ext_getElem?
  intro i
  by_cases hi : i < as.length
  · have ha : (as.map (Except.ok : α → Except ε α))[i]? = some (.ok as[i]) := by
      rw [List.getElem?_map, List.getElem?_eq_getElem hi]
      rfl
    rw [h.value_of_done i (hall i hi) as[i] ha, List.getElem?_map, List.getElem?_eq_getElem hi]
    rfl
  · have hlength := h.length_eq
    rw [List.length_map] at hlength
    rw [List.getElem?_eq_none (by omega), List.getElem?_eq_none (by rw [List.length_map]; omega)]

theorem mapM_map_some (as : List α) : (as.map some).mapM id = some as := by
  rw [List.mapM_map]
  exact List.mapM_pure.trans (congrArg some as.map_id)

theorem Holds.failure_ne_none {order : List Nat} {g : Gathering ε α} {e : ε}
    (h : Holds outcomes order g) (hsettled : IsSettled outcomes order) (he : .error e ∈ outcomes) :
    g.failure ≠ none := by
  rcases hsettled with hall | ⟨i, hi, e', he'⟩
  · obtain ⟨i, hlt, heq⟩ := List.mem_iff_getElem.1 he
    exact h.failure_of_done i (hall i hlt) e (List.getElem?_eq_some_iff.2 ⟨hlt, heq⟩)
  · exact h.failure_of_done i hi e' he'

theorem IsSettled.all_mem {order : List Nat} {as : List α}
    (h : IsSettled (as.map (Except.ok (ε := ε))) order) : ∀ i < as.length, i ∈ order := by
  rcases h with hall | ⟨i, -, e, he⟩
  · rwa [List.length_map] at hall
  · exact absurd (List.mem_of_getElem? he) error_not_mem_map_ok

/-- Whatever the order in which outcomes come in, once it is settled the result is there, with all
values in their own order or one of the errors. -/
theorem exists_gathered {order : List Nat} (h : IsSettled outcomes order) :
    ∃ result, (run outcomes order).result? = some result ∧ Gathers outcomes result := by
  have hrun := holds_run outcomes order
  rcases mapM_cases outcomes with ⟨as, rfl, -⟩ | ⟨e, he, -⟩
  · refine ⟨.ok as, ?_, gathers_ok as⟩
    have hfailure : (run (as.map (Except.ok (ε := ε))) order).failure = none := by
      cases hfailure : (run (as.map (Except.ok (ε := ε))) order).failure with
      | none => rfl
      | some e => exact absurd (hrun.failure_mem e hfailure) error_not_mem_map_ok
    unfold result?
    rw [hfailure, hrun.values_eq h.all_mem, mapM_map_some]
    rfl
  · obtain ⟨e', he'⟩ := Option.ne_none_iff_exists'.1 (hrun.failure_ne_none h he)
    refine ⟨.error e', ?_, gathers_error (hrun.failure_mem e' he')⟩
    unfold result?
    rw [he']

end Gathering

end DocOutline
