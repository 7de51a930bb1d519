import DocOutline.Note

/-!
# Values and notes

The value of a computation with notes does not depend on the notes, so both can be followed apart.
One that may fail succeeds if each of its steps does (`bind_eq_ok`).
-/

namespace DocOutline

theorem bind_eq_ok {ε α β : Type} {x : Except ε α} {f : α → Except ε β} {b : β} :
    x >>= f = .ok b ↔ ∃ a, x = .ok a ∧ f a = .ok b := by
  cases x with
  | error e => exact ⟨nofun, nofun⟩
  | ok a =>
    constructor
    · intro h
      exact ⟨a, rfl, h⟩
    · rintro ⟨_, ha, h⟩
      cases ha
      exact h

theorem map_eq_ok {ε α β : Type} {f : α → β} {x : Except ε α} {b : β} :
    f <$> x = .ok b ↔ ∃ a, x = .ok a ∧ f a = b := by
  cases x with
  | error e => exact ⟨nofun, nofun⟩
  | ok a => simp [Functor.map, Except.map]

attribute [ext] Noted

namespace Noted

variable {α β : Type}

@[simp] theorem value_pure (a : α) : (pure a : Noted α).value = a := rfl

@[simp] theorem value_bind (x : Noted α) (f : α → Noted β) : (x >>= f).value = (f x.value).value :=
  rfl

@[simp] theorem notes_pure (a : α) : (pure a : Noted α).notes = [] := rfl

@[simp] theorem notes_bind (x : Noted α) (f : α → Noted β) :
    (x >>= f).notes = x.notes ++ (f x.value).notes := rfl

@[simp] theorem value_map (g : α → β) (x : Noted α) : (g <$> x).value = g x.value := rfl

@[simp] theorem notes_map (g : α → β) (x : Noted α) : (g <$> x).notes = x.notes := by
  rw [← bind_pure_comp, notes_bind]
  exact List.append_nil _

@[simp] theorem value_collect (f : α → Noted β) (as : List α) :
    (collect f as).value = as.map fun a => (f a).value := by
  induction as with
  | nil => rfl
  | cons a as ih => simp [collect, ih]

@[simp] theorem notes_collect (f : α → Noted β) (as : List α) :
    (collect f as).notes = as.flatMap fun a => (f a).notes := by
  induction as with
  | nil => rfl
  | cons a as ih => simp [collect, ih]

theorem collect_map {γ : Type} (f : β → Noted γ) (g : α → β) (as : List α) :
    collect f (as.map g) = collect (fun a => f (g a)) as := by
  ext1
  · simp
  · simp [List.flatMap_map]

@[simp] theorem value_collectSome (f : α → Noted (Option β)) (as : List α) :
    (collectSome f as).value = as.filterMap fun a => (f a).value := by
  rw [collectSome, value_bind, value_pure, value_collect, List.filterMap_map]
  rfl

@[simp] theorem notes_collectSome (f : α → Noted (Option β)) (as : List α) :
    (collectSome f as).notes = as.flatMap fun a => (f a).notes := by
  simp [collectSome]

@[simp] theorem value_append (x y : Noted (List α)) :
    (x.append y).value = x.value ++ y.value := rfl

@[simp] theorem notes_append (x y : Noted (List α)) :
    (x.append y).notes = x.notes ++ y.notes := by
  simp [append]

theorem pure_nil_append (x : Noted (List α)) : (pure [] : Noted (List α)).append x = x := by
  ext1
  · rfl
  · simp

theorem collectSome_singleton (f : α → Noted (Option β)) (a : α) :
    collectSome f [a] = Option.toList <$> f a := by
  ext1
  · cases h : (f a).value <;> simp [h]
  · simp

/-- Reading a list of things in two parts. -/
theorem collectSome_append (f : α → Noted (Option β)) (as bs : List α) :
    collectSome f (as ++ bs) = (collectSome f as).append (collectSome f bs) := by
  ext1
  · simp
  · simp

end Noted

end DocOutline
