import DocOutline.Proofs.Note
import DocOutline.Reading

/-!
# What computations that read files come to

On files that stay as they are, a computation is the sequence of its steps (`outcome_bind`). Which
files it may read and how it may fail can be told without them (`Reading.Stays`): both hold however
the computation is carried out, and files that read the same come to the same.
-/

namespace DocOutline

namespace Outcome

variable {α β : Type}

theorem value_bind (x : Outcome α) (f : α → Outcome β) :
    (x >>= f).run.value = x.run.value >>= fun a => (f a).run.value := by
  rw [ExceptT.run_bind, Noted.value_bind]
  cases x.run.value <;> rfl

end Outcome

namespace Reading

variable {α β γ : Type}

theorem bind_pure_eq (x : Reading α) : x.bind pure = x := by
  induction x with
  | done r => cases r <;> rfl
  | note n rest ih => exact congrArg (note n) ih
  | read p rest ih => exact congrArg (read p) (funext ih)

theorem bind_bind (x : Reading α) (f : α → Reading β) (g : β → Reading γ) :
    (x.bind f).bind g = x.bind fun a => (f a).bind g := by
  induction x with
  | done r => cases r <;> rfl
  | note n rest ih => exact congrArg (note n) ih
  | read p rest ih => exact congrArg (read p) (funext ih)

instance : LawfulMonad Reading := LawfulMonad.mk' Reading bind_pure_eq (fun _ _ => rfl) bind_bind

/-! ## Files that stay as they are -/

section Outcome

variable (fs : FileSystem)

theorem outcome_bind (x : Reading α) (f : α → Reading β) :
    (x >>= f).outcome fs = x.outcome fs >>= fun a => (f a).outcome fs := by
  induction x with
  | done r => cases r <;> rfl
  | note n rest ih =>
    change (Outcome.ofNoted (Noted.note n) >>= fun _ => (rest >>= f).outcome fs) = _
    rw [ih, ← bind_assoc]
    rfl
  | read p rest ih => exact ih (fs.read p)

theorem outcome_ofNoted (x : Noted α) : (ofNoted x).outcome fs = Outcome.ofNoted x := by
  obtain ⟨a, notes⟩ := x
  induction notes with
  | nil => rfl
  | cons n notes ih =>
    change (Outcome.ofNoted (Noted.note n) >>= fun _ => (ofNoted ⟨a, notes⟩).outcome fs) = _
    rw [ih]
    rfl

theorem value_outcome_bind (x : Reading α) (f : α → Reading β) :
    ((x >>= f).outcome fs).run.value =
      (x.outcome fs).run.value >>= fun a => ((f a).outcome fs).run.value := by
  rw [outcome_bind, Outcome.value_bind]

theorem value_outcome_collect (f : α → Reading β) (as : List α) :
    ((collect f as).outcome fs).run.value =
      (as.map fun a => ((f a).outcome fs).run.value).mapM id := by
  induction as with
  | nil => rfl
  | cons a as ih =>
    rw [collect, List.map_cons, List.mapM_cons, ← ih, value_outcome_bind]
    simp only [value_outcome_bind]
    rfl

end Outcome

/-! ## Files that are read and errors that may come -/

/-- Whatever the files hold, a computation reads only some of them and fails only in some ways. -/
def Stays (files : Path → Prop) (errors : Error → Prop) : Reading α → Prop
  | done r => ∀ e, r = .error e → errors e
  | note _ rest => Stays files errors rest
  | read p rest => files p ∧ ∀ x, Stays files errors (rest x)

section Stays

variable {files : Path → Prop} {errors : Error → Prop}

theorem stays_pure (a : α) : Stays files errors (pure a) := by
  intro e he
  cases he

theorem stays_ofNoted (x : Noted α) : Stays files errors (ofNoted x) := by
  obtain ⟨a, notes⟩ := x
  induction notes with
  | nil => exact stays_pure a
  | cons n notes ih => exact ih

theorem stays_file {p : Path} (hp : files p) (herrors : ∀ t, errors (.unreadable t)) :
    Stays files errors (file p) := by
  refine ⟨hp, ?_⟩
  intro x e he
  cases x with
  | ok t => cases he
  | error cause =>
    cases he
    exact herrors _

theorem Stays.bind {x : Reading α} {f : α → Reading β} (hx : Stays files errors x)
    (hf : ∀ a, Stays files errors (f a)) : Stays files errors (x >>= f) := by
  induction x with
  | done r =>
    cases r with
    | error e =>
      intro e' he'
      cases he'
      exact hx e rfl
    | ok a => exact hf a
  | note n rest ih => exact ih hx
  | read p rest ih => exact ⟨hx.1, fun y => ih y (hx.2 y)⟩

theorem Stays.collect {f : α → Reading β} {as : List α} (hf : ∀ a ∈ as, Stays files errors (f a)) :
    Stays files errors (collect f as) := by
  induction as with
  | nil => exact stays_pure []
  | cons a as ih =>
    exact (hf a List.mem_cons_self).bind fun b =>
      (ih fun c hc => hf c (List.mem_cons_of_mem a hc)).bind fun bs => stays_pure (b :: bs)

variable {x : Reading α} {fs fs' : FileSystem}

theorem Stays.outcome_congr (h : Stays files errors x)
    (hfiles : ∀ p, files p → fs.read p = fs'.read p) : x.outcome fs = x.outcome fs' := by
  induction x with
  | done r => rfl
  | note n rest ih => rw [outcome, outcome, ih h]
  | read p rest ih =>
    rw [outcome, outcome, hfiles p h.1]
    exact ih _ (h.2 _)

end Stays

end Reading

end DocOutline
