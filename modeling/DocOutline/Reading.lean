import DocOutline.FileRef

/-!
# Computations that read files

A computation that reads files, takes notes on the way and may fail. It is a tree: how it goes on
depends on what the files hold that it reads. So it can be carried out in more than one way: on
files that stay as they are (`Reading.outcome`), or with its notes written to a file as they come.
-/

namespace DocOutline

/-- A result with the notes taken on the way to it, also if it is an error. -/
abbrev Outcome := ExceptT Error Noted

namespace Outcome

/-- A result that may be an error. -/
def ofExcept {α : Type} (r : Except Error α) : Outcome α := ExceptT.mk (pure r)

/-- A result with notes. -/
def ofNoted {α : Type} (r : Noted α) : Outcome α := ExceptT.lift r

end Outcome

/-- A computation that reads files, takes notes and may fail. -/
inductive Reading (α : Type) where
  | done (result : Except Error α)
  | note (n : Note) (rest : Reading α)
  | read (p : Path) (rest : Except FileError Text → Reading α)

namespace Reading

variable {α β : Type}

/-- One computation and then another one, unless the first fails. -/
def bind : Reading α → (α → Reading β) → Reading β
  | done (.error e), _ => done (.error e)
  | done (.ok a), f => f a
  | note n rest, f => note n (bind rest f)
  | read p rest, f => read p fun x => bind (rest x) f

instance : Monad Reading where
  pure a := done (.ok a)
  bind := bind

/-- A value with its notes. -/
def ofNoted (x : Noted α) : Reading α := x.notes.foldr note (pure x.value)

/-- The text of a file. -/
def file (p : Path) : Reading Text := read p fun x => done (FileRef.contents p x)

/-- The results of a function on a list, up to the first error. -/
def collect (f : α → Reading β) : List α → Reading (List β)
  | [] => pure []
  | a :: as => do
    let b ← f a
    let bs ← collect f as
    return b :: bs

/-- What a computation comes to if nothing happens to the files while it is carried out. -/
def outcome (fs : FileSystem) : Reading α → Outcome α
  | done r => Outcome.ofExcept r
  | note n rest => do
    Outcome.ofNoted (Noted.note n)
    outcome fs rest
  | read p rest => outcome fs (rest (fs.read p))

end Reading

end DocOutline
