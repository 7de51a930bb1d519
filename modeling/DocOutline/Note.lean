import DocOutline.Signature.Form

/-!
# Notes

What a reader of the documentation should know about how it was made: parts of a source that could
not be read or had to be left out, files that were not there, and failures. `Noted` is a value with
the notes that were taken on the way to it, in order.
-/

namespace DocOutline

/-- How serious a note is. -/
inductive Severity where
  | warning
  | error
  deriving DecidableEq, Repr, Inhabited

/-- Something worth telling. -/
inductive Note where
  /-- Some lines of the source are no statements. -/
  | brokenSource
  /-- An expression that its place does not accept is left out. -/
  | omitted (place : Signature.Place) (text : Text) (kind : Syntax.Kind)
  /-- An expression has none of the known forms. -/
  | unknownForm (text : Text) (kind : Syntax.Kind)
  /-- A minus sign has an operand that is no name and no literal. -/
  | unknownOperand (text : Text)
  /-- A file that the document should include is not there. -/
  | missingFile (label path : Text)
  /-- Something failed, with this message. -/
  | failed (message : Text)
  deriving DecidableEq, Repr, Inhabited

namespace Note

/-- How serious a note is. -/
def severity : Note → Severity
  | .failed _ => .error
  | _ => .warning

/-- The text of a note. -/
def message : Note → Text
  | .brokenSource => "source contains syntax errors, extraction may be incomplete"
  | .omitted place text kind =>
    "unsupported " ++ place.label ++ " omitted: " ++ text ++ " (" ++ kind.name ++ ")"
  | .unknownForm text kind => "unknown type of node: " ++ text ++ " (" ++ kind.name ++ ")"
  | .unknownOperand text => "unknown type of node: " ++ text
  | .missingFile label path => label ++ " file not found, skipped: " ++ path
  | .failed message => message

end Note

/-- A value with the notes taken on the way to it. -/
structure Noted (α : Type) where
  value : α
  notes : List Note
  deriving DecidableEq, Repr

namespace Noted

instance : Monad Noted where
  pure a := ⟨a, []⟩
  bind x f := ⟨(f x.value).value, x.notes ++ (f x.value).notes⟩

instance : LawfulMonad Noted := LawfulMonad.mk' Noted
  (fun x => by simp [Functor.map])
  (fun _ _ => by simp [bind, pure])
  (fun x f g => by simp [bind])

/-- A note by itself. -/
def note (n : Note) : Noted Unit := ⟨(), [n]⟩

/-- The lists of two computations one behind the other, with the notes of both in order. -/
def append {α : Type} (x y : Noted (List α)) : Noted (List α) := do
  let a ← x
  let b ← y
  return a ++ b

/-- The results of a function on a list, with the notes of all of them in order. -/
def collect {α β : Type} (f : α → Noted β) : List α → Noted (List β)
  | [] => pure []
  | a :: as => do
    let b ← f a
    let bs ← collect f as
    return b :: bs

/-- The results of a function on a list where it has one, with the notes of all of them. -/
def collectSome {α β : Type} (f : α → Noted (Option β)) (as : List α) : Noted (List β) := do
  let bs ← collect f as
  return bs.filterMap id

end Noted

end DocOutline
