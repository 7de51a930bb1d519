import DocOutline.Text.Basic

/-!
# Glob patterns

A pattern for relative paths: `?` stands for any character, `*` for any text, `[…]` for a character
of a set, and `**`, as a whole part of a path, for any number of directories.
-/

namespace DocOutline

/-- A range of characters in a set; a single character is a range of one. -/
structure CharRange where
  first : Char
  last : Char
  deriving DecidableEq, Repr, Inhabited

/-- Whether a character lies in a range. -/
def CharRange.holds (r : CharRange) (c : Char) : Bool := r.first ≤ c && c ≤ r.last

/-- What a part of a pattern stands for. -/
inductive GlobToken where
  | char (c : Char)
  | anyChar
  | anyText
  /-- Any number of directories. -/
  | anyDirectories
  | within (set : List CharRange)
  | except (set : List CharRange)
  deriving DecidableEq, Repr, Inhabited

/-- Whether a token that stands for one character stands for this one. -/
def GlobToken.accepts (c : Char) : GlobToken → Bool
  | .char d => c = d
  | .within set => set.any (·.holds c)
  | .except set => !set.any (·.holds c)
  | _ => true

/-- A glob pattern. -/
abbrev Glob := List GlobToken

/-- What is wrong with a pattern. -/
inductive GlobFault where
  /-- More than two stars in a row. -/
  | wildcards
  /-- Two stars that are no whole part of a path. -/
  | recursion
  /-- A set without an end. -/
  | range
  deriving DecidableEq, Repr, Inhabited

/-- What is wrong with a pattern, and where. -/
structure GlobError where
  position : Nat
  fault : GlobFault
  deriving DecidableEq, Repr, Inhabited

namespace GlobFault

/-- The text of a fault. -/
def message : GlobFault → Text
  | .wildcards => "wildcards are either regular `*` or recursive `**`"
  | .recursion => "recursive wildcards must form a single path component"
  | .range => "invalid range pattern"

end GlobFault

/-- The text of a pattern error. -/
def GlobError.message (e : GlobError) : Text :=
  "Pattern syntax error near position " ++ Text.ofNat e.position ++ ": " ++ e.fault.message

namespace Glob

/-- The ranges in a set. -/
def ranges : Text → List CharRange
  | a :: '-' :: b :: rest => ⟨a, b⟩ :: ranges rest
  | a :: rest => ⟨a, a⟩ :: ranges rest
  | [] => []

/-- Reads a set behind its opening bracket: the token, and how many characters it takes up with
both brackets. A closing bracket as the first member stands for itself. -/
def set? (t : Text) : Option (GlobToken × Nat) :=
  let (excluded, inner) :=
    match t with
    | '!' :: rest => (true, rest)
    | _ => (false, t)
  match inner with
  | [] => none
  | first :: rest =>
    if rest.contains ']' then
      let members := first :: rest.takeWhile (· != ']')
      let set := ranges members
      if excluded then some (.except set, members.length + 3)
      else some (.within set, members.length + 2)
    else none

/-- Reads a row of stars: the token and the number of characters, or what is wrong. `position` is
that of the first star, `before` the character before it, and `rest` what follows it. -/
def stars (position : Nat) (before : Option Char) (rest : Text) :
    Except GlobError (GlobToken × Nat) :=
  let count := (rest.takeWhile (· = '*')).length + 1
  if count = 1 then .ok (.anyText, 1)
  else if 2 < count then .error ⟨position + 2, .wildcards⟩
  else if before ≠ none ∧ before ≠ some '/' then .error ⟨position - 1, .recursion⟩
  else
    match rest.drop 1 with
    | [] => .ok (.anyDirectories, 2)
    | c :: _ => if c = '/' then .ok (.anyDirectories, 3) else .error ⟨position + 2, .recursion⟩

/-- Reads a pattern from a position on. The first `skip` characters belong to a token that is
already read, and `before` is the character before the position. -/
def parseFrom (position skip : Nat) (before : Option Char) : Text → Except GlobError Glob
  | [] => .ok []
  | c :: cs =>
    match skip with
    | n + 1 => parseFrom (position + 1) n (some c) cs
    | 0 =>
      let read :=
        if c = '?' then .ok (.anyChar, 1)
        else if c = '*' then stars position before cs
        else if c = '[' then
          match set? cs with
          | some found => .ok found
          | none => .error ⟨position, .range⟩
        else .ok (.char c, 1)
      match read with
      | .error e => .error e
      | .ok (token, length) =>
        match parseFrom (position + 1) (length - 1) (some c) cs with
        | .error e => .error e
        | .ok tokens => .ok (token :: tokens)

/-- Reads a pattern. -/
def parse (t : Text) : Except GlobError Glob := parseFrom 0 0 none t

/-- Whether some end of a text passes a test. -/
def anyEnd (test : Text → Bool) : Text → Bool
  | [] => test []
  | c :: cs => test (c :: cs) || anyEnd test cs

/-- Whether what follows some slash of a text passes a test. -/
def anyAfterSlash (test : Text → Bool) : Text → Bool
  | [] => false
  | c :: cs => (c = '/' && test cs) || anyAfterSlash test cs

/-- Whether a text matches a pattern. -/
def accepts : Glob → Text → Bool
  | [], t => t.isEmpty
  | .anyText :: rest, t => anyEnd (accepts rest) t
  | .anyDirectories :: rest, t =>
    accepts rest t || anyAfterSlash (accepts rest) t || accepts rest []
  | token :: rest, t =>
    match t with
    | [] => false
    | c :: cs => GlobToken.accepts c token && accepts rest cs

end Glob

end DocOutline
