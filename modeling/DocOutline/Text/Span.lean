import DocOutline.Text.Space

/-!
# Spans

A span is a part of a line between an opening and a closing mark that starts with a character other
than white space. A pattern says what the marks are: `^` before the opening mark ties it to the
start of a line and `$` behind the closing mark ties it to the end; every other character stands
for itself.

Replacing the spans of a text goes from left to right. A span starts as early as it can and, from
there, is as long as it can be without leaving its line.
-/

namespace DocOutline

/-- The marks around a span. -/
structure SpanPattern where
  /-- The span has to start at the start of a line. -/
  atLineStart : Bool
  /-- What stands before the content. -/
  opening : Text
  /-- What stands behind the content. -/
  closing : Text
  /-- The span has to end at the end of a line. -/
  atLineEnd : Bool
  deriving DecidableEq, Repr

namespace SpanPattern

/-- The characters with a special meaning in a pattern, which no mark holds. -/
def special : Text := "\\.+*?()|[]\x7b\x7d^$"

/-- Whether a mark holds only characters that stand for themselves. -/
def isPlain (mark : Text) : Bool := mark.all fun c => !special.contains c

/-- Reads the two halves of a pattern. A half with a special character is no mark. -/
def ofMarks? (opening closing : Text) : Option SpanPattern :=
  let (atLineStart, first) :=
    match opening with
    | '^' :: rest => (true, rest)
    | rest => (false, rest)
  let (atLineEnd, last) :=
    match closing.reverse with
    | '$' :: rest => (true, rest.reverse)
    | _ => (false, closing)
  if isPlain first && isPlain last then some ⟨atLineStart, first, last, atLineEnd⟩ else none

/-- What follows the opening mark, if a span can start here; `fresh` says that a line starts. -/
def opened? (p : SpanPattern) (fresh : Bool) (t : Text) : Option Text :=
  if p.atLineStart && !fresh then none else Text.after? p.opening t

/-- What follows the closing mark, if a span can end here. -/
def closed? (p : SpanPattern) (t : Text) : Option Text :=
  match Text.after? p.closing t with
  | none => none
  | some [] => some []
  | some (c :: cs) => if p.atLineEnd && c != '\n' then none else some (c :: cs)

/-- The longest content up to a closing mark on this line, and what follows the mark. -/
def stretch? (p : SpanPattern) : Text → Option (Text × Text)
  | [] => (p.closed? []).map ([], ·)
  | c :: cs =>
    match if c = '\n' then none else stretch? p cs with
    | some (content, rest) => some (c :: content, rest)
    | none => (p.closed? (c :: cs)).map ([], ·)

/-- The content of the span that starts here, and what follows the span. -/
def span? (p : SpanPattern) (fresh : Bool) (t : Text) : Option (Text × Text) :=
  match p.opened? fresh t with
  | some (c :: cs) =>
    if isSpace c then none else (p.stretch? cs).map fun (content, rest) => (c :: content, rest)
  | _ => none

/-- Replaces the marks of the spans by tags. The first `skip` characters belong to a span that is
already replaced, and `fresh` says that a line starts here. -/
def retagFrom (p : SpanPattern) (openTag closeTag : Text) (fresh : Bool) (skip : Nat) : Text → Text
  | [] => []
  | c :: cs =>
    match skip with
    | n + 1 => retagFrom p openTag closeTag (c == '\n') n cs
    | 0 =>
      match p.span? fresh (c :: cs) with
      | some (content, rest) =>
        openTag ++ content ++ closeTag ++
          retagFrom p openTag closeTag (c == '\n') (cs.length - rest.length) cs
      | none => c :: retagFrom p openTag closeTag (c == '\n') 0 cs

/-- The text with the marks around each span replaced by tags. -/
def retag (p : SpanPattern) (openTag closeTag t : Text) : Text :=
  retagFrom p openTag closeTag true 0 t

end SpanPattern

end DocOutline
