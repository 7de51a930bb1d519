import DocOutline.Literal
import DocOutline.Toml.Value

/-!
# TOML scalars

Numbers, truth values, dates and times. Each is one run of letters, digits and a few marks, so it
can be told from the run alone what it is.
-/

namespace DocOutline.Toml

/-- Whether a character is a decimal digit. -/
def isDigit (c : Char) : Bool := '0' ≤ c && c ≤ '9'

/-- The digits of a number without the underscores, which may only stand between two digits. -/
def plainDigits? (isMember : Char → Bool) : Text → Option Text
  | [] => none
  | [c] => if isMember c then some [c] else none
  | c :: '_' :: d :: cs =>
    if isMember c && isMember d then (plainDigits? isMember (d :: cs)).map (c :: ·) else none
  | c :: cs => if isMember c then (plainDigits? isMember cs).map (c :: ·) else none

/-- Splits off a sign. -/
def splitSign : Text → Bool × Text
  | '-' :: cs => (true, cs)
  | '+' :: cs => (false, cs)
  | cs => (false, cs)

/-- Whether digits have no needless zero at the start. -/
def isCanonical : Text → Bool
  | '0' :: _ :: _ => false
  | _ => true

/-- The number that digits spell in a base. -/
def numberIn (base : Nat) (ds : Text) : Nat :=
  ds.foldl (fun n d => base * n + (Literal.hexDigit? d).getD 0) 0

/-- An integer that fits into 64 bits. -/
def bounded? (i : Int) : Option Value :=
  if -9223372036854775808 ≤ i ∧ i ≤ 9223372036854775807 then some (.integer i) else none

/-- An integer with a base letter. -/
def baseInteger? : Text → Option Value
  | '0' :: 'x' :: ds =>
    (plainDigits? (fun c => (Literal.hexDigit? c).isSome) ds).bind fun ds =>
      bounded? (numberIn 16 ds)
  | '0' :: 'o' :: ds => (plainDigits? Literal.isOctDigit ds).bind fun ds => bounded? (numberIn 8 ds)
  | '0' :: 'b' :: ds =>
    (plainDigits? (fun c => c == '0' || c == '1') ds).bind fun ds => bounded? (numberIn 2 ds)
  | _ => none

/-- A decimal integer. -/
def decimal? (t : Text) : Option Value :=
  let (negative, rest) := splitSign t
  (plainDigits? isDigit rest).bind fun ds =>
    if isCanonical ds then
      let n : Int := numberIn 10 ds
      bounded? (if negative then -n else n)
    else none

/-- Whether a text is an exponent behind its letter. -/
def isExponent (t : Text) : Bool := (plainDigits? isDigit (splitSign t).2).isSome

/-- Whether a text is the fraction of a number behind its point, perhaps with an exponent. -/
def isFraction (t : Text) : Bool :=
  let isMark (c : Char) := c == 'e' || c == 'E'
  (plainDigits? isDigit (t.takeWhile (!isMark ·))).isSome &&
    match t.dropWhile (!isMark ·) with
    | [] => true
    | _ :: exp => isExponent exp

/-- A number with a fraction or an exponent, or one of the special numbers. -/
def float? (t : Text) : Option Value :=
  let rest := (splitSign t).2
  let whole := rest.takeWhile fun c => isDigit c || c == '_'
  let good :=
    if rest = "inf" || rest = "nan" then true
    else if !((plainDigits? isDigit whole).map isCanonical).getD false then false
    else
      match rest.drop whole.length with
      | '.' :: fraction => isFraction fraction
      | c :: exp => (c == 'e' || c == 'E') && isExponent exp
      | [] => false
  if good then some (.float t) else none

/-! ## Dates and times -/

/-- The number that exactly `width` digits at the start of a text spell, and what follows. -/
def fixed? (width : Nat) (t : Text) : Option (Nat × Text) :=
  let ds := t.take width
  if ds.length = width && ds.all isDigit then some (numberIn 10 ds, t.drop width) else none

/-- The number of days in a month. -/
def daysIn (year month : Nat) : Nat :=
  if month = 2 then
    if year % 4 = 0 && (year % 100 ≠ 0 || year % 400 = 0) then 29 else 28
  else if [4, 6, 9, 11].contains month then 30
  else 31

/-- A date at the start of a text: what follows it. -/
def afterDate? (t : Text) : Option Text := do
  let (year, t) ← fixed? 4 t
  let (month, t) ← fixed? 2 (← Text.after? ['-'] t)
  let (day, t) ← fixed? 2 (← Text.after? ['-'] t)
  if 1 ≤ month ∧ month ≤ 12 ∧ 1 ≤ day ∧ day ≤ daysIn year month then some t else none

/-- A time at the start of a text: what follows it. -/
def afterTime? (t : Text) : Option Text := do
  let (hour, t) ← fixed? 2 t
  let (minute, t) ← fixed? 2 (← Text.after? [':'] t)
  let (second, t) ← fixed? 2 (← Text.after? [':'] t)
  if 24 ≤ hour ∨ 60 ≤ minute ∨ 60 < second then none
  else
    match t with
    | '.' :: rest => if rest.head?.any isDigit then some (rest.dropWhile isDigit) else none
    | _ => some t

/-- Whether a text is the distance of a time zone, or nothing. -/
def isOffset : Text → Bool
  | [] => true
  | ['Z'] | ['z'] => true
  | c :: t =>
    (c == '+' || c == '-') &&
      match fixed? 2 t with
      | some (hour, ':' :: rest) =>
        match fixed? 2 rest with
        | some (minute, []) => hour < 24 && minute < 60
        | _ => false
      | _ => false

/-- Whether a text is a date, a time, or both. -/
def isDatetime (t : Text) : Bool :=
  match afterDate? t with
  | some [] => true
  | some (c :: rest) =>
    (c == 'T' || c == 't' || c == ' ') && ((afterTime? rest).map isOffset).getD false
  | none => afterTime? t == some []

/-- The value that a run of characters spells. -/
def scalar? (t : Text) : Option Value :=
  if t = "true" then some (.boolean true)
  else if t = "false" then some (.boolean false)
  else if isDatetime t then some (.datetime t)
  else (decimal? t).orElse fun _ => (baseInteger? t).orElse fun _ => float? t

/-- Whether a character can stand in such a run. -/
def isScalarChar (c : Char) : Bool :=
  isDigit c || ('a' ≤ c && c ≤ 'z') || ('A' ≤ c && c ≤ 'Z') || ("+-_.:" : Text).contains c

/-- Reads such a run. A date and a time may have a space between them. -/
def scalarRun (t : Text) : Text × Text :=
  let run := t.takeWhile isScalarChar
  match t.dropWhile isScalarChar with
  | ' ' :: rest =>
    let time := rest.takeWhile isScalarChar
    if afterDate? run = some [] && (afterTime? time).isSome then
      (run ++ ' ' :: time, rest.dropWhile isScalarChar)
    else (run, ' ' :: rest)
  | rest => (run, rest)

end DocOutline.Toml
