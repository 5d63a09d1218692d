import RunOperator.Json.Basic
import RunOperator.Text.Digit
import RunOperator.Toml.Basic

/-!
# Numbers and dates

An integer has 64 bits and may be written to the bases 10, 16, 8 and 2. A fraction has a decimal
point, an exponent, or both. Underscores may stand between digits. A date, a time, or a date with a
time and an offset is a value of its own, and its parts must be in range.
-/

namespace RunOperator.Toml

/-- Digits of a kind, between which single underscores may stand. -/
def digits (isDigit : Char → Bool) : List Char → List Char × List Char
  | c :: '_' :: d :: rest =>
    if isDigit c ∧ isDigit d then
      let (ds, rest) := digits isDigit (d :: rest)
      (c :: ds, rest)
    else if isDigit c then ([c], '_' :: d :: rest)
    else ([], c :: '_' :: d :: rest)
  | c :: rest =>
    if isDigit c then
      let (ds, rest) := digits isDigit rest
      (c :: ds, rest)
    else ([], c :: rest)
  | [] => ([], [])

/-- At least one digit. -/
def someDigits (isDigit : Char → Bool) (s : List Char) : Option (List Char × List Char) :=
  let (ds, rest) := digits isDigit s
  if ds.isEmpty then none else some (ds, rest)

/-- The number that digits to a base stand for. -/
def ofDigits (base : Nat) (ds : List Char) : Nat :=
  Text.ofDigitValues base (ds.filterMap Text.hexDigit?)

/-- A sign; the answer says whether it is a minus. -/
def sign : List Char → Bool × List Char
  | '+' :: rest => (false, rest)
  | '-' :: rest => (true, rest)
  | s => (false, s)

/-- The digits of a decimal integer: no zero stands in front of another digit. -/
def wholeDigits (s : List Char) : Option (List Char × List Char) :=
  match s with
  | '0' :: rest => some (['0'], rest)
  | s => someDigits Char.isDigit s

/-- An integer of 64 bits with a sign. -/
def signed? (negative : Bool) (n : Nat) : Option Value :=
  let bound := 9223372036854775808
  if n < bound ∨ (negative ∧ n = bound) then some (.integer (if negative then -n else n)) else none

/-- An integer. -/
def integer? (s : List Char) : Option (Value × List Char) := do
  match s with
  | '0' :: 'x' :: rest =>
    let (ds, rest) ← someDigits (fun c => (Text.hexDigit? c).isSome) rest
    return (← signed? false (ofDigits 16 ds), rest)
  | '0' :: 'o' :: rest =>
    let (ds, rest) ← someDigits (fun c => '0' ≤ c && c ≤ '7') rest
    return (← signed? false (ofDigits 8 ds), rest)
  | '0' :: 'b' :: rest =>
    let (ds, rest) ← someDigits (fun c => c == '0' || c == '1') rest
    return (← signed? false (ofDigits 2 ds), rest)
  | s =>
    let (negative, rest) := sign s
    let (ds, rest) ← wholeDigits rest
    return (← signed? negative (ofDigits 10 ds), rest)

/-- An exponent with its mark. -/
def exponent? (s : List Char) : Option (Int × List Char) :=
  match s with
  | c :: rest =>
    if c = 'e' ∨ c = 'E' then
      let (negative, rest) := sign rest
      (someDigits Char.isDigit rest).map fun (ds, rest) =>
        (if negative then -(ofDigits 10 ds : Int) else ofDigits 10 ds, rest)
    else none
  | [] => none

/-- The digits behind a decimal point. -/
def places? : List Char → Option (List Char × List Char)
  | '.' :: rest => someDigits Char.isDigit rest
  | _ => none

/-- A word after an optional sign that stands for no ordinary fraction. -/
def special? (s : List Char) : Option (Value × List Char) :=
  match (sign s).2 with
  | 'i' :: 'n' :: 'f' :: rest => some (.fraction, rest)
  | 'n' :: 'a' :: 'n' :: rest => some (.fraction, rest)
  | _ => none

/-- A fraction. One that is too large for a floating-point number of 64 bits is refused, unless it
is negative. -/
def fraction? (s : List Char) : Option (Value × List Char) :=
  let ordinary : Option (Value × List Char) := do
    let (negative, rest) := sign s
    let (whole, rest) ← wholeDigits rest
    let (places, rest) := (places? rest).getD ([], rest)
    let (e, after) := (exponent? rest).getD (0, rest)
    guard (!places.isEmpty || after.length < rest.length)
    let d : Decimal := ⟨negative, ofDigits 10 (whole ++ places), e - places.length⟩
    guard (negative || !d.isTooLarge)
    return (.fraction, after)
  ordinary.or (special? s)

/-- Two digits whose number lies in a range. -/
def twoDigits (low high : Nat) : List Char → Option (Nat × List Char)
  | a :: b :: rest =>
    let n := Text.natOfDigits [a, b]
    if a.isDigit ∧ b.isDigit ∧ low ≤ n ∧ n ≤ high then some (n, rest) else none
  | _ => none

/-- A character that must stand there. -/
def mark? (c : Char) : List Char → Option (List Char)
  | d :: rest => if d = c then some rest else none
  | [] => none

/-- The number of days of a month. -/
def monthLength (year month : Nat) : Nat :=
  if month = 2 then if year % 4 = 0 ∧ (year % 100 ≠ 0 ∨ year % 400 = 0) then 29 else 28
  else if [4, 6, 9, 11].contains month then 30
  else 31

/-- The text after a date. -/
def date? (s : List Char) : Option (List Char) := do
  let year := s.take 4
  guard (year.length = 4 ∧ year.all Char.isDigit)
  let (month, rest) ← twoDigits 1 12 (← mark? '-' (s.drop 4))
  let (_, rest) ← twoDigits 1 (monthLength (ofDigits 10 year) month) (← mark? '-' rest)
  return rest

/-- The text after the time of a day, with a fraction of the second if there is one. -/
def time? (s : List Char) : Option (List Char) := do
  let (_, rest) ← twoDigits 0 23 s
  let (_, rest) ← twoDigits 0 59 (← mark? ':' rest)
  let (_, rest) ← twoDigits 0 60 (← mark? ':' rest)
  match rest with
  | '.' :: c :: rest => if c.isDigit then return rest.dropWhile Char.isDigit else none
  | '.' :: [] => none
  | rest => return rest

/-- The text after an offset from Coordinated Universal Time. -/
def offset? : List Char → Option (List Char)
  | c :: rest =>
    if c = 'Z' ∨ c = 'z' then some rest
    else if c = '+' ∨ c = '-' then do
      let (_, rest) ← twoDigits 0 23 rest
      let (_, rest) ← twoDigits 0 59 (← mark? ':' rest)
      return rest
    else none
  | [] => none

/-- The text after a time with an offset, before which a mark parts it from its date. -/
def timeOfDate? : List Char → Option (List Char)
  | c :: rest =>
    if c = 'T' ∨ c = 't' ∨ c = ' ' then (time? rest).map fun rest => (offset? rest).getD rest
    else none
  | [] => none

/-- A date, a time, or both. -/
def dateTime? (s : List Char) : Option (Value × List Char) :=
  let after := match date? s with
    | some rest => some ((timeOfDate? rest).getD rest)
    | none => time? s
  after.map (.dateTime, ·)

/-- A number or a date. -/
def number? (s : List Char) : Option (Value × List Char) :=
  (dateTime? s).or ((fraction? s).or (integer? s))

end RunOperator.Toml
