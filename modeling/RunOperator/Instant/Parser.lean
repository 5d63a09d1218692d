import RunOperator.Instant.Basic
import RunOperator.Instant.Calendar
import RunOperator.Text.Blank

/-!
# Reading instants

`Instant.parse` reads the internet date and time format: a date, one of `T`, `t` or a space, a
time of day with an optional fraction, and an offset, which is `Z`, `z` or a sign with hours and
minutes. Second 60 is a leap second. Each way to be wrong has its own constructor of
`InstantError`, and the first wrong part of the text decides which one is reported.

`Instant.parseRelaxed?` reads the looser form that object metadata may carry: blanks between the
parts, short fields, a year of any length behind a sign, and an offset without its colon.
-/

namespace RunOperator

/-- Why a text is not an instant. -/
inductive InstantError where
  /-- A character stands where the format has no place for it. -/
  | invalid
  /-- The text ends before the instant is complete. -/
  | tooShort
  /-- A field exceeds its range, or the date does not exist. -/
  | outOfRange
  /-- Text follows the offset. -/
  | tooLong
  deriving DecidableEq, Inhabited

/-- The wording of each reason. -/
def InstantError.message : InstantError → String
  | .invalid => "input contains invalid characters"
  | .tooShort => "premature end of input"
  | .outOfRange => "input is out of range"
  | .tooLong => "trailing input"

namespace Instant

/-- A clock reading with the offset of its clock from Coordinated Universal Time in seconds. -/
structure LocalTime where
  date : CalendarDate
  hour : Nat
  minute : Nat
  /-- From 0 to 60; 60 is a leap second. -/
  second : Nat
  nanos : Nat
  offset : Int
  deriving DecidableEq, Inhabited

/-- The instant at which a clock shows the reading. -/
def LocalTime.instant (r : LocalTime) : Instant :=
  let second := if r.second = 60 then 59 else r.second
  let leap := if r.second = 60 then nanosPerSecond else 0
  { secs := r.date.dayNumber * secondsPerDay + (r.hour * 3600 + r.minute * 60 + second : Nat)
      - r.offset
    nanos := leap + r.nanos }

/-- The value of a decimal digit. -/
def digit (c : Char) : Except InstantError Nat :=
  if c.isDigit then .ok (c.toNat - '0'.toNat) else .error .invalid

/-- The value of two digits. -/
def twoDigits (a b : Char) : Except InstantError Nat := do
  let x ← digit a
  let y ← digit b
  return x * 10 + y

/-- Requires one of the given characters. -/
def require (c : Char) (allowed : List Char) : Except InstantError Unit :=
  if allowed.contains c then .ok () else .error .invalid

/-- The nanoseconds that the first nine of some digits stand for, the first being tenths. -/
def nanosOfDigits (digits : List Char) : Nat :=
  let kept := digits.take 9
  (kept.foldl (fun n c => n * 10 + (c.toNat - '0'.toNat)) 0) * Nat.pow 10 (9 - kept.length)

/-- Reads an optional fraction: a point and at least one digit. -/
def fraction : List Char → Except InstantError (Nat × List Char)
  | '.' :: rest =>
    let digits := rest.takeWhile Char.isDigit
    if rest.isEmpty then .error .tooShort
    else if digits.isEmpty then .error .invalid
    else .ok (nanosOfDigits digits, rest.dropWhile Char.isDigit)
  | rest => .ok (0, rest)

/-- Reads hours and minutes of an offset. -/
def offsetFields : List Char → Except InstantError (Nat × List Char)
  | h₁ :: h₂ :: rest => do
    let hours ← twoDigits h₁ h₂
    match rest with
    | [] => .error .tooShort
    | c :: rest =>
      require c [':']
      match rest with
      | m₁ :: m₂ :: rest =>
        let minutes ← twoDigits m₁ m₂
        if 60 ≤ minutes then .error .outOfRange
        else return ((hours * 60 + minutes) * 60, rest)
      | [c] => if c.utf8Size < 2 then .error .tooShort else .error .invalid
      | [] => .error .tooShort
  | [c] => if c.utf8Size < 2 then .error .tooShort else .error .invalid
  | [] => .error .tooShort

/-- Reads an offset in seconds: `Z`, `z`, or a sign with hours and minutes. The sign may be the
hyphen or the minus sign U+2212. -/
def offset : List Char → Except InstantError (Int × List Char)
  | [] => .error .tooShort
  | c :: rest => do
    if c = 'Z' ∨ c = 'z' then return (0, rest)
    require c ['+', '-', '\u2212']
    let (seconds, rest) ← offsetFields rest
    return (if c = '+' then (seconds : Int) else -(seconds : Int), rest)

/-- Offsets stay below a day. -/
def offsetInRange (seconds : Int) : Bool := seconds.natAbs < 86400

/-- Reads a clock reading; the text must hold nothing else. -/
def parseLocal (text : String) : Except InstantError LocalTime :=
  if text.utf8ByteSize < 19 then .error .tooShort
  else match text.toList with
  | y₁ :: y₂ :: y₃ :: y₄ :: s₁ :: m₁ :: m₂ :: s₂ :: d₁ :: d₂ :: sep :: h₁ :: h₂ :: c₁ :: i₁ :: i₂
      :: c₂ :: x₁ :: x₂ :: rest => do
    let century ← twoDigits y₁ y₂
    let year ← twoDigits y₃ y₄
    require s₁ ['-']
    let month ← twoDigits m₁ m₂
    require s₂ ['-']
    let day ← twoDigits d₁ d₂
    let some date := CalendarDate.of? (century * 100 + year : Nat) month day
      | .error .outOfRange
    require sep ['T', 't', ' ']
    let hour ← twoDigits h₁ h₂
    require c₁ [':']
    let minute ← twoDigits i₁ i₂
    require c₂ [':']
    let second ← twoDigits x₁ x₂
    let (nanos, rest) ← fraction rest
    if 24 ≤ hour ∨ 60 ≤ minute ∨ 61 ≤ second then .error .outOfRange
    else do
      let (seconds, rest) ← offset rest
      if !offsetInRange seconds then .error .outOfRange
      else if !rest.isEmpty then .error .tooLong
      else return { date, hour, minute, second, nanos, offset := seconds }
  | _ => .error .invalid

/-- Reads an instant. -/
def parse (text : String) : Except InstantError Instant :=
  (parseLocal text).map LocalTime.instant

/-! ### The relaxed form -/

/-- The text without the blanks at its start. -/
def skipBlanks (s : List Char) : List Char := s.dropWhile Text.isBlank

/-- Reads an unsigned number of one to `width` digits after blanks. -/
def relaxedNumber (width : Nat) (s : List Char) : Option (Nat × List Char) :=
  let s := skipBlanks s
  let digits := (s.takeWhile Char.isDigit).take width
  if digits.isEmpty then none
  else some (digits.foldl (fun n c => n * 10 + (c.toNat - '0'.toNat)) 0, s.drop digits.length)

/-- Reads a year: up to four digits, or any number of them behind a sign. -/
def relaxedYear (s : List Char) : Option (Int × List Char) :=
  match skipBlanks s with
  | '-' :: rest => signed rest |>.map fun (n, rest) => (-(n : Int), rest)
  | '+' :: rest => signed rest |>.map fun (n, rest) => ((n : Int), rest)
  | s => (relaxedNumber 4 s).map fun (n, rest) => ((n : Int), rest)
where
  /-- The digits behind a sign, which follow it at once. -/
  signed (s : List Char) : Option (Nat × List Char) :=
    if (s.head?.map Char.isDigit).getD false then relaxedNumber s.length s else none

/-- Requires a character after blanks. -/
def relaxedMark (mark : Char) (s : List Char) : Option (List Char) :=
  match skipBlanks s with
  | c :: rest => if c = mark then some rest else none
  | [] => none

/-- Reads an offset whose colon may be missing or stand among blanks, or `UTC`. -/
def relaxedOffset (s : List Char) : Option (Int × List Char) :=
  match skipBlanks s with
  | u :: t :: c :: rest =>
    if [u, t, c].map Char.toUpper = ['U', 'T', 'C'] then some (0, rest)
    else numeric (u :: t :: c :: rest)
  | s => numeric s
where
  /-- `Z`, `z`, or a sign, two digits of hours and two of minutes. -/
  numeric : List Char → Option (Int × List Char)
    | [] => none
    | c :: rest =>
      if c = 'Z' ∨ c = 'z' then some (0, rest)
      else if ['+', '-', '\u2212'].contains c then
        match rest with
        | h₁ :: h₂ :: rest =>
          match rest.dropWhile (fun c => c = ':' || Text.isBlank c) with
          | m₁ :: m₂ :: rest =>
            match twoDigits h₁ h₂, twoDigits m₁ m₂ with
            | .ok hours, .ok minutes =>
              if 60 ≤ minutes then none
              else
                let seconds : Int := ((hours * 60 + minutes) * 60 : Nat)
                some (if c = '+' then seconds else -seconds, rest)
            | _, _ => none
          | _ => none
        | _ => none
      else none

/-- The years that dates may have. -/
def yearInRange (year : Int) : Bool := -262143 ≤ year && year ≤ 262142

/-- Reads an instant in the relaxed form; only blanks may follow it. -/
def parseRelaxed? (text : String) : Option Instant := do
  let (year, s) ← relaxedYear text.toList
  let s ← relaxedMark '-' s
  let (month, s) ← relaxedNumber 2 s
  let s ← relaxedMark '-' s
  let (day, s) ← relaxedNumber 2 s
  let s ← match s with
    | c :: rest => if ['T', 't', ' '].contains c then some rest else none
    | [] => none
  let (hour, s) ← relaxedNumber 2 s
  let s ← relaxedMark ':' s
  let (minute, s) ← relaxedNumber 2 s
  let s ← relaxedMark ':' s
  let (second, s) ← relaxedNumber 2 s
  let (nanos, s) ← (fraction s).toOption
  let (seconds, s) ← relaxedOffset s
  guard (skipBlanks s).isEmpty
  guard (hour < 24 && minute < 60 && second ≤ 60 && offsetInRange seconds && yearInRange year)
  let date ← CalendarDate.of? year month day
  return LocalTime.instant { date, hour, minute, second, nanos, offset := seconds }

end Instant

end RunOperator
