import RunOperator.Instant.Basic
import RunOperator.Instant.Calendar

/-!
# The written form of an instant

An instant is written as its date and time of day to the whole second in Coordinated Universal
Time, closed by `Z`. A leap second is written as second 60. A year outside 0 to 9999 carries its
sign.
-/

namespace RunOperator

namespace Digits

/-- The decimal digits of a number, filled up with zeros on the left to the given width. -/
def padded (width n : Nat) : String :=
  let digits := Nat.toDigits 10 n
  String.ofList (List.replicate (width - digits.length) '0' ++ digits)

end Digits

namespace Instant

/-- Four digits for the years 0 to 9999, a sign and at least four digits for the others. -/
def formatYear (year : Int) : String :=
  if 0 ≤ year ∧ year ≤ 9999 then Digits.padded 4 year.toNat
  else (if year < 0 then "-" else "+") ++ Digits.padded 4 year.natAbs

/-- The written form of an instant. -/
def format (t : Instant) : String :=
  let date := CalendarDate.ofDayNumber t.day
  let clock := t.secondOfDay.toNat
  let second := clock % 60 + (if t.isLeap then 1 else 0)
  formatYear date.year ++ "-" ++ Digits.padded 2 date.month ++ "-" ++ Digits.padded 2 date.day
    ++ "T" ++ Digits.padded 2 (clock / 3600) ++ ":" ++ Digits.padded 2 (clock / 60 % 60)
    ++ ":" ++ Digits.padded 2 second ++ "Z"

end Instant

end RunOperator
