/-!
# The proleptic Gregorian calendar

Days are numbered from 1970-01-01. A year here begins in March, so that the leap day is the last
day of its year, and four hundred such years form an era of 146097 days.
-/

namespace RunOperator

/-- A day of the calendar by year, month and day of the month. -/
structure CalendarDate where
  year : Int
  month : Nat
  day : Nat
  deriving DecidableEq, Inhabited

namespace CalendarDate

/-- Days of four hundred years. -/
def daysPerEra : Int := 146097

/-- Days from 0000-03-01 to 1970-01-01. -/
def epochOffset : Int := 719468

/-- The year has a 29th of February. -/
def isLeapYear (year : Int) : Bool :=
  year % 4 == 0 && (year % 100 != 0 || year % 400 == 0)

/-- The length of a month. -/
def daysInMonth (year : Int) (month : Nat) : Nat :=
  if month = 2 then (if isLeapYear year then 29 else 28)
  else if month = 4 ∨ month = 6 ∨ month = 9 ∨ month = 11 then 30
  else 31

/-- The date exists. -/
def isValid (d : CalendarDate) : Bool :=
  1 ≤ d.month && d.month ≤ 12 && 1 ≤ d.day && d.day ≤ daysInMonth d.year d.month

/-- The date, when it exists. -/
def of? (year : Int) (month day : Nat) : Option CalendarDate :=
  let d : CalendarDate := ⟨year, month, day⟩
  if d.isValid then some d else none

/-- Days of a March-based year that come before the given month of it (0 is March). -/
def daysBeforeMonth (month : Int) : Int := (153 * month + 2) / 5

/-- The number of the date's day, counted from 1970-01-01. -/
def dayNumber (d : CalendarDate) : Int :=
  let year : Int := if d.month ≤ 2 then d.year - 1 else d.year
  let era := year / 400
  let yearOfEra := year % 400
  let month : Int := if d.month ≤ 2 then d.month + 9 else d.month - 3
  let dayOfYear := daysBeforeMonth month + d.day - 1
  let dayOfEra := yearOfEra * 365 + yearOfEra / 4 - yearOfEra / 100 + dayOfYear
  era * daysPerEra + dayOfEra - epochOffset

/-- The date of a numbered day. -/
def ofDayNumber (number : Int) : CalendarDate :=
  let shifted := number + epochOffset
  let era := shifted / daysPerEra
  let dayOfEra := shifted % daysPerEra
  let yearOfEra := (dayOfEra - dayOfEra / 1460 + dayOfEra / 36524 - dayOfEra / 146096) / 365
  let dayOfYear := dayOfEra - (365 * yearOfEra + yearOfEra / 4 - yearOfEra / 100)
  let month := (5 * dayOfYear + 2) / 153
  let day := dayOfYear - daysBeforeMonth month + 1
  let calendarMonth := if month < 10 then month + 3 else month - 9
  let year := yearOfEra + era * 400 + (if calendarMonth ≤ 2 then 1 else 0)
  ⟨year, calendarMonth.toNat, day.toNat⟩

end CalendarDate

end RunOperator
