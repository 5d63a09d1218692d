import RunOperator.Instant.Calendar

/-!
# The calendar numbers days in their order

Every number is the number of a day that exists (`isValid_ofDayNumber`, `dayNumber_ofDayNumber`),
and a later date has the larger number (`dayNumber_lt_of_before`). Hence the orders of dates and of
day numbers agree (`not_before_ofDayNumber`).

The computations take a day apart into an era, a year of the era that begins in March, a month that
is counted from March, and a day of the month. The year of the era is found by a division whose
dividend is corrected for leap days. That it is the right one is seen from the leap cycles that the
day is in (`exists_cycles`, `yearOfEra_eq`).
-/

namespace RunOperator

namespace CalendarDate

/-- Days from the beginning of the March-based year 0 to that of another. -/
def daysBeforeYear (year : Int) : Int := 365 * year + year / 4 - year / 100 + year / 400

/-- Days of a March-based year. It ends with the February of the next calendar year. -/
def daysOfYear (year : Int) : Int := if isLeapYear (year + 1) then 366 else 365

/-- The March-based year of a date. -/
def marchYear (d : CalendarDate) : Int := if d.month ≤ 2 then d.year - 1 else d.year

/-- The month of a date, counted from March. -/
def marchMonth (d : CalendarDate) : Int := if d.month ≤ 2 then d.month + 9 else d.month - 3

/-- The day of a date, counted from the beginning of its March-based year. -/
def dayOfYear (d : CalendarDate) : Int := daysBeforeMonth d.marchMonth + d.day - 1

/-- The number of a day is counted from the March of the year 0, and then from the epoch. -/
theorem dayNumber_eq (d : CalendarDate) :
    d.dayNumber = daysBeforeYear d.marchYear + d.dayOfYear - epochOffset := by
  simp only [dayNumber, daysBeforeYear, dayOfYear, marchYear, marchMonth, daysPerEra]
  omega

/-- A year is a leap year by the rule of the Gregorian calendar. -/
theorem isLeapYear_iff {year : Int} :
    isLeapYear year = true ↔ year % 4 = 0 ∧ (year % 100 ≠ 0 ∨ year % 400 = 0) := by
  simp [isLeapYear]

/-- A year begins when all of the year before has passed. -/
theorem daysBeforeYear_succ (year : Int) :
    daysBeforeYear (year + 1) = daysBeforeYear year + daysOfYear year := by
  unfold daysBeforeYear daysOfYear
  split <;> next h => rw [isLeapYear_iff] at h; omega

/-- A later year begins no earlier. -/
theorem daysBeforeYear_mono {y z : Int} (h : y ≤ z) : daysBeforeYear y ≤ daysBeforeYear z := by
  unfold daysBeforeYear
  omega

/-! ### The date of a day number -/

/-- The year of the era that a day of the era is in. -/
def yearOfEra (n : Int) : Int := (n - n / 1460 + n / 36524 - n / 146096) / 365

/-- The date of a day of a month that is counted from March, in a March-based year. -/
def ofReading (year month day : Int) : CalendarDate :=
  let calendarMonth := if month < 10 then month + 3 else month - 9
  ⟨year + (if calendarMonth ≤ 2 then 1 else 0), calendarMonth.toNat, day.toNat⟩

private theorem marchYear_ofReading {year month day : Int} (hmonth : 0 ≤ month ∧ month ≤ 11) :
    (ofReading year month day).marchYear = year := by
  simp only [marchYear, ofReading]
  omega

private theorem marchMonth_ofReading {year month day : Int} (hmonth : 0 ≤ month ∧ month ≤ 11) :
    (ofReading year month day).marchMonth = month := by
  simp only [marchMonth, ofReading]
  omega

/-- A day of an era is in a century of it, a leap cycle of the century and a year of the cycle. The
last year of a cycle may have a day more than the others, but not in the last cycle of a century
that is followed by another of the same era. -/
theorem exists_cycles {n : Int} (hzero : 0 ≤ n) (hlt : n < daysPerEra) :
    ∃ c q a d : Int, n = 36524 * c + 1461 * q + 365 * a + d ∧ (0 ≤ c ∧ c ≤ 3) ∧
      (0 ≤ q ∧ q ≤ 24) ∧ (0 ≤ a ∧ a ≤ 3) ∧ (0 ≤ d ∧ d ≤ 365) ∧
      (d = 365 → a = 3 ∧ (q = 24 → c = 3)) := by
  have hcentury : ∃ c r : Int, n = 36524 * c + r ∧ 0 ≤ c ∧ c ≤ 3 ∧ 0 ≤ r ∧ r ≤ 36524 ∧
      (r = 36524 → c = 3) := by
    unfold daysPerEra at hlt
    by_cases hlast : n = 146096
    · exact ⟨3, 36524, by omega⟩
    · exact ⟨n / 36524, n % 36524, by omega⟩
  obtain ⟨c, r, hn, hc, hc', hr, hr', hlast⟩ := hcentury
  by_cases hend : r % 1461 = 1460
  · exact ⟨c, r / 1461, 3, 365, by omega⟩
  · exact ⟨c, r / 1461, r % 1461 / 365, r % 1461 % 365, by omega⟩

/-- The corrected division finds the year of the era. -/
theorem yearOfEra_eq {n c q a d : Int} (hn : n = 36524 * c + 1461 * q + 365 * a + d)
    (hc : 0 ≤ c ∧ c ≤ 3) (hq : 0 ≤ q ∧ q ≤ 24) (ha : 0 ≤ a ∧ a ≤ 3) (hd : 0 ≤ d ∧ d ≤ 365)
    (hlong : d = 365 → a = 3 ∧ (q = 24 → c = 3)) :
    yearOfEra n = 100 * c + 4 * q + a := by
  -- The leap days of the centuries that are over; the last day of the era would count one more.
  have hcentury : n / 36524 - n / 146096 = c := by
    have hlast : n < 36524 * (c + 1) ∨ n = 146096 ∧ c = 3 := by omega
    rcases hlast with hbefore | ⟨rfl, rfl⟩
    · have hquotients : n / 36524 = c ∧ n / 146096 = 0 := by
        clear hlong
        constructor <;> omega
      omega
    · omega
  -- The leap days of the cycles that are over, or one more late in the last year of a cycle.
  have hcycle : n / 1460 = 25 * c + q ∨ n / 1460 = 25 * c + q + 1 ∧ a = 3 ∧ 1 ≤ d := by omega
  unfold yearOfEra
  omega

/-- A day of an era is a day of a year of it. -/
theorem exists_year_of_era {n : Int} (hzero : 0 ≤ n) (hlt : n < daysPerEra) :
    ∃ d, (0 ≤ yearOfEra n ∧ yearOfEra n < 400) ∧ n = daysBeforeYear (yearOfEra n) + d ∧
      0 ≤ d ∧ d < daysOfYear (yearOfEra n) := by
  obtain ⟨c, q, a, d, hn, hc, hq, ha, hd, hlong⟩ := exists_cycles hzero hlt
  have hyear := yearOfEra_eq hn hc hq ha hd hlong
  rw [hyear]
  refine ⟨d, by omega, ?_, hd.1, ?_⟩
  · unfold daysBeforeYear
    omega
  · unfold daysOfYear
    split
    · omega
    · next h =>
      rw [isLeapYear_iff] at h
      omega

/-- The month of a day of a March-based year. -/
theorem month_of_dayOfYear {n : Int} (hzero : 0 ≤ n) (hle : n ≤ 365) :
    (0 ≤ (5 * n + 2) / 153 ∧ (5 * n + 2) / 153 ≤ 11) ∧
      daysBeforeMonth ((5 * n + 2) / 153) ≤ n ∧
      n < daysBeforeMonth ((5 * n + 2) / 153 + 1) := by
  unfold daysBeforeMonth
  omega

private theorem daysBeforeYear_add_eras (year era : Int) :
    daysBeforeYear (year + era * 400) = daysBeforeYear year + era * daysPerEra := by
  unfold daysBeforeYear daysPerEra
  omega

private theorem daysOfYear_add_eras (year era : Int) :
    daysOfYear (year + era * 400) = daysOfYear year := by
  have hleap : isLeapYear (year + era * 400 + 1) = isLeapYear (year + 1) := by
    rw [Bool.eq_iff_iff, isLeapYear_iff, isLeapYear_iff]
    omega
  rw [daysOfYear, hleap, daysOfYear]

/-- The date of a number is found in a March-based year and a month of it. -/
theorem exists_reading (number : Int) :
    ∃ year month day : Int, ofDayNumber number = ofReading year month day ∧
      (0 ≤ month ∧ month ≤ 11) ∧ 1 ≤ day ∧
      number = daysBeforeYear year + (daysBeforeMonth month + day - 1) - epochOffset ∧
      daysBeforeMonth month + day - 1 < daysOfYear year ∧
      daysBeforeMonth month + day - 1 < daysBeforeMonth (month + 1) := by
  have hdate : ofDayNumber number =
      let n := (number + epochOffset) % daysPerEra
      let d := n - (365 * yearOfEra n + yearOfEra n / 4 - yearOfEra n / 100)
      ofReading (yearOfEra n + (number + epochOffset) / daysPerEra * 400) ((5 * d + 2) / 153)
        (d - daysBeforeMonth ((5 * d + 2) / 153) + 1) := rfl
  dsimp only at hdate
  have hsplit := Int.emod_add_mul_ediv (number + epochOffset) daysPerEra
  generalize hera : (number + epochOffset) / daysPerEra = era at hdate hsplit
  obtain ⟨d, hyear, hn, hd, hlt⟩ := exists_year_of_era (n := (number + epochOffset) % daysPerEra)
    (Int.emod_nonneg _ (by decide)) (Int.emod_lt_of_pos _ (by decide))
  generalize (number + epochOffset) % daysPerEra = n at *
  generalize yearOfEra n = year at *
  have hday : n - (365 * year + year / 4 - year / 100) = d := by
    rw [hn, daysBeforeYear]
    omega
  have hle : d ≤ 365 := by
    unfold daysOfYear at hlt
    split at hlt <;> omega
  obtain ⟨hmonth, hfirst, hlast⟩ := month_of_dayOfYear hd hle
  rw [hday] at hdate
  refine ⟨_, _, _, hdate, hmonth, by omega, ?_, ?_, by omega⟩
  · rw [daysBeforeYear_add_eras, Int.mul_comm era]
    omega
  · rw [daysOfYear_add_eras]
    omega

/-- The number of the date of a number is that number. -/
theorem dayNumber_ofDayNumber (number : Int) : (ofDayNumber number).dayNumber = number := by
  obtain ⟨year, month, day, hdate, hmonth, hday, hnumber, -, -⟩ := exists_reading number
  have hpositive : ((ofReading year month day).day : Int) = day := Int.toNat_of_nonneg (by omega)
  rw [hdate, dayNumber_eq, dayOfYear, marchYear_ofReading hmonth, marchMonth_ofReading hmonth,
    hpositive]
  exact hnumber.symm

/-- The length of a month is the distance to the next one; the last month of a March-based year is
cut off by its end. -/
theorem daysInMonth_eq {d : CalendarDate} (hmonth : 1 ≤ d.month ∧ d.month ≤ 12) :
    (daysInMonth d.year d.month : Int) =
      min (daysBeforeMonth (d.marchMonth + 1)) (daysOfYear d.marchYear) -
        daysBeforeMonth d.marchMonth := by
  have hfebruary : daysInMonth d.year 2 + 337 = daysOfYear (d.year - 1) := by
    rw [daysInMonth, if_pos rfl, daysOfYear, Int.sub_add_cancel]
    split <;> rfl
  have hyear : 365 ≤ daysOfYear d.marchYear ∧ daysOfYear d.marchYear ≤ 366 := by
    unfold daysOfYear
    split <;> omega
  by_cases htwo : d.month = 2
  · rw [marchYear, if_pos (by omega)] at hyear ⊢
    rw [marchMonth, if_pos (by omega), htwo]
    unfold daysBeforeMonth
    omega
  · have hothers : d.month = 1 ∨ d.month = 3 ∨ d.month = 4 ∨ d.month = 5 ∨ d.month = 6 ∨
        d.month = 7 ∨ d.month = 8 ∨ d.month = 9 ∨ d.month = 10 ∨ d.month = 11 ∨ d.month = 12 := by
      omega
    simp only [daysInMonth, if_neg htwo, marchMonth, daysBeforeMonth]
    split <;> rcases hothers with h | h | h | h | h | h | h | h | h | h | h <;> rw [h] <;> omega

/-- A date exists when its month and its day do, and the day is one of its year. -/
theorem isValid_iff {d : CalendarDate} :
    d.isValid = true ↔ (1 ≤ d.month ∧ d.month ≤ 12) ∧ 1 ≤ d.day ∧
      d.dayOfYear < daysBeforeMonth (d.marchMonth + 1) ∧ d.dayOfYear < daysOfYear d.marchYear := by
  simp only [isValid, Bool.and_eq_true, decide_eq_true_eq]
  constructor
  · rintro ⟨⟨⟨hone, htwelve⟩, hday⟩, hlength⟩
    have hmonth := daysInMonth_eq ⟨hone, htwelve⟩
    refine ⟨⟨hone, htwelve⟩, hday, ?_, ?_⟩ <;> unfold dayOfYear <;> omega
  · rintro ⟨hmonth, hday, hnext, hyear⟩
    have hlength := daysInMonth_eq hmonth
    unfold dayOfYear at hnext hyear
    exact ⟨⟨hmonth, hday⟩, by omega⟩

/-- Every number is the number of a day that exists. -/
theorem isValid_ofDayNumber (number : Int) : (ofDayNumber number).isValid = true := by
  obtain ⟨year, month, day, hdate, hmonth, hday, -, hyear, hnext⟩ := exists_reading number
  have hpositive : ((ofReading year month day).day : Int) = day := Int.toNat_of_nonneg (by omega)
  rw [hdate, isValid_iff, dayOfYear, marchYear_ofReading hmonth, marchMonth_ofReading hmonth,
    hpositive]
  refine ⟨?_, by omega, hnext, hyear⟩
  simp only [ofReading]
  omega

/-! ### The order of dates -/

/-- The first date comes before the second in the calendar. -/
def Before (a b : CalendarDate) : Prop :=
  a.year < b.year ∨ a.year = b.year ∧ (a.month < b.month ∨ a.month = b.month ∧ a.day < b.day)

/-- Of two different dates one comes before the other. -/
theorem before_or_eq_or_before (a b : CalendarDate) : a.Before b ∨ a = b ∨ b.Before a := by
  obtain ⟨year, month, day⟩ := a
  obtain ⟨year', month', day'⟩ := b
  simp only [Before, mk.injEq]
  omega

/-- A later date that exists has the larger number. -/
theorem dayNumber_lt_of_before {a b : CalendarDate} (ha : a.isValid = true)
    (hb : b.isValid = true) (h : a.Before b) : a.dayNumber < b.dayNumber := by
  obtain ⟨hmonth, hday, hnext, hyear⟩ := isValid_iff.1 ha
  obtain ⟨hmonth', hday', -, -⟩ := isValid_iff.1 hb
  have hfirst : 0 ≤ b.dayOfYear := by
    simp only [dayOfYear, daysBeforeMonth, marchMonth]
    split <;> omega
  have horder : a.marchYear < b.marchYear ∨ a.marchYear = b.marchYear ∧
      (a.marchMonth < b.marchMonth ∨ a.marchMonth = b.marchMonth ∧ a.day < b.day) := by
    simp only [Before] at h
    simp only [marchYear, marchMonth]
    split <;> split <;> omega
  rw [dayNumber_eq, dayNumber_eq]
  rcases horder with hlt | ⟨heq, hlt | ⟨hmarch, hlt⟩⟩
  · have hyears := daysBeforeYear_mono (Int.add_one_le_iff.2 hlt)
    rw [daysBeforeYear_succ] at hyears
    omega
  · have hmonths : daysBeforeMonth (a.marchMonth + 1) ≤ daysBeforeMonth b.marchMonth := by
      unfold daysBeforeMonth
      omega
    have hlater : daysBeforeMonth b.marchMonth ≤ b.dayOfYear := by
      unfold dayOfYear
      omega
    rw [heq]
    omega
  · simp only [dayOfYear]
    rw [heq, hmarch]
    omega

/-- The dates of two numbers stand in their order. -/
theorem not_before_ofDayNumber {n n' : Int} (h : n ≤ n') :
    ¬ (ofDayNumber n').Before (ofDayNumber n) := by
  intro hbefore
  have hlt := dayNumber_lt_of_before (isValid_ofDayNumber n') (isValid_ofDayNumber n) hbefore
  rw [dayNumber_ofDayNumber, dayNumber_ofDayNumber] at hlt
  omega

end CalendarDate

end RunOperator
