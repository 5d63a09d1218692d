import Mathlib.Algebra.Group.Nat.Defs
import RunOperator.Instant.Format
import RunOperator.Instant.Parser
import RunOperator.Proofs.Calendar

/-!
# Instants are written in their order and read back

For the years 0 to 9999 the written form of an instant has one shape, a sequence of fields of fixed
widths (`toList_format`). Reading it gives the instant to the second (`parse_format`), and the
written forms of two instants are ordered as the instants are (`format_le_format`).
-/

namespace RunOperator

/-! ### Fields of digits -/

private theorem digitChar_lt_digitChar {a b : Nat} (hlt : a < b) (hb : b < 10) :
    Nat.digitChar a < Nat.digitChar b := by
  have hcodes : (Nat.digitChar a).toNat < (Nat.digitChar b).toNat := by
    rw [Nat.toNat_digitChar_of_lt_ten (Nat.lt_trans hlt hb), Nat.toNat_digitChar_of_lt_ten hb]
    exact Nat.add_lt_add_left hlt 48
  exact hcodes

/-- A text has at least as many bytes as characters. -/
theorem length_le_utf8ByteSize (cs : List Char) : cs.length ≤ (String.ofList cs).utf8ByteSize := by
  induction cs with
  | nil => exact Nat.zero_le _
  | cons c cs ih =>
    have hsplit : String.ofList (c :: cs) = String.singleton c ++ String.ofList cs := by
      rw [← String.toList_inj]
      simp
    have hc := c.utf8Size_pos
    rw [hsplit, String.utf8ByteSize_append, String.utf8ByteSize_singleton, List.length_cons]
    omega

/-- Of two texts that begin with as many characters, these decide unless they are the same. -/
theorem append_lt_append {a b x y : List Char} (hlength : a.length = b.length)
    (h : a < b ∨ a = b ∧ x < y) : a ++ x < b ++ y := by
  induction a generalizing b with
  | nil =>
    obtain rfl := List.length_eq_zero_iff.1 hlength.symm
    rcases h with hlt | ⟨-, hlt⟩
    · exact absurd hlt (List.lt_irrefl [])
    · exact hlt
  | cons c a ih =>
    cases b with
    | nil => cases hlength
    | cons d b =>
      rw [List.cons_append, List.cons_append, List.cons_lt_cons_iff]
      rcases h with hlt | ⟨heq, hlt⟩
      · rcases List.cons_lt_cons_iff.1 hlt with hlt | ⟨heq, hlt⟩
        · exact Or.inl hlt
        · exact Or.inr ⟨heq, ih (Nat.succ.inj hlength) (Or.inl hlt)⟩
      · cases heq
        exact Or.inr ⟨rfl, ih rfl (Or.inr ⟨rfl, hlt⟩)⟩

namespace Digits

/-- A number of one digit is padded with zeros. -/
theorem toList_padded_of_lt_ten (width : Nat) {n : Nat} (hn : n < 10) :
    (padded (width + 1) n).toList = List.replicate width '0' ++ [Nat.digitChar n] := by
  rw [padded, String.toList_ofList, Nat.toDigits_of_lt_base hn, List.length_singleton,
    Nat.add_sub_cancel]

/-- The last digit comes off the end. -/
theorem toList_padded_succ (width n : Nat) :
    (padded (width + 2) n).toList =
      (padded (width + 1) (n / 10)).toList ++ [Nat.digitChar (n % 10)] := by
  by_cases hn : n < 10
  · rw [toList_padded_of_lt_ten (width + 1) hn, Nat.div_eq_of_lt hn, Nat.mod_eq_of_lt hn,
      toList_padded_of_lt_ten width (by decide), List.replicate_succ']
    rfl
  · rw [padded, padded, String.toList_ofList, String.toList_ofList,
      Nat.toDigits_of_base_le (by decide) (Nat.le_of_not_lt hn), List.length_append,
      List.length_singleton, Nat.add_sub_add_right (width + 1) 1, List.append_assoc]

/-- Two digits are written as they are. -/
theorem toList_padded_two {n : Nat} (hn : n < 100) :
    (padded 2 n).toList = [Nat.digitChar (n / 10), Nat.digitChar (n % 10)] := by
  rw [toList_padded_succ, toList_padded_of_lt_ten 0 (by omega)]
  rfl

/-- Four digits are written as they are. -/
theorem toList_padded_four {n : Nat} (hn : n < 10000) :
    (padded 4 n).toList = [Nat.digitChar (n / 100 / 10), Nat.digitChar (n / 100 % 10),
      Nat.digitChar (n % 100 / 10), Nat.digitChar (n % 100 % 10)] := by
  have hhundreds : n / 10 / 10 = n / 100 := Nat.div_div_eq_div_mul n 10 10
  have hones : n % 100 / 10 = n / 10 % 10 ∧ n % 100 % 10 = n % 10 := by omega
  rw [toList_padded_succ, toList_padded_succ, toList_padded_two (by omega), hhundreds, hones.1,
    hones.2]
  rfl

/-- A number that fits is padded to the width. -/
theorem length_padded {width n : Nat} (hn : n < 10 ^ (width + 1)) :
    (padded (width + 1) n).toList.length = width + 1 := by
  induction width generalizing n with
  | zero => rw [toList_padded_of_lt_ten 0 hn]; rfl
  | succ width ih =>
    rw [toList_padded_succ, List.length_append, ih, List.length_singleton]
    rw [Nat.pow_succ] at hn
    omega

/-- Numbers of one width are written in their order. -/
theorem padded_lt_padded {width n n' : Nat} (hlt : n < n') (hn' : n' < 10 ^ (width + 1)) :
    (padded (width + 1) n).toList < (padded (width + 1) n').toList := by
  induction width generalizing n n' with
  | zero =>
    rw [toList_padded_of_lt_ten 0 (Nat.lt_trans hlt hn'), toList_padded_of_lt_ten 0 hn']
    exact List.cons_lt_cons_iff.2 (Or.inl (digitChar_lt_digitChar hlt hn'))
  | succ width ih =>
    rw [Nat.pow_succ] at hn'
    rw [toList_padded_succ, toList_padded_succ]
    refine append_lt_append ?_ ?_
    · rw [length_padded (by omega), length_padded (by omega)]
    · by_cases hsame : n / 10 = n' / 10
      · have hdigit : Nat.digitChar (n % 10) < Nat.digitChar (n' % 10) :=
          digitChar_lt_digitChar (by omega) (Nat.mod_lt n' (by decide))
        exact Or.inr ⟨by rw [hsame], List.cons_lt_cons_iff.2 (Or.inl hdigit)⟩
      · exact Or.inl (ih (by omega) (by omega))

/-- A field of digits, the mark that ends it, and what follows. -/
def field (width n : Nat) (mark : Char) (rest : List Char) : List Char :=
  (padded width n).toList ++ mark :: rest

/-- The first field that differs decides. -/
theorem field_lt_or_eq_field {width n n' : Nat} (mark : Char) {rest rest' : List Char}
    (hn : n < 10 ^ (width + 1)) (hn' : n' < 10 ^ (width + 1))
    (h : n < n' ∨ n = n' ∧ (rest < rest' ∨ rest = rest')) :
    field (width + 1) n mark rest < field (width + 1) n' mark rest' ∨
      field (width + 1) n mark rest = field (width + 1) n' mark rest' := by
  rcases h with hlt | ⟨rfl, hlt | rfl⟩
  · refine Or.inl (append_lt_append ?_ (Or.inl (padded_lt_padded hlt hn')))
    rw [length_padded hn, length_padded hn']
  · exact Or.inl
      (append_lt_append rfl (Or.inr ⟨rfl, List.cons_lt_cons_iff.2 (Or.inr ⟨rfl, hlt⟩)⟩))
  · exact Or.inr rfl

/-- A field of two digits is these digits and its mark. -/
theorem field_two {n : Nat} (hn : n < 100) (mark : Char) (rest : List Char) :
    field 2 n mark rest = Nat.digitChar (n / 10) :: Nat.digitChar (n % 10) :: mark :: rest := by
  rw [field, toList_padded_two hn]
  rfl

/-- A field of four digits is these digits and its mark. -/
theorem field_four {n : Nat} (hn : n < 10000) (mark : Char) (rest : List Char) :
    field 4 n mark rest = Nat.digitChar (n / 100 / 10) :: Nat.digitChar (n / 100 % 10) ::
      Nat.digitChar (n % 100 / 10) :: Nat.digitChar (n % 100 % 10) :: mark :: rest := by
  rw [field, toList_padded_four hn]
  rfl

end Digits

namespace Instant

open Digits

variable {t t' : Instant}

/-! ### The shape of a written instant -/

/-- The date of an instant. -/
def date (t : Instant) : CalendarDate := CalendarDate.ofDayNumber t.day

/-- The number of the minute of the day. -/
def minuteOfDay (t : Instant) : Nat := t.secondOfDay.toNat / 60

/-- The second of the minute as it is written. -/
def writtenSecond (t : Instant) : Nat := t.secondOfDay.toNat % 60 + (if t.isLeap then 1 else 0)

/-- The year is written with four digits and no sign. -/
def HasPlainYear (t : Instant) : Prop := 0 ≤ t.date.year ∧ t.date.year ≤ 9999

instance (t : Instant) : Decidable t.HasPlainYear :=
  inferInstanceAs (Decidable (0 ≤ t.date.year ∧ t.date.year ≤ 9999))

/-- The year is followed by fields of two digits. -/
theorem toList_format_of_year (t : Instant) :
    t.format.toList = (formatYear t.date.year).toList ++ '-' :: field 2 t.date.month '-'
      (field 2 t.date.day 'T' (field 2 (t.minuteOfDay / 60) ':' (field 2 (t.minuteOfDay % 60) ':'
        (field 2 t.writtenSecond 'Z' [])))) := by
  have hhour : t.minuteOfDay / 60 = t.secondOfDay.toNat / 3600 := Nat.div_div_eq_div_mul _ 60 60
  unfold date minuteOfDay at *
  simp [format, hhour, field, writtenSecond]

/-- A written instant is the row of its six fields. -/
theorem toList_format (h : t.HasPlainYear) :
    t.format.toList = field 4 t.date.year.toNat '-' (field 2 t.date.month '-' (field 2 t.date.day 'T'
      (field 2 (t.minuteOfDay / 60) ':' (field 2 (t.minuteOfDay % 60) ':'
        (field 2 t.writtenSecond 'Z' []))))) := by
  have hyear : formatYear t.date.year = padded 4 t.date.year.toNat := if_pos h
  rw [toList_format_of_year, hyear]
  rfl

/-- The fields of a written instant keep to their widths. -/
structure FieldsFit (t : Instant) : Prop where
  year : t.date.year.toNat < 10000
  month : t.date.month < 100
  day : t.date.day < 100
  hour : t.minuteOfDay / 60 < 24
  second : t.writtenSecond ≤ 60

/-- All fields but the year keep to their widths in any year. -/
theorem fields_fit (t : Instant) :
    t.date.month < 100 ∧ t.date.day < 100 ∧ t.minuteOfDay / 60 < 24 ∧ t.writtenSecond ≤ 60 := by
  obtain ⟨hmonth, hday, hnext, -⟩ :=
    CalendarDate.isValid_iff.1 (CalendarDate.isValid_ofDayNumber t.day)
  have hclock : t.secondOfDay < 86400 := Int.emod_lt_of_pos _ (by decide)
  refine ⟨Nat.lt_of_le_of_lt hmonth.2 (by decide), ?_, ?_, ?_⟩
  · unfold CalendarDate.dayOfYear CalendarDate.daysBeforeMonth at hnext
    unfold date
    omega
  · unfold minuteOfDay
    omega
  · unfold writtenSecond
    split <;> omega

/-- The fields of an instant with a plain year fit their widths. -/
theorem HasPlainYear.fieldsFit (h : t.HasPlainYear) : t.FieldsFit := by
  obtain ⟨hmonth, hday, hhour, hsecond⟩ := t.fields_fit
  have hyear := h.2
  exact ⟨by omega, hmonth, hday, hhour, hsecond⟩

/-! ### Order -/

/-- No instant is later than itself. -/
theorem le_refl (t : Instant) : t ≤ t := Or.inr ⟨rfl, Nat.le_refl _⟩

/-- What is no later than an instant is no later than any that comes after it. -/
theorem le_trans {t₁ t₂ t₃ : Instant} (h₁ : t₁ ≤ t₂) (h₂ : t₂ ≤ t₃) : t₁ ≤ t₃ := by
  rcases h₁ with h₁ | ⟨heq₁, h₁⟩ <;> rcases h₂ with h₂ | ⟨heq₂, h₂⟩
  · exact Or.inl (Int.lt_trans h₁ h₂)
  · exact Or.inl (heq₂ ▸ h₁)
  · exact Or.inl (heq₁ ▸ h₂)
  · exact Or.inr ⟨heq₁.trans heq₂, Nat.le_trans h₁ h₂⟩

/-- An instant is not written with an earlier date and time than one that it follows. -/
theorem fields_le (h : t ≤ t') :
    t.date.Before t'.date ∨ t.date = t'.date ∧
      (t.minuteOfDay < t'.minuteOfDay ∨ t.minuteOfDay = t'.minuteOfDay ∧
        t.writtenSecond ≤ t'.writtenSecond) := by
  have hday : t.day ≤ t'.day := by
    rcases h with hlt | ⟨heq, -⟩ <;> unfold day secondsPerDay <;> omega
  rcases Int.lt_or_eq_of_le hday with hlt | hsame
  · left
    rcases CalendarDate.before_or_eq_or_before t.date t'.date with hbefore | heq | hafter
    · exact hbefore
    · have hnumbers := congrArg CalendarDate.dayNumber heq
      rw [date, date, CalendarDate.dayNumber_ofDayNumber, CalendarDate.dayNumber_ofDayNumber]
        at hnumbers
      omega
    · exact absurd hafter (CalendarDate.not_before_ofDayNumber hday)
  · refine Or.inr ⟨congrArg CalendarDate.ofDayNumber hsame, ?_⟩
    have hclock : t.secondOfDay.toNat < t'.secondOfDay.toNat ∨
        t.secondOfDay.toNat = t'.secondOfDay.toNat ∧ t.nanos ≤ t'.nanos := by
      unfold day secondOfDay secondsPerDay at *
      rcases h with hlt | ⟨heq, hle⟩
      · left
        omega
      · exact Or.inr ⟨by rw [heq], hle⟩
    have hleap (hle : t.nanos ≤ t'.nanos) : t.isLeap = true → t'.isLeap = true := by
      simp only [isLeap, decide_eq_true_eq]
      exact fun hlow => Nat.le_trans hlow hle
    unfold minuteOfDay writtenSecond
    rcases hclock with hlt | ⟨heq, hle⟩
    · -- Within a minute the leap second is at most the next one.
      split <;> split <;> omega
    · rw [heq]
      refine Or.inr ⟨rfl, ?_⟩
      split
      · next hlow => exact Nat.le_of_eq (by rw [if_pos (hleap hle hlow)])
      · exact Nat.add_le_add_left (Nat.zero_le _) _

/-- Instants are written in their order. -/
theorem format_le_format (h : t.HasPlainYear) (h' : t'.HasPlainYear) (hle : t ≤ t') :
    t.format ≤ t'.format := by
  have hfit := h.fieldsFit
  have hfit' := h'.fieldsFit
  have hminute : t.minuteOfDay % 60 < 60 := Nat.mod_lt _ (by decide)
  have hminute' : t'.minuteOfDay % 60 < 60 := Nat.mod_lt _ (by decide)
  have hfields : t.date.year.toNat < t'.date.year.toNat ∨
      t.date.year.toNat = t'.date.year.toNat ∧ (t.date.month < t'.date.month ∨
      t.date.month = t'.date.month ∧ (t.date.day < t'.date.day ∨
      t.date.day = t'.date.day ∧ (t.minuteOfDay / 60 < t'.minuteOfDay / 60 ∨
      t.minuteOfDay / 60 = t'.minuteOfDay / 60 ∧ (t.minuteOfDay % 60 < t'.minuteOfDay % 60 ∨
      t.minuteOfDay % 60 = t'.minuteOfDay % 60 ∧ (t.writtenSecond < t'.writtenSecond ∨
      t.writtenSecond = t'.writtenSecond))))) := by
    have hyear := h.1
    have hyear' := h'.1
    rcases fields_le hle with hbefore | ⟨heq, htime⟩
    · unfold CalendarDate.Before at hbefore
      omega
    · rw [heq]
      omega
  have hlists : t.format.toList < t'.format.toList ∨ t.format.toList = t'.format.toList := by
    rw [toList_format h, toList_format h']
    refine field_lt_or_eq_field '-' hfit.year hfit'.year
      (hfields.imp_right (And.imp_right fun hdate => ?_))
    refine field_lt_or_eq_field '-' hfit.month hfit'.month
      (hdate.imp_right (And.imp_right fun hday => ?_))
    refine field_lt_or_eq_field 'T' hfit.day hfit'.day
      (hday.imp_right (And.imp_right fun hhour => ?_))
    refine field_lt_or_eq_field ':' (Nat.lt_trans hfit.hour (by decide))
      (Nat.lt_trans hfit'.hour (by decide)) (hhour.imp_right (And.imp_right fun htime => ?_))
    refine field_lt_or_eq_field ':' (Nat.lt_trans hminute (by decide))
      (Nat.lt_trans hminute' (by decide)) (htime.imp_right (And.imp_right fun hsecond => ?_))
    exact field_lt_or_eq_field 'Z' (Nat.lt_of_le_of_lt hfit.second (by decide))
      (Nat.lt_of_le_of_lt hfit'.second (by decide))
      (hsecond.imp_right fun heq => ⟨heq, Or.inr rfl⟩)
  rw [← String.not_lt, String.lt_iff]
  rcases hlists with hlt | heq
  · exact List.lt_asymm hlt
  · rw [heq]
    exact List.lt_irrefl _

/-! ### Reading -/

/-- Two digits are read as the number that they are written for. -/
theorem twoDigits_digitChar {a b : Nat} (ha : a < 10) (hb : b < 10) :
    twoDigits (Nat.digitChar a) (Nat.digitChar b) = .ok (a * 10 + b) := by
  have hdigit {d : Nat} (hd : d < 10) : digit (Nat.digitChar d) = .ok d := by
    rw [digit, Nat.isDigit_digitChar, decide_eq_true hd, if_pos rfl]
    exact congrArg Except.ok (Nat.toNat_digitChar_sub_48_of_lt_ten hd)
  rw [twoDigits, hdigit ha, hdigit hb]
  rfl

/-- Two digits of a field are read as the number that was written. -/
theorem twoDigits_field {n : Nat} (hn : n < 100) :
    twoDigits (Nat.digitChar (n / 10)) (Nat.digitChar (n % 10)) = .ok n := by
  rw [twoDigits_digitChar (by omega) (by omega), Nat.div_add_mod']

/-- What is written to the second is read back. -/
theorem parseLocal_of_toList {text : String} {date : CalendarDate} {year hour minute second : Nat}
    (htext : text.toList = field 4 year '-' (field 2 date.month '-' (field 2 date.day 'T'
      (field 2 hour ':' (field 2 minute ':' (field 2 second 'Z' []))))))
    (hdate : date.isValid = true) (hyear : date.year = year) (hlt : year < 10000)
    (hmonth : date.month < 100) (hday : date.day < 100) (hhour : hour < 24) (hminute : minute < 60)
    (hsecond : second < 61) :
    parseLocal text = .ok { date, hour, minute, second, nanos := 0, offset := 0 } := by
  rw [field_two (n := second) (by omega), field_two (n := minute) (by omega),
    field_two (n := hour) (by omega), field_two (n := date.day) (by omega),
    field_two (n := date.month) (by omega), field_four hlt] at htext
  have hlength := length_le_utf8ByteSize text.toList
  rw [String.ofList_toList, htext] at hlength
  have hlong : ¬ text.utf8ByteSize < 19 := Nat.not_lt.2 (Nat.le_trans (by simp) hlength)
  have hnumber : year / 100 * 100 + year % 100 = year := Nat.div_add_mod' year 100
  have hfound : CalendarDate.of? (year : Int) date.month date.day = some date := by
    rw [CalendarDate.of?, ← hyear]
    exact if_pos hdate
  have hcentury := twoDigits_field (n := year / 100) (by omega)
  have hyears := twoDigits_field (n := year % 100) (by omega)
  have hrange : ¬ (24 ≤ hour ∨ 60 ≤ minute ∨ 61 ≤ second) := by omega
  rw [parseLocal, if_neg hlong, htext]
  simp only [hcentury, hyears, twoDigits_field hmonth, twoDigits_field hday,
    twoDigits_field (n := hour) (by omega), twoDigits_field (n := minute) (by omega),
    twoDigits_field (n := second) (by omega), bind, Except.bind, hnumber, hfound, fraction,
    if_neg hrange]
  rfl

/-- What is left of an instant in its written form. The leap second of a minute is second 60; a
leap second that is not at the end of a minute is written as the second that follows it. -/
def shown (t : Instant) : Instant :=
  if t.isLeap then
    if t.secs % 60 = 59 then ⟨t.secs, nanosPerSecond⟩ else ⟨t.secs + 1, 0⟩
  else ⟨t.secs, 0⟩

/-- The fields of the written form stand for what is left of the instant. -/
theorem instant_of_written (t : Instant) :
    LocalTime.instant
      { date := t.date, hour := t.minuteOfDay / 60, minute := t.minuteOfDay % 60,
        second := t.writtenSecond, nanos := 0, offset := 0 } = t.shown := by
  have hday : t.date.dayNumber = t.day := CalendarDate.dayNumber_ofDayNumber t.day
  simp only [LocalTime.instant, hday, shown]
  unfold minuteOfDay writtenSecond secondOfDay day secondsPerDay
  cases t.isLeap with
  | false =>
    have hordinary : (t.secs % 86400).toNat % 60 ≠ 60 := by omega
    simp only [Bool.false_eq_true, if_false, Nat.add_zero, if_neg hordinary]
    congr 1
    omega
  | true =>
    simp only [if_true]
    by_cases hproper : t.secs % 60 = 59
    · rw [if_pos hproper, if_pos (by omega), if_pos (by omega)]
      congr 1
      omega
    · rw [if_neg hproper, if_neg (by omega), if_neg (by omega)]
      congr 1
      omega

/-- The written form of an instant is read as the instant to the second. -/
theorem parse_format (h : t.HasPlainYear) : parse t.format = .ok t.shown := by
  have hfit := h.fieldsFit
  have hsecond : t.writtenSecond < 61 := Nat.lt_succ_of_le hfit.second
  rw [parse, parseLocal_of_toList (toList_format h) (CalendarDate.isValid_ofDayNumber t.day)
    (Int.toNat_of_nonneg h.1).symm hfit.year hfit.month hfit.day hfit.hour
    (Nat.mod_lt _ (by decide)) hsecond]
  exact congrArg Except.ok t.instant_of_written

/-- What is left of two instants is in their order. -/
theorem shown_le_shown (hle : t ≤ t') : t.shown ≤ t'.shown := by
  have hsecs : t.secs < t'.secs ∨ t.secs = t'.secs ∧ (t.isLeap = true → t'.isLeap = true) := by
    rcases hle with hlt | ⟨heq, hnanos⟩
    · exact Or.inl hlt
    · refine Or.inr ⟨heq, ?_⟩
      simp only [isLeap, decide_eq_true_eq]
      exact fun hlow => Nat.le_trans hlow hnanos
  change t.shown.secs < t'.shown.secs ∨
    t.shown.secs = t'.shown.secs ∧ t.shown.nanos ≤ t'.shown.nanos
  unfold shown
  rcases hsecs with hlt | ⟨heq, hleap⟩
  · repeat' split
    all_goals dsimp only; omega
  · rw [heq]
    cases hleft : t.isLeap with
    | true =>
      rw [hleap hleft]
      exact Or.inr ⟨rfl, Nat.le_refl _⟩
    | false =>
      rw [if_neg Bool.false_ne_true]
      repeat' split
      all_goals dsimp only; omega

end Instant

end RunOperator
