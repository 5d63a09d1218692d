import Mathlib.Data.List.Induction
import RunOperator.Proofs.Members
import RunOperator.Proofs.WrittenInstants

/-!
# Times of object metadata

The relaxed reader accepts many spellings of an instant. What it has read is written in the one form
of `Instant.format`, which it accepts too: it reads the instant to the second
(`Instant.parseRelaxed?_format`). A leap second stays a leap second, because every time that is read
puts it at the end of a minute (`Instant.isProper_of_parseRelaxed?`).
-/

namespace RunOperator

namespace Digits

/-- The number that decimal digits stand for, read from the left. -/
def value (digits : List Char) : Nat :=
  digits.foldl (fun n c => n * 10 + (c.toNat - '0'.toNat)) 0

private theorem value_concat (digits : List Char) {d : Nat} (hd : d < 10) :
    value (digits ++ [Nat.digitChar d]) = value digits * 10 + d := by
  have hdigit : (Nat.digitChar d).toNat - '0'.toNat = d := Nat.toNat_digitChar_sub_48_of_lt_ten hd
  rw [value, List.foldl_append, List.foldl_cons, List.foldl_nil, hdigit, value]

/-- A number is read back from its digits. -/
theorem value_padded {width n : Nat} (hn : n < 10 ^ (width + 1)) :
    value (padded (width + 1) n).toList = n := by
  induction width generalizing n with
  | zero =>
    rw [toList_padded_of_lt_ten 0 hn]
    exact (value_concat [] hn).trans (by simp [value])
  | succ width ih =>
    rw [Nat.pow_succ] at hn
    rw [toList_padded_succ, value_concat _ (Nat.mod_lt n (by decide)), ih (by omega)]
    omega

/-- What holds of the ten digits holds of all characters of a written number. -/
theorem forall_padded {P : Char → Prop} (hP : ∀ d < 10, P (Nat.digitChar d)) {width n : Nat}
    (hn : n < 10 ^ (width + 1)) : ∀ c ∈ (padded (width + 1) n).toList, P c := by
  induction width generalizing n with
  | zero =>
    intro c hc
    rw [toList_padded_of_lt_ten 0 hn, List.replicate_zero, List.nil_append,
      List.mem_singleton] at hc
    exact hc ▸ hP n hn
  | succ width ih =>
    intro c hc
    rw [Nat.pow_succ] at hn
    rw [toList_padded_succ, List.mem_append, List.mem_singleton] at hc
    rcases hc with hc | rfl
    · exact ih (by omega) c hc
    · exact hP (n % 10) (Nat.mod_lt n (by decide))

/-- Digits of limited number stand for a limited number. -/
theorem value_lt {digits : List Char} (hdigits : ∀ c ∈ digits, c.isDigit = true) :
    value digits < 10 ^ digits.length := by
  induction digits using List.reverseRecOn with
  | nil => simp [value]
  | append_singleton digits c ih =>
    have hc : c.toNat - '0'.toNat < 10 := by
      have hmem : c ∈ digits ++ [c] := List.mem_append_right _ List.mem_cons_self
      have hrange := Char.isDigit_iff_toNat.1 (hdigits c hmem)
      have hzero : '0'.toNat = 48 := rfl
      have hnine : '9'.toNat = 57 := rfl
      omega
    have := ih fun c' hc' => hdigits c' (List.mem_append_left _ hc')
    rw [value, List.foldl_append, List.foldl_cons, List.foldl_nil, List.length_append,
      List.length_singleton, Nat.pow_succ]
    unfold value at this
    omega

end Digits

namespace Instant

open Digits

variable {t : Instant}

/-! ### Reading the written form -/

/-- The character of a digit is a digit. -/
theorem isDigit_digitChar : ∀ d < 10, (Nat.digitChar d).isDigit = true := by decide

private theorem not_isBlank_digitChar :
    ∀ d < 10, Text.isBlank (Nat.digitChar d) = false := by decide

private theorem skipBlanks_cons {c : Char} (hc : Text.isBlank c = false) (rest : List Char) :
    skipBlanks (c :: rest) = c :: rest := by
  rw [skipBlanks, List.dropWhile_cons, hc]
  rfl

private theorem relaxedMark_cons (mark : Char) (hmark : Text.isBlank mark = false)
    (rest : List Char) : relaxedMark mark (mark :: rest) = some rest := by
  rw [relaxedMark, skipBlanks_cons hmark]
  exact if_pos rfl

/-- A field begins with a digit. -/
theorem exists_field_eq {width n : Nat} (hn : n < 10 ^ (width + 1)) (mark : Char)
    (rest : List Char) :
    ∃ d < 10, ∃ tail, field (width + 1) n mark rest = Nat.digitChar d :: tail := by
  have hdigits := forall_padded (P := fun c => ∃ d < 10, c = Nat.digitChar d)
    (fun d hd => ⟨d, hd, rfl⟩) hn
  have hlength := length_padded hn
  rw [field]
  cases hpadded : (padded (width + 1) n).toList with
  | nil => simp [hpadded] at hlength
  | cons c cs =>
    rw [hpadded] at hdigits
    obtain ⟨d, hd, rfl⟩ := hdigits c List.mem_cons_self
    exact ⟨d, hd, _, rfl⟩

/-- A field is read as the number that was written. -/
theorem relaxedNumber_field {width n : Nat} (hn : n < 10 ^ (width + 1)) (mark : Char)
    (hmark : mark.isDigit = false) (rest : List Char) :
    relaxedNumber (width + 1) (field (width + 1) n mark rest) = some (n, mark :: rest) := by
  have hskip : skipBlanks (field (width + 1) n mark rest) = field (width + 1) n mark rest := by
    obtain ⟨d, hd, tail, heq⟩ := exists_field_eq hn mark rest
    rw [heq, skipBlanks_cons (not_isBlank_digitChar d hd)]
  have hlength := length_padded hn
  have htake : ((field (width + 1) n mark rest).takeWhile Char.isDigit).take (width + 1) =
      (padded (width + 1) n).toList := by
    rw [field, List.takeWhile_append_of_pos (forall_padded isDigit_digitChar hn),
      List.takeWhile_cons, hmark, if_neg Bool.false_ne_true, List.append_nil,
      List.take_of_length_le (Nat.le_of_eq hlength)]
  have hempty : (padded (width + 1) n).toList.isEmpty = false := by
    cases hpadded : (padded (width + 1) n).toList with
    | nil => simp [hpadded] at hlength
    | cons c cs => rfl
  rw [relaxedNumber, hskip, htake, hempty, if_neg Bool.false_ne_true, field, List.drop_left]
  exact congrArg (fun n => some (n, mark :: rest)) (value_padded hn)

private theorem relaxedYear_field {year : Nat} (hyear : year < 10000) (mark : Char)
    (hmark : mark.isDigit = false) (rest : List Char) :
    relaxedYear (field 4 year mark rest) = some ((year : Int), mark :: rest) := by
  have hfits : year < 10 ^ (3 + 1) := hyear
  obtain ⟨d, hd, tail, heq⟩ := exists_field_eq hfits mark rest
  have hnumber := relaxedNumber_field hfits mark hmark rest
  rw [heq] at hnumber ⊢
  have hsigns : ∀ d < 10, Nat.digitChar d ≠ '-' ∧ Nat.digitChar d ≠ '+' := by decide
  rw [relaxedYear, skipBlanks_cons (not_isBlank_digitChar d hd)]
  split
  · next heq => exact absurd (List.cons.inj heq).1 (hsigns d hd).1
  · next heq => exact absurd (List.cons.inj heq).1 (hsigns d hd).2
  · rw [hnumber]
    rfl

/-- What is written to the second is read back. -/
theorem parseRelaxed?_of_toList {text : String} {date : CalendarDate}
    {year hour minute second : Nat}
    (htext : text.toList = field 4 year '-' (field 2 date.month '-' (field 2 date.day 'T'
      (field 2 hour ':' (field 2 minute ':' (field 2 second 'Z' []))))))
    (hdate : date.isValid = true) (hyear : date.year = year) (hlt : year < 10000)
    (hmonth : date.month < 100) (hday : date.day < 100) (hhour : hour < 24) (hminute : minute < 60)
    (hsecond : second ≤ 60) :
    parseRelaxed? text =
      some (LocalTime.instant { date, hour, minute, second, nanos := 0, offset := 0 }) := by
  have hnumber {n : Nat} (hn : n < 10 ^ (1 + 1)) (mark : Char) (hmark : mark.isDigit = false)
      (rest : List Char) : relaxedNumber 2 (field 2 n mark rest) = some (n, mark :: rest) :=
    relaxedNumber_field hn mark hmark rest
  have hfound : CalendarDate.of? (year : Int) date.month date.day = some date := by
    rw [CalendarDate.of?, ← hyear]
    exact if_pos hdate
  have hrange : yearInRange year = true := by
    simp only [yearInRange, Bool.and_eq_true, decide_eq_true_eq]
    omega
  have hfits : (decide (hour < 24) && decide (minute < 60) && decide (second ≤ 60) &&
      offsetInRange 0 && yearInRange year) = true := by
    simp [hhour, hminute, hsecond, hrange, offsetInRange]
  rw [parseRelaxed?, htext]
  refine bind_of_eq_some (relaxedYear_field hlt '-' (by decide) _) ?_
  refine bind_of_eq_some (relaxedMark_cons '-' (by decide) _) ?_
  refine bind_of_eq_some (hnumber hmonth '-' (by decide) _) ?_
  refine bind_of_eq_some (relaxedMark_cons '-' (by decide) _) ?_
  refine bind_of_eq_some (hnumber hday 'T' (by decide) _) ?_
  -- The mark between date and time is one of the three that are accepted.
  dsimp only
  rw [if_pos (by decide)]
  refine bind_of_eq_some rfl ?_
  refine bind_of_eq_some (hnumber (Nat.lt_trans hhour (by decide)) ':' (by decide) _) ?_
  refine bind_of_eq_some (relaxedMark_cons ':' (by decide) _) ?_
  refine bind_of_eq_some (hnumber (Nat.lt_trans hminute (by decide)) ':' (by decide) _) ?_
  refine bind_of_eq_some (relaxedMark_cons ':' (by decide) _) ?_
  refine bind_of_eq_some (hnumber (Nat.lt_of_le_of_lt hsecond (by decide)) 'Z' (by decide) _) ?_
  refine bind_of_eq_some (a := (0, ['Z'])) rfl ?_
  refine bind_of_eq_some (a := (0, [])) (by decide) ?_
  refine bind_of_eq_some (if_pos rfl) ?_
  refine bind_of_eq_some (if_pos hfits) ?_
  refine bind_of_eq_some hfound ?_
  rfl

/-! ### Leap seconds -/

/-- A leap second is at the end of a minute. -/
def IsProper (t : Instant) : Prop := t.isLeap = true → t.secs % 60 = 59

/-- Fraction digits stand for less than a second. -/
theorem nanosOfDigits_lt {digits : List Char} (hdigits : ∀ c ∈ digits, c.isDigit = true) :
    nanosOfDigits digits < nanosPerSecond := by
  have hkept : value (digits.take 9) < 10 ^ (digits.take 9).length :=
    value_lt fun c hc => hdigits c (List.mem_of_mem_take hc)
  have hlength : (digits.take 9).length ≤ 9 := List.length_take_le 9 digits
  calc value (digits.take 9) * 10 ^ (9 - (digits.take 9).length)
      < 10 ^ (digits.take 9).length * 10 ^ (9 - (digits.take 9).length) :=
        Nat.mul_lt_mul_of_pos_right hkept (Nat.pow_pos (by decide))
    _ = nanosPerSecond := by
        rw [← Nat.pow_add, Nat.add_sub_cancel' hlength]
        rfl

/-- A fraction is less than a second. -/
theorem nanos_lt_of_fraction {s : List Char} {read : Nat × List Char}
    (h : (fraction s).toOption = some read) : read.1 < nanosPerSecond := by
  unfold fraction at h
  split at h
  · next tail =>
    dsimp only at h
    split at h
    · cases h
    · split at h
      · cases h
      · cases h
        exact nanosOfDigits_lt fun c hc => List.all_eq_true.1 List.all_takeWhile c hc
  · cases h
    exact Nat.zero_lt_succ _

/-- Clocks differ by whole minutes. -/
theorem offset_of_relaxedOffset {s : List Char} {read : Int × List Char}
    (h : relaxedOffset s = some read) : read.1 % 60 = 0 := by
  have hnumeric {s : List Char} (h : relaxedOffset.numeric s = some read) : read.1 % 60 = 0 := by
    unfold relaxedOffset.numeric at h
    repeat' split at h
    all_goals cases h
    · rfl
    all_goals omega
  unfold relaxedOffset at h
  split at h
  · split at h
    · cases h
      rfl
    · exact hnumeric h
  · exact hnumeric h

/-- The instant of a local time is proper if its fraction is and its offset is a number of minutes.
-/
theorem LocalTime.isProper_instant {r : LocalTime} (hnanos : r.nanos < nanosPerSecond)
    (hoffset : r.offset % 60 = 0) : r.instant.IsProper := by
  unfold IsProper isLeap LocalTime.instant
  intro hleap
  by_cases hsecond : r.second = 60
  · simp only [hsecond, if_true, secondsPerDay]
    omega
  · simp only [if_neg hsecond, Nat.zero_add, decide_eq_true_eq] at hleap
    omega

/-- Every time that is read puts its leap second at the end of a minute. -/
theorem isProper_of_parseRelaxed? {text : String} :
    ∀ t, parseRelaxed? text = some t → t.IsProper := by
  unfold parseRelaxed?
  refine of_bind fun year _ => of_bind fun _ _ => of_bind fun month _ => of_bind fun _ _ =>
    of_bind fun day _ => ?_
  -- After the date a mark has to follow, or nothing is read.
  dsimp only
  split
  · split
    · refine of_bind fun _ _ => of_bind fun hour _ => of_bind fun _ _ => of_bind fun minute _ =>
        of_bind fun _ _ => of_bind fun second _ => of_bind fun nanos hnanos =>
        of_bind fun offset hoffset => of_bind fun _ _ => of_bind fun _ _ => of_bind fun date _ => ?_
      rintro t ⟨⟩
      exact LocalTime.isProper_instant (nanos_lt_of_fraction hnanos)
        (offset_of_relaxedOffset hoffset)
    · rintro t ⟨⟩
  · rintro t ⟨⟩

/-- A proper instant is shown in whole seconds. -/
theorem IsProper.shown (h : t.IsProper) : t.shown = t.truncate := by
  unfold Instant.shown truncate
  cases hleap : t.isLeap with
  | false => rfl
  | true => exact if_pos (h hleap)

/-- Cutting off the fraction keeps leap seconds. -/
theorem isLeap_truncate (t : Instant) : t.truncate.isLeap = t.isLeap := by
  unfold truncate
  cases hleap : t.isLeap <;> rfl

/-- The part of a second is not written. -/
theorem format_truncate (t : Instant) : t.truncate.format = t.format := by
  unfold format
  rw [isLeap_truncate]
  rfl

/-- The written form of a time that was read is read as the time to the second. -/
theorem parseRelaxed?_format (h : t.HasPlainYear) (hproper : t.IsProper) :
    parseRelaxed? t.format = some t.truncate := by
  have hfit := h.fieldsFit
  rw [parseRelaxed?_of_toList (toList_format h) (CalendarDate.isValid_ofDayNumber t.day)
    (Int.toNat_of_nonneg h.1).symm hfit.year hfit.month hfit.day hfit.hour
    (Nat.mod_lt _ (by decide)) hfit.second]
  exact congrArg some (t.instant_of_written.trans hproper.shown)

end Instant

end RunOperator
