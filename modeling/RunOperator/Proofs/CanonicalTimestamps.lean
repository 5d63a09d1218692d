import RunOperator.Proofs.MetadataTimes
import RunOperator.Proofs.StampedLives

/-!
# The canonical form of a timestamp

A timestamp can be spelled in many ways: with any of three separators, with any offset, with a
fraction of any length. `formatTimestamp` has one spelling for each second. The fields of a written
instant have fixed widths behind the year, so that they can be taken off the text one by one
(`Digits.field_inj`), and the year that remains is told from its digits or from its sign
(`Instant.formatYear_inj`). Hence the written form determines the instant to the second, in every
year (`Instant.shown_eq_of_format_eq`). A leap second that was read stands at the end of a minute
(`Instant.isProper_of_parse`), where it is written as second 60 and nothing else is.
`timestamps_are_canonical` is what follows for the spellings.
-/

namespace RunOperator

/-- What holds of each result of the rest holds of the result. -/
theorem of_bind_ok {ε α β : Type} {part : Except ε α} {rest : α → Except ε β} {P : β → Prop}
    (hrest : ∀ a, part = .ok a → ∀ b, rest a = .ok b → P b) :
    ∀ b, (part >>= rest) = .ok b → P b := by
  intro b hb
  cases hpart : part with
  | error e =>
    rw [hpart] at hb
    cases hb
  | ok a =>
    rw [hpart] at hb
    exact hrest a hpart b hb

namespace Digits

variable {width n n' : Nat} {mark : Char} {rest rest' : List Char}

private theorem padded_inj (h : padded width n = padded width n') : n = n' := by
  have hread (m : Nat) : Nat.ofDigitChars 10 (padded width m).toList 0 = m := by
    rw [padded, String.toList_ofList, Nat.ofDigitChars_append, Nat.ofDigitChars_replicate_zero,
      Nat.mul_zero, Nat.ofDigitChars_ten_toDigits]
  rw [← hread n, h, hread]

private theorem length_field (hn : n < 10 ^ (width + 1)) :
    (field (width + 1) n mark rest).length = width + 2 + rest.length := by
  rw [field, List.length_append, length_padded hn, List.length_cons]
  omega

/-- A field can be taken off a text. -/
theorem field_inj (hn : n < 10 ^ (width + 1)) (hn' : n' < 10 ^ (width + 1))
    (h : field (width + 1) n mark rest = field (width + 1) n' mark rest') :
    n = n' ∧ rest = rest' := by
  have hlength : (padded (width + 1) n).toList.length = (padded (width + 1) n').toList.length := by
    rw [length_padded hn, length_padded hn']
  obtain ⟨hdigits, htail⟩ := List.append_inj h hlength
  exact ⟨padded_inj (String.toList_inj.1 hdigits), (List.cons.inj htail).2⟩

end Digits

namespace Instant

open Digits

variable {t t' : Instant}

/-! ### The written form determines the second -/

/-- A year of fewer or more than four digits is written with a sign. -/
theorem toList_formatYear_of_signed {year : Int} (h : ¬ (0 ≤ year ∧ year ≤ 9999)) :
    (formatYear year).toList =
      (if year < 0 then '-' else '+') :: (padded 4 year.natAbs).toList := by
  rw [formatYear, if_neg h]
  split <;> simp

/-- A year of four digits does not begin with a sign. -/
theorem formatYear_ne_of_signed {year year' : Int} (h : 0 ≤ year ∧ year ≤ 9999)
    (h' : ¬ (0 ≤ year' ∧ year' ≤ 9999)) : formatYear year ≠ formatYear year' := by
  intro heq
  have hfits : year.toNat < 10 ^ (3 + 1) := by omega
  have hdigits := forall_padded (P := fun c => c.isDigit = true) isDigit_digitChar hfits
  have hplain : formatYear year = padded 4 year.toNat := if_pos h
  rw [← hplain, heq, toList_formatYear_of_signed h'] at hdigits
  have hsign := hdigits _ List.mem_cons_self
  split at hsign <;> exact absurd hsign (by decide)

/-- Different years are written differently. -/
theorem formatYear_inj {year year' : Int} (heq : formatYear year = formatYear year') :
    year = year' := by
  by_cases h : 0 ≤ year ∧ year ≤ 9999
  · by_cases h' : 0 ≤ year' ∧ year' ≤ 9999
    · rw [formatYear, formatYear, if_pos h, if_pos h'] at heq
      have hnumber := padded_inj heq
      omega
    · exact absurd heq (formatYear_ne_of_signed h h')
  · by_cases h' : 0 ≤ year' ∧ year' ≤ 9999
    · exact absurd heq.symm (formatYear_ne_of_signed h' h)
    · have hlists := congrArg String.toList heq
      rw [toList_formatYear_of_signed h, toList_formatYear_of_signed h', List.cons.injEq,
        String.toList_inj] at hlists
      have hnumber := padded_inj hlists.2
      have hsign : year < 0 ↔ year' < 0 := by
        have hchars := hlists.1
        split at hchars <;> split at hchars <;> first | omega | exact absurd hchars (by decide)
      omega

/-- The text behind the year is of one length. -/
theorem length_behind_year (t : Instant) :
    (field 2 t.date.month '-' (field 2 t.date.day 'T' (field 2 (t.minuteOfDay / 60) ':'
      (field 2 (t.minuteOfDay % 60) ':' (field 2 t.writtenSecond 'Z' []))))).length = 15 := by
  obtain ⟨hmonth, hday, hhour, hsecond⟩ := t.fields_fit
  have hminute : t.minuteOfDay % 60 < 60 := Nat.mod_lt _ (by decide)
  rw [length_field hmonth, length_field hday, length_field (Nat.lt_trans hhour (by decide)),
    length_field (Nat.lt_trans hminute (by decide)),
    length_field (Nat.lt_of_le_of_lt hsecond (by decide))]
  rfl

/-- Instants that are written alike show the same date and time. -/
theorem fields_eq_of_format_eq (h : t.format = t'.format) :
    t.date = t'.date ∧ t.minuteOfDay = t'.minuteOfDay ∧ t.writtenSecond = t'.writtenSecond := by
  obtain ⟨hmonth, hday, hhour, hsecond⟩ := t.fields_fit
  obtain ⟨hmonth', hday', hhour', hsecond'⟩ := t'.fields_fit
  have htwo {n : Nat} (hn : n < 100) : n < 10 ^ (1 + 1) := hn
  have hlists := congrArg String.toList h
  rw [toList_format_of_year, toList_format_of_year] at hlists
  obtain ⟨hyear, hrest⟩ := List.append_inj' hlists (by
    rw [List.length_cons, List.length_cons, length_behind_year, length_behind_year])
  obtain ⟨hmonths, hrest⟩ := field_inj hmonth hmonth' (List.cons.inj hrest).2
  obtain ⟨hdays, hrest⟩ := field_inj hday hday' hrest
  obtain ⟨hhours, hrest⟩ := field_inj (htwo (by omega)) (htwo (by omega)) hrest
  obtain ⟨hminutes, hrest⟩ := field_inj (htwo (by omega)) (htwo (by omega)) hrest
  obtain ⟨hseconds, -⟩ := field_inj (htwo (by omega)) (htwo (by omega)) hrest
  have hyears := formatYear_inj (String.toList_inj.1 hyear)
  have hdate : t.date = t'.date := by
    cases hd : t.date
    cases hd' : t'.date
    simp_all
  exact ⟨hdate, by omega, hseconds⟩

/-- What an instant is written as determines what is shown of it. -/
theorem shown_eq_of_format_eq (h : t.format = t'.format) : t.shown = t'.shown := by
  obtain ⟨hdate, hminute, hsecond⟩ := fields_eq_of_format_eq h
  rw [← t.instant_of_written, ← t'.instant_of_written, hdate, hminute, hsecond]

/-- Two instants lie in the same second if they have the same seconds and are both leap or not. -/
theorem truncate_eq_iff : t.truncate = t'.truncate ↔ t.secs = t'.secs ∧ t.isLeap = t'.isLeap := by
  constructor
  · intro h
    have hleap := congrArg isLeap h
    rw [isLeap_truncate, isLeap_truncate] at hleap
    have hsecs : t.truncate.secs = t'.truncate.secs := by rw [h]
    exact ⟨hsecs, hleap⟩
  · rintro ⟨hsecs, hleap⟩
    rw [truncate, truncate, hsecs, hleap]

/-- Instants with their leap seconds in place are written alike exactly if they are in the same
second. -/
theorem format_eq_format_iff (h : t.IsProper) (h' : t'.IsProper) :
    t.format = t'.format ↔ t.secs = t'.secs ∧ t.isLeap = t'.isLeap := by
  rw [← truncate_eq_iff]
  constructor
  · intro heq
    rw [← h.shown, ← h'.shown, shown_eq_of_format_eq heq]
  · intro heq
    rw [← format_truncate, heq, format_truncate]

/-! ### What is read -/

/-- An offset is a number of minutes. -/
theorem offsetFields_seconds {s : List Char} :
    ∀ read, offsetFields s = .ok read → read.1 % 60 = 0 := by
  unfold offsetFields
  split
  · refine of_bind_ok fun hours _ => ?_
    split
    · rintro _ ⟨⟩
    · refine of_bind_ok fun _ _ => ?_
      split
      · refine of_bind_ok fun minutes _ => ?_
        split
        · rintro _ ⟨⟩
        · rintro _ ⟨⟩
          exact Nat.mul_mod_left _ 60
      · split <;> rintro _ ⟨⟩
      · rintro _ ⟨⟩
  · split <;> rintro _ ⟨⟩
  · rintro _ ⟨⟩

/-- Clocks differ by whole minutes. -/
theorem offset_seconds {s : List Char} : ∀ read, offset s = .ok read → read.1 % 60 = 0 := by
  unfold offset
  split
  · rintro _ ⟨⟩
  · split
    · rintro _ ⟨⟩
      rfl
    · refine of_bind_ok fun _ _ => of_bind_ok fun fields hfields => ?_
      have hseconds := offsetFields_seconds fields hfields
      rintro _ ⟨⟩
      dsimp only
      split <;> omega

/-- A local time that is read lies within a second, and its offset is a number of minutes. -/
theorem parseLocal_fits {text : String} :
    ∀ r, parseLocal text = .ok r → r.nanos < nanosPerSecond ∧ r.offset % 60 = 0 := by
  unfold parseLocal
  split
  · rintro _ ⟨⟩
  · split
    · refine of_bind_ok fun century _ => of_bind_ok fun year _ => of_bind_ok fun _ _ =>
        of_bind_ok fun month _ => of_bind_ok fun _ _ => of_bind_ok fun day _ => ?_
      split
      · refine of_bind_ok fun _ _ => of_bind_ok fun hour _ => of_bind_ok fun _ _ =>
          of_bind_ok fun minute _ => of_bind_ok fun _ _ => of_bind_ok fun second _ =>
          of_bind_ok fun ⟨nanos, zone⟩ hnanos => ?_
        have hread : (fraction _).toOption = some (nanos, zone) := congrArg Except.toOption hnanos
        have hfraction : nanos < nanosPerSecond := nanos_lt_of_fraction hread
        dsimp only
        split
        · rintro _ ⟨⟩
        · refine of_bind_ok fun ⟨seconds, excess⟩ hseconds => ?_
          have hminutes : seconds % 60 = 0 := offset_seconds (seconds, excess) hseconds
          dsimp only
          split
          · rintro _ ⟨⟩
          · split
            · rintro _ ⟨⟩
            · rintro _ ⟨⟩
              exact ⟨hfraction, hminutes⟩
      · rintro _ ⟨⟩
    · rintro _ ⟨⟩

/-- A leap second that was read is at the end of a minute. -/
theorem isProper_of_parse {text : String} (h : parse text = .ok t) : t.IsProper := by
  unfold parse at h
  cases hread : parseLocal text with
  | error e =>
    rw [hread] at h
    cases h
  | ok r =>
    rw [hread] at h
    cases h
    obtain ⟨hnanos, hoffset⟩ := parseLocal_fits r hread
    exact LocalTime.isProper_instant hnanos hoffset

end Instant

/-! ### Timestamps -/

private theorem parse_of_parseTimestamp {text : String} {t : Instant}
    (h : parseTimestamp text = .ok t) : Instant.parse text = .ok t := by
  unfold parseTimestamp at h
  cases hread : Instant.parse text with
  | error e =>
    rw [hread] at h
    cases h
  | ok t' =>
    rw [hread] at h
    cases h
    rfl

/-- **Timestamps have one canonical form.** What is read of any spelling in the years 0 to 9999 and
written again is accepted, stands for the same second without its fraction, and is written as
itself. Two spellings have the same canonical form exactly if they stand for the same second of
Coordinated Universal Time, where a leap second is a second of its own. And the canonical forms of
those years are ordered as the instants are. -/
theorem timestamps_are_canonical :
    (∀ text t, parseTimestamp text = .ok t → t.HasPlainYear →
      parseTimestamp (formatTimestamp t) = .ok t.truncate ∧ t.truncate.isLeap = t.isLeap ∧
        formatTimestamp t.truncate = formatTimestamp t) ∧
    (∀ text text' t t', parseTimestamp text = .ok t → parseTimestamp text' = .ok t' →
      (formatTimestamp t = formatTimestamp t' ↔ t.secs = t'.secs ∧ t.isLeap = t'.isLeap)) ∧
    ∀ t t' : Instant, t.HasPlainYear → t'.HasPlainYear → t ≤ t' →
      formatTimestamp t ≤ formatTimestamp t' := by
  refine ⟨?_, ?_, ?_⟩
  · intro text t hread hyear
    have hproper := Instant.isProper_of_parse (parse_of_parseTimestamp hread)
    refine ⟨?_, t.isLeap_truncate, t.format_truncate⟩
    rw [Run.parseTimestamp_formatTimestamp hyear, hproper.shown]
  · intro text text' t t' hread hread'
    exact Instant.format_eq_format_iff (Instant.isProper_of_parse (parse_of_parseTimestamp hread))
      (Instant.isProper_of_parse (parse_of_parseTimestamp hread'))
  · intro t t' hyear hyear' hle
    exact Instant.format_le_format hyear hyear' hle

/-- A leap second in two time zones, with a fraction and without one, and the second after it. -/
theorem timestamps_are_canonical_of_leapSecond :
    parseTimestamp "2016-12-31T18:59:60.123456789123-05:00" = .ok ⟨1483228799, 1123456789⟩ ∧
      parseTimestamp "2017-01-01 05:29:60+05:30" = .ok ⟨1483228799, 1000000000⟩ ∧
      formatTimestamp ⟨1483228799, 1123456789⟩ = "2016-12-31T23:59:60Z" ∧
      parseTimestamp "2016-12-31T23:59:60Z" = .ok ⟨1483228799, 1000000000⟩ ∧
      formatTimestamp ⟨1483228799, 1123456789⟩ = formatTimestamp ⟨1483228799, 1000000000⟩ ∧
      formatTimestamp ⟨1483228799, 1123456789⟩ ≤ formatTimestamp ⟨1483228800, 0⟩ := by
  obtain ⟨hround, hsame, hmono⟩ := timestamps_are_canonical
  have hread : parseTimestamp "2016-12-31T18:59:60.123456789123-05:00" =
      .ok ⟨1483228799, 1123456789⟩ := by decide +kernel
  have hread' : parseTimestamp "2017-01-01 05:29:60+05:30" = .ok ⟨1483228799, 1000000000⟩ := by
    decide +kernel
  have hform : formatTimestamp ⟨1483228799, 1123456789⟩ = "2016-12-31T23:59:60Z" := by
    decide +kernel
  have hyear : Instant.HasPlainYear ⟨1483228799, 1123456789⟩ := by decide +kernel
  have hagain := (hround _ _ hread hyear).1
  rw [hform] at hagain
  exact ⟨hread, hread', hform, hagain, (hsame _ _ _ _ hread hread').2 ⟨rfl, rfl⟩,
    hmono _ _ hyear (by decide +kernel) (by decide)⟩

end RunOperator
