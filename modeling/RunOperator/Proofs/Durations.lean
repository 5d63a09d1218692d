import RunOperator.Proofs.MetadataTimes
import RunOperator.Proofs.StampedLives

/-!
# Durations between stamps

A stamp keeps the second of its instant and drops the part of the second, so that the start of a run
is moved back by less than a second, and its end by less than a second too. Outside leap seconds the
time between two instants is the difference of their distances to the beginning of 1970
(`Instant.since_eq_sub`), and dropping parts of seconds keeps the order of instants. A run that
carries stamps of its operator therefore has a duration, and this is not negative
(`Run.durations_of_own_stamps`).
-/

namespace RunOperator

namespace Instant

variable {t t' : Instant}

/-- The distance to the beginning of 1970, on a clock without leap seconds. -/
def sinceEpoch (t : Instant) : Int := t.secs * nanosPerSecond + t.nanos

/-- Outside leap seconds nothing is corrected. -/
theorem since_eq_sub (ht : t.isLeap = false) (ht' : t'.isLeap = false) :
    t.since t' = t.sinceEpoch - t'.sinceEpoch := by
  have hnone : leapCorrection t t' = 0 := by simp [leapCorrection, ht, ht']
  unfold since sinceEpoch
  rw [hnone, Int.add_zero, Int.sub_mul]
  omega

private theorem sinceEpoch_le_sinceEpoch (ht : t.isLeap = false) (hle : t ≤ t') :
    t.sinceEpoch ≤ t'.sinceEpoch := by
  have hnanos : t.nanos < nanosPerSecond := Nat.lt_of_not_le (of_decide_eq_false ht)
  unfold nanosPerSecond at hnanos
  unfold sinceEpoch nanosPerSecond
  rcases hle with hlt | ⟨heq, hle⟩ <;> omega

private theorem sinceEpoch_truncate (ht : t.isLeap = false) :
    t.truncate.sinceEpoch = t.secs * nanosPerSecond := by
  simp [sinceEpoch, truncate, ht]

private theorem truncate_le (ht : t.isLeap = false) : t.truncate ≤ t := by
  rw [truncate, ht]
  exact Or.inr ⟨rfl, Nat.zero_le _⟩

end Instant

namespace Run

variable {r going ended : Run} {t₀ t₁ : Instant}

/-! ### Reading stamps -/

/-- Outside leap seconds a stamp is read as its instant without the part of the second. -/
theorem parseTimestamp_formatTimestamp_truncate {t : Instant} (hyear : t.HasPlainYear)
    (hleap : t.isLeap = false) : parseTimestamp (formatTimestamp t) = .ok t.truncate := by
  have hproper : t.IsProper := fun h => absurd (hleap.symm.trans h) Bool.false_ne_true
  rw [parseTimestamp_formatTimestamp hyear, hproper.shown]

/-- A run that has started and not ended lasts until now. -/
theorem duration_of_started (hstamps : r.stamps = ⟨some (formatTimestamp t₀), none⟩)
    (hyear : t₀.HasPlainYear) (hleap : t₀.isLeap = false) (now : Instant) :
    r.duration now = some (now.since t₀.truncate) := by
  obtain ⟨hstart, hend⟩ := Stamps.mk.inj hstamps
  simp only [duration, hstart, hend, Option.bind_eq_bind, Option.bind_some,
    parseTimestamp_formatTimestamp_truncate hyear hleap, Except.toOption]
  rfl

/-- A run that has ended has lasted from its first stamp to its second. -/
theorem duration_of_ended
    (hstamps : r.stamps = ⟨some (formatTimestamp t₀), some (formatTimestamp t₁)⟩)
    (hyear₀ : t₀.HasPlainYear) (hyear₁ : t₁.HasPlainYear) (hleap₀ : t₀.isLeap = false)
    (hleap₁ : t₁.isLeap = false) (now : Instant) :
    r.duration now = some (t₁.truncate.since t₀.truncate) := by
  obtain ⟨hstart, hend⟩ := Stamps.mk.inj hstamps
  simp only [duration, hstart, hend, Option.bind_eq_bind, Option.bind_some,
    parseTimestamp_formatTimestamp_truncate hyear₀ hleap₀,
    parseTimestamp_formatTimestamp_truncate hyear₁ hleap₁, Except.toOption]
  rfl

/-! ### Writing stamps -/

/-- A transition takes the run `r` out of the queue at `t₀`, and not into a final state. Nothing but
the stamps of the result matters, so that anything else of it may have been edited. -/
def Starts (r : Run) (t₀ : Instant) (going : Run) : Prop :=
  ∃ s, s ≠ .queued ∧ s.isFinal = false ∧ going.stamps = (r.transition .queued s t₀).stamps

/-- Transitions take the run `r` out of the queue at `t₀` and into a final state at `t₁`. -/
inductive Ends (r : Run) (t₀ t₁ : Instant) (ended : Run) : Prop
  | inOneStep (s : RunState) (heq : t₀ = t₁) (hfinal : s.isFinal = true)
      (hstamps : ended.stamps = (r.transition .queued s t₀).stamps)
  | inTwoSteps (going : Run) (source s : RunState) (hstarts : r.Starts t₀ going)
      (hlive : source.isFinal = false) (hfinal : s.isFinal = true)
      (hstamps : ended.stamps = (going.transition source s t₁).stamps)

/-- A run that starts from no stamps has the first one. -/
theorem Starts.stamps (h : r.Starts t₀ going) (hnone : r.stamps = .none) :
    going.stamps = ⟨some (formatTimestamp t₀), none⟩ := by
  obtain ⟨s, hleft, hlive, hstamps⟩ := h
  rw [hstamps, stamps_of_transition, hnone]
  cases s <;> first | rfl | exact absurd rfl hleft | cases hlive

/-- A run that ends has both stamps. -/
theorem Ends.stamps (h : r.Ends t₀ t₁ ended) (hnone : r.stamps = .none) :
    ended.stamps = ⟨some (formatTimestamp t₀), some (formatTimestamp t₁)⟩ := by
  cases h with
  | inOneStep s heq hfinal hstamps =>
    subst heq
    rw [hstamps, stamps_of_transition, hnone]
    cases s <;> first | rfl | cases hfinal
  | inTwoSteps going source s hstarts hlive hfinal hstamps =>
    have hne : source ≠ s := by
      rintro rfl
      exact absurd (hlive.symm.trans hfinal) Bool.false_ne_true
    rw [hstamps, stamps_of_transition, hstarts.stamps hnone]
    simp [Stamps.afterTransition, Stamps.needsStart, Stamps.needsEnd, hne, hlive, hfinal]

/-- **Durations between stamps of the operator are there and are not negative.** A run without
stamps is taken out of the queue at one instant and into a final state at the same instant or at a
later one, in one step or in two. While it goes on, its duration is the time from its start without
the part of the second until now, which is not negative from the start on. Once it has ended, its
duration is a whole number of seconds, the time between its start and its end without the parts of
their seconds, whatever the time is. -/
theorem durations_of_own_stamps (r : Run) (hnone : r.stamps = .none) (t₀ t₁ : Instant)
    (hle : t₀ ≤ t₁) (hyear₀ : t₀.HasPlainYear) (hyear₁ : t₁.HasPlainYear)
    (hleap₀ : t₀.isLeap = false) (hleap₁ : t₁.isLeap = false) :
    (∀ going, r.Starts t₀ going → ∀ now : Instant, now.isLeap = false →
      going.duration now = some (now.sinceEpoch - t₀.truncate.sinceEpoch) ∧
        (t₀ ≤ now → 0 ≤ now.sinceEpoch - t₀.truncate.sinceEpoch)) ∧
    ∀ ended, r.Ends t₀ t₁ ended →
      (∀ now, ended.duration now = some (t₁.truncate.sinceEpoch - t₀.truncate.sinceEpoch)) ∧
        ∃ seconds : Nat,
          t₁.truncate.sinceEpoch - t₀.truncate.sinceEpoch = seconds * Instant.nanosPerSecond := by
  have hcut₀ : t₀.truncate.isLeap = false := t₀.isLeap_truncate.trans hleap₀
  have hcut₁ : t₁.truncate.isLeap = false := t₁.isLeap_truncate.trans hleap₁
  refine ⟨fun going hgoing now hnow => ⟨?_, fun hlater => ?_⟩,
    fun ended hended => ⟨fun now => ?_, ?_⟩⟩
  · rw [duration_of_started (hgoing.stamps hnone) hyear₀ hleap₀, Instant.since_eq_sub hnow hcut₀]
  · have hpast := Instant.le_trans (Instant.truncate_le hleap₀) hlater
    exact Int.sub_nonneg_of_le (Instant.sinceEpoch_le_sinceEpoch hcut₀ hpast)
  · rw [duration_of_ended (hended.stamps hnone) hyear₀ hyear₁ hleap₀ hleap₁,
      Instant.since_eq_sub hcut₁ hcut₀]
  · have hsecs : t₀.secs ≤ t₁.secs := by
      rcases hle with hlt | ⟨heq, -⟩
      · exact Int.le_of_lt hlt
      · exact Int.le_of_eq heq
    refine ⟨(t₁.secs - t₀.secs).toNat, ?_⟩
    rw [Instant.sinceEpoch_truncate hleap₀, Instant.sinceEpoch_truncate hleap₁, ← Int.sub_mul,
      Int.toNat_of_nonneg (Int.sub_nonneg_of_le hsecs)]

/-- A run that starts a nanosecond before 1970 and ends a nanosecond after its beginning has lasted
for a second. -/
theorem durations_of_own_stamps_around_epoch :
    (Run.named "ns" "a" RunSpec.empty).stamps = .none ∧
    (⟨-1, 999999999⟩ : Instant) ≤ ⟨0, 1⟩ ∧
    (⟨-1, 999999999⟩ : Instant).HasPlainYear ∧ (⟨0, 1⟩ : Instant).HasPlainYear ∧
    (⟨-1, 999999999⟩ : Instant).isLeap = false ∧ (⟨0, 1⟩ : Instant).isLeap = false ∧
    ∃ going ended, (Run.named "ns" "a" RunSpec.empty).Starts ⟨-1, 999999999⟩ going ∧
      (Run.named "ns" "a" RunSpec.empty).Ends ⟨-1, 999999999⟩ ⟨0, 1⟩ ended ∧
      going.duration ⟨0, 0⟩ = some 1000000000 ∧
      ∀ now, ended.duration now = some 1000000000 := by
  have hle : (⟨-1, 999999999⟩ : Instant) ≤ ⟨0, 1⟩ := by decide
  have hyear₀ : (⟨-1, 999999999⟩ : Instant).HasPlainYear := by decide +kernel
  have hyear₁ : (⟨0, 1⟩ : Instant).HasPlainYear := by decide +kernel
  obtain ⟨hgoing, hended⟩ := durations_of_own_stamps (.named "ns" "a" .empty) rfl
    ⟨-1, 999999999⟩ ⟨0, 1⟩ hle hyear₀ hyear₁ rfl rfl
  have hstarts : (Run.named "ns" "a" RunSpec.empty).Starts ⟨-1, 999999999⟩
      ((Run.named "ns" "a" RunSpec.empty).transition .queued .running ⟨-1, 999999999⟩) :=
    ⟨.running, by decide, rfl, rfl⟩
  have hends : (Run.named "ns" "a" RunSpec.empty).Ends ⟨-1, 999999999⟩ ⟨0, 1⟩
      (((Run.named "ns" "a" RunSpec.empty).transition .queued .running
        ⟨-1, 999999999⟩).transition .running .complete ⟨0, 1⟩) :=
    .inTwoSteps _ .running .complete hstarts rfl rfl rfl
  exact ⟨rfl, hle, hyear₀, hyear₁, rfl, rfl, _, _, hstarts, hends,
    (hgoing _ hstarts ⟨0, 0⟩ rfl).1, (hended _ hends).1⟩

end Run

end RunOperator
