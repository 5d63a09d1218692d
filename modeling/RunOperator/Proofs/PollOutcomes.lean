import RunOperator.Proofs.ActionEffects

/-!
# How polls end

A poll lasts from the step with which its monitor wakes to the one after which the monitor sleeps
again or has ended. `Monitor.outcome?` tells how the poll ends with the next step, if it ends with
it, and `World.outcomes` lists how the polls of a monitor have ended in the course of a history.
What an action makes of a monitor can then be said without regard to the phases of a poll
(`exists_course_act`).
-/

namespace RunOperator

/-- How a poll ends with what it does after an answer, if it does not go on. -/
def PollStep.result? {α : Type} : PollStep α → Option PollResult
  | .next _ => none
  | .finish result => some result

namespace Monitor

/-- The monitor is in the middle of a poll. -/
def isPolling (m : Monitor) : Bool := m.phase.call?.isSome

/-- How the poll of a monitor ends with the answer that it waits for, if it ends with it. -/
def verdict? (wall : Instant) (m : Monitor) (s : Store) : Option PollResult :=
  match m.phase with
  | .reading c => (Poll.afterRead (answerOf c s (s.get m.lease.key)).1).result?
  | .listing c r current =>
    (Poll.afterList r current wall (answerOf c s (.ok (s.podsOf m.lease.key), s)).1).result?
  | .writing c r target => some (Poll.afterWrite target (answerOf c s (s.replace r)).1)
  | .sleeping _ | .ended _ => none

/-- How the poll of a monitor ends with the next step, if it ends with it. -/
def outcome? (wall : Instant) (now : Nat) (cancelled : Bool) (m : Monitor) (s : Store) :
    Option PollResult :=
  match m.phase.call? with
  | none => none
  | some c =>
    if cancelled then some (.error .cancelled)
    else if c.due ≤ now then m.verdict? wall s
    else none

variable {settings : Settings} {wall : Instant} {now due : Nat} {cancelled : Bool} {m m' : Monitor}
  {s s' : Store} {result : PollResult} {c : Call}

/-- A cancelled monitor ends with its next move. -/
theorem step?_of_cancelled (hdue : m.phase.due? = some due) :
    m.step? settings wall now true s = some (m.exitWith .cancelled, s) := by
  rw [step?, hdue]
  rfl

private theorem step?_of_due (hdue : m.phase.due? = some due) :
    m.step? settings wall now false s =
      if due ≤ now then some (m.act settings wall now s) else none := by
  rw [step?, hdue]
  rfl

private theorem due?_of_call? (hcall : m.phase.call? = some c) : m.phase.due? = some c.due := by
  cases hphase : m.phase <;> simp only [hphase, Phase.call?, reduceCtorEq, Option.some.injEq] at hcall
  all_goals
    rw [hcall]
    rfl

/-- Between its polls a monitor has none to end. -/
theorem outcome?_eq_none_of_not_polling (h : m.isPolling = false) :
    m.outcome? wall now cancelled s = none := by
  rw [isPolling, Option.isSome_eq_false_iff, Option.isNone_iff_eq_none] at h
  rw [outcome?, h]

private theorem proceed_of_result? {α : Type} {phase : α → Phase} {step : PollStep α}
    (h : step.result? = some result) :
    m.proceed settings now phase step = m.afterPoll settings now result := by
  cases step with
  | next a => cases h
  | finish r =>
    cases h
    rfl

private theorem exists_proceed_of_no_result {α : Type} {phase : α → Phase} {step : PollStep α}
    (h : step.result? = none) :
    ∃ a, m.proceed settings now phase step = { m with phase := phase a } := by
  cases step with
  | next a => exact ⟨a, rfl⟩
  | finish r => cases h

/-- An answer with which the poll ends takes the monitor to where the outcome of the poll leads. -/
theorem act_of_verdict? (h : m.verdict? wall s = some result) :
    (m.act settings wall now s).1 = m.afterPoll settings now result := by
  unfold verdict? at h
  unfold act
  cases hphase : m.phase with
  | sleeping wake | ended e => simp [hphase] at h
  | reading c | listing c r current =>
    simp only [hphase] at h
    exact proceed_of_result? h
  | writing c r target =>
    simp only [hphase, Option.some.injEq] at h
    exact congrArg (m.afterPoll settings now) h

/-- An answer with which the poll does not end takes the monitor to the next call of the poll. -/
theorem act_of_no_verdict (hpolling : m.isPolling = true) (h : m.verdict? wall s = none) :
    ∃ phase : Phase, (m.act settings wall now s).1 = { m with phase } ∧ phase.call?.isSome := by
  unfold verdict? at h
  unfold act
  cases hphase : m.phase with
  | sleeping wake | ended e => simp [isPolling, hphase, Phase.call?] at hpolling
  | reading c | listing c r current =>
    simp only [hphase] at h
    obtain ⟨a, ha⟩ := exists_proceed_of_no_result h
    exact ⟨_, ha, rfl⟩
  | writing c r target => simp [hphase] at h

/-- When a poll can end, the next step of its monitor ends it. -/
theorem exists_step_of_outcome? (h : m.outcome? wall now cancelled s = some result) :
    ∃ s', m.step? settings wall now cancelled s = some (m.afterPoll settings now result, s') := by
  unfold outcome? at h
  split at h
  · cases h
  · next c hcall =>
    have hdue := due?_of_call? hcall
    cases cancelled with
    | true =>
      cases h
      exact ⟨s, step?_of_cancelled hdue⟩
    | false =>
      simp only [Bool.false_eq_true, if_false] at h
      split at h
      · next hnow =>
        refine ⟨(m.act settings wall now s).2, ?_⟩
        rw [step?_of_due hdue, if_pos hnow, ← act_of_verdict? h]
      · cases h

/-- A step that ends no poll begins one, goes on with one, or stops a sleeping monitor that was
cancelled. -/
theorem step_of_no_outcome (hnone : m.outcome? wall now cancelled s = none)
    (hstep : m.step? settings wall now cancelled s = some (m', s')) :
    cancelled = true ∧ m' = m.exitWith .cancelled ∨
      m'.isPolling = true ∧ m'.failures = m.failures ∧ m'.lease = m.lease := by
  cases hpolling : m.phase.call? with
  | none =>
    cases hphase : m.phase with
    | sleeping wake =>
      have hdue : m.phase.due? = some wake := by rw [hphase]; rfl
      cases cancelled with
      | true =>
        rw [step?_of_cancelled hdue] at hstep
        cases hstep
        exact Or.inl ⟨rfl, rfl⟩
      | false =>
        rw [step?_of_due hdue] at hstep
        split at hstep
        · simp only [act, hphase, Option.some.injEq, Prod.mk.injEq] at hstep
          rw [← hstep.1]
          exact Or.inr ⟨rfl, rfl, rfl⟩
        · cases hstep
    | ended e => simp [step?, hphase, Phase.due?] at hstep
    | _ => simp [hphase, Phase.call?] at hpolling
  | some c =>
    have hdue := due?_of_call? hpolling
    rw [outcome?, hpolling] at hnone
    cases cancelled with
    | true => cases hnone
    | false =>
      simp only [Bool.false_eq_true, if_false] at hnone
      rw [step?_of_due hdue] at hstep
      split at hstep
      · next hnow =>
        rw [if_pos hnow] at hnone
        have hpoll : m.isPolling = true := by
          rw [isPolling, hpolling]
          rfl
        obtain ⟨phase, hact, hphase⟩ : ∃ phase : Phase,
            (m.act settings wall now s).1 = { m with phase } ∧ phase.call?.isSome :=
          act_of_no_verdict hpoll hnone
        rw [Option.some.inj hstep] at hact
        dsimp only at hact
        rw [hact]
        exact Or.inr ⟨hphase, rfl, rfl⟩
      · cases hstep

/-- A monitor in the middle of a poll has not ended. -/
theorem isOver_of_isPolling (h : m.isPolling = true) : m.isOver = false := by
  cases hphase : m.phase with
  | ended e => simp [isPolling, hphase, Phase.call?] at h
  | _ => simp [isOver, exit?, hphase]

/-- After a poll a monitor is in none. -/
@[simp] theorem isPolling_afterPoll : (m.afterPoll settings now result).isPolling = false := by
  have hphase : (∃ wake, (m.afterPoll settings now result).phase = .sleeping wake) ∨
      ∃ e, (m.afterPoll settings now result).phase = .ended e := phase_afterPoll m result
  rcases hphase with ⟨wake, h⟩ | ⟨e, h⟩ <;> rw [isPolling, h] <;> rfl

private theorem isPolling_of_outcome? (h : m.outcome? wall now cancelled s = some result) :
    m.isPolling = true := by
  cases hpolling : m.isPolling with
  | true => rfl
  | false =>
    rw [outcome?_eq_none_of_not_polling hpolling] at h
    cases h

end Monitor

/-- The action is a move of the monitor or ends it. -/
def Action.IsOf (number : Nat) (a : Action) : Prop := a = .monitor number ∨ a = .abort number

namespace World

variable {w : World} {a : Action} {number : Nat} {m : Monitor} {result : PollResult}

/-- How the poll of a monitor ends with its next move, if it ends with it. -/
def outcome? (w : World) (number : Nat) : Option PollResult :=
  (w.monitors[number]?).bind fun m =>
    m.outcome? w.wall w.clock (w.registry.isCancelled m.lease.id) w.store

/-- The outcome of a monitor's move is that of the monitor. -/
theorem outcome?_of_monitor (hm : w.monitors[number]? = some m) :
    w.outcome? number =
      m.outcome? w.wall w.clock (w.registry.isCancelled m.lease.id) w.store := by
  rw [outcome?, hm, Option.bind_some]

/-- How the poll of a monitor ends with an action, if it ends with it. -/
def ends (w : World) (number : Nat) : Action → Option PollResult
  | .monitor n => if n = number then w.outcome? number else none
  | _ => none

/-- The move of a monitor ends its poll with the outcome of the move. -/
theorem ends_monitor (w : World) (number : Nat) :
    w.ends number (.monitor number) = w.outcome? number := if_pos rfl

/-- A poll is ended by the move of its monitor only. -/
theorem eq_monitor_of_ends (h : w.ends number a = some result) : a = .monitor number := by
  unfold ends at h
  split at h
  · split at h
    · next heq => rw [heq]
    · cases h
  · cases h

/-- No poll ends of a monitor that was not started. -/
theorem ends_of_no_monitor (hm : w.monitors[number]? = none) : w.ends number a = none := by
  cases hends : w.ends number a with
  | none => rfl
  | some result =>
    obtain rfl := eq_monitor_of_ends hends
    rw [ends_monitor, outcome?, hm] at hends
    cases hends

/-- How the polls of a monitor end in the course of a history. -/
def outcomes (number : Nat) : World → List Action → List PollResult
  | _, [] => []
  | w, a :: h => (w.ends number a).toList ++ outcomes number (w.act a) h

/-- The outcomes of a history are those of its first part and that of its last action. -/
theorem outcomes_concat (number : Nat) (w : World) (h : List Action) (a : Action) :
    outcomes number w (h ++ [a]) =
      outcomes number w h ++ ((w.after h).ends number a).toList := by
  induction h generalizing w with
  | nil => simp [outcomes]
  | cons b h ih => rw [List.cons_append, outcomes, ih, outcomes, List.append_assoc, after_cons]

/-- What an action makes of a monitor, and how a poll of the monitor ends with it. -/
inductive Course (w : World) (a : Action) (number : Nat) (m : Monitor) :
    Monitor → Option PollResult → Prop where
  | stays : Course w a number m m none
  /-- It begins a poll or goes on with one. -/
  | polls {m' : Monitor} : m.isOver = false → m'.isPolling = true → m'.failures = m.failures →
      Course w a number m m' none
  /-- Its poll ends. -/
  | completes {result : PollResult} : m.isPolling = true →
      Course w a number m (m.afterPoll w.settings w.clock result) (some result)
  /-- It stops because it was cancelled, and no poll ends with that. -/
  | stops : w.registry.isCancelled m.lease.id = true →
      Course w a number m (m.exitWith .cancelled) none
  | aborted : Course w a number m (m.exitWith .aborted) none

/-- Every monitor takes one of these courses with every action. -/
theorem exists_course_act (hm : w.monitors[number]? = some m) (a : Action) :
    ∃ m', (w.act a).monitors[number]? = some m' ∧ Course w a number m m' (w.ends number a) := by
  obtain ⟨m', hm', -, -⟩ := exists_monitor_act hm a
  refine ⟨m', hm', ?_⟩
  cases hends : w.ends number a with
  | some result =>
    obtain rfl := eq_monitor_of_ends hends
    rw [ends_monitor, outcome?_of_monitor hm] at hends
    obtain ⟨s', hstep⟩ : ∃ s', m.step? w.settings w.wall w.clock
        (w.registry.isCancelled m.lease.id) w.store =
          some (m.afterPoll w.settings w.clock result, s') :=
      Monitor.exists_step_of_outcome? hends
    have hmove := moveMonitor?_of_step? hm hstep
    have hlt := (List.getElem?_eq_some_iff.1 hm).1
    simp only [act, nudgeMonitor, hmove, Option.getD_some, putMonitor,
      List.getElem?_set_self hlt, Option.some.injEq] at hm'
    rw [← hm']
    exact .completes (Monitor.isPolling_of_outcome? hends)
  | none =>
    cases fate_of_act hm' with
    | kept hkept =>
      obtain rfl := Option.some.inj (hm.symm.trans hkept)
      exact .stays
    | moved m₀ ha hm₀ hstep =>
      subst ha
      obtain rfl := Option.some.inj (hm.symm.trans hm₀)
      rw [ends_monitor, outcome?_of_monitor hm] at hends
      rcases Monitor.step_of_no_outcome hends hstep with ⟨hcancelled, rfl⟩ | ⟨hpolling, hsame, -⟩
      · exact .stops hcancelled
      · exact .polls (Monitor.isOver_of_step? hstep) hpolling hsame
    | aborted m₀ _ hm₀ heq =>
      obtain rfl := Option.some.inj (hm.symm.trans hm₀)
      rw [heq]
      exact .aborted
    | started lease hle _ =>
      have hlt := (List.getElem?_eq_some_iff.1 hm).1
      omega

/-- A monitor that was not started yet has made no polls. -/
theorem outcomes_eq_nil_of_length_le (h : List Action)
    (hlength : (w.after h).monitors.length ≤ number) : outcomes number w h = [] := by
  induction h generalizing w with
  | nil => rfl
  | cons a h ih =>
    have hafter : (w.act a).monitors.length ≤ ((w.act a).after h).monitors.length :=
      after_invariant (fun w' => (w.act a).monitors.length ≤ w'.monitors.length)
        (fun w' b hle => Nat.le_trans hle (length_monitors_act w' b)) h (Nat.le_refl _)
    rw [after_cons] at hlength
    have hnow : w.monitors.length ≤ number :=
      Nat.le_trans (length_monitors_act w a) (Nat.le_trans hafter hlength)
    rw [outcomes, ends_of_no_monitor (List.getElem?_eq_none hnow), ih hlength]
    rfl

end World

end RunOperator
