import RunOperator.Proofs.Cancellation
import RunOperator.Proofs.InjectedFailures

/-!
# A monitor whose reads fail

A monitor that cannot read its run does the same thing again and again: it sleeps, begins a read,
and loses it to an error or to the time limit. Where it stands is given by the number of polls that
have failed (`World.Trying`): they fix the instant to which it waits, the number of its reads that
were counted, and how far it is from giving up. `Trying.ownMove` says what a move of the monitor
makes of this and `Trying.act_other` that nothing else disturbs it. Time has to stop for the monitor
where it has a move to make, which is all that is asked of the clock.
-/

namespace RunOperator

/-- A call is due after the latency, or when its time is over. -/
theorem Call.due_begin (settings : Settings) (now latency : Nat) :
    (Call.begin settings now latency).due = now + min latency settings.requestTimeout := by
  simp only [Call.due, Call.begin]
  omega

/-- A call times out if it takes longer than a request may. -/
theorem Call.timesOut_begin_iff {settings : Settings} {now latency : Nat} :
    (Call.begin settings now latency).timesOut = true ↔ settings.requestTimeout < latency := by
  rw [Call.timesOut, decide_eq_true_eq]
  exact Nat.add_lt_add_iff_left

/-- A call that is answered takes no longer than the request timeout. -/
theorem Call.latency_le_of_takesEffect {settings : Settings} {began now latency : Nat}
    (h : (Call.begin settings began latency).takesEffect now = true) :
    latency ≤ settings.requestTimeout := by
  have hlate : (Call.begin settings began latency).timesOut = true ↔
      settings.requestTimeout < latency := Call.timesOut_begin_iff
  rw [← Nat.not_lt, ← hlate, (Call.takesEffect_iff.1 h).2]
  decide

/-! ### Errors in the way of reads -/

/-- So many errors are in the way of the next reads of a run, and none of them says that the run
does not exist. -/
def Store.ErrorsAhead (s : Store) (k : RunKey) (left : Nat) : Prop :=
  ∀ i < left, ∃ e, (s.queue (.reads k))[i]? = some e ∧ e.isNotFound = false

namespace Store

variable {s : Store} {k : RunKey} {left fewer : Nat}

/-- If many reads fail, fewer do. -/
theorem ErrorsAhead.mono (h : s.ErrorsAhead k left) (hle : fewer ≤ left) :
    s.ErrorsAhead k fewer := fun i hi => h i (Nat.lt_of_lt_of_le hi hle)

/-- The next read is answered with the first error. -/
theorem ErrorsAhead.get_eq (h : s.ErrorsAhead k left) (hleft : 0 < left) :
    ∃ e, (s.get k).1 = .error e ∧ e.isNotFound = false := by
  obtain ⟨e, hfirst, he⟩ := h 0 hleft
  have hanswer : failureOf (s.get k).1 = some e := by
    have herror : (ClientCall.get k).error? s =
        (s.queue (.reads k)).head?.or ((ClientCall.get k).refusal? s) := ClientCall.error?_eq rfl
    rwa [List.head?_eq_getElem?, hfirst] at herror
  refine ⟨e, ?_, he⟩
  cases hget : (s.get k).1 with
  | ok r =>
    rw [hget] at hanswer
    cases hanswer
  | error e' =>
    rw [hget] at hanswer
    rw [Option.some.inj hanswer]

end Store

namespace World

variable {w₀ w : World} {number failures : Nat} {lease : Lease} {others : Lane → Nat} {a : Action}
  {k : RunKey}

/-! ### The timetable -/

/-- How long a read takes that fails: it is answered after the latency or given up at the limit. -/
def readTime (w : World) : Nat := min w.store.latency w.settings.requestTimeout

/-- How long a poll takes whose read fails, with the sleep before it. -/
def failedPollTime (w : World) : Nat := w.settings.pollInterval + w.readTime

/-- The number of failed polls in a row with which a monitor gives up. -/
def patience (w : World) : Nat := max 1 w.settings.retryLimit

/-- When a monitor that starts now wakes for the poll that comes after some failed ones. -/
def wakeTime (w : World) (failures : Nat) : Nat :=
  w.clock + failures * w.failedPollTime + w.settings.pollInterval

/-- When a monitor that starts now gives up. -/
def giveUpTime (w : World) : Nat := w.clock + w.patience * w.failedPollTime

private theorem wakeTime_add_readTime (w : World) (failures : Nat) :
    w.wakeTime failures + w.readTime = w.clock + (failures + 1) * w.failedPollTime := by
  have hsum : w.failedPollTime = w.settings.pollInterval + w.readTime := rfl
  rw [wakeTime, Nat.succ_mul]
  omega

private theorem wakeTime_succ (w : World) (failures : Nat) :
    w.wakeTime (failures + 1) =
      w.wakeTime failures + w.readTime + w.settings.pollInterval := by
  rw [wakeTime_add_readTime]
  rfl

/-- The last read that fails is over when the monitor gives up, and the others are before. -/
theorem wakeTime_add_readTime_le (h : failures < w.patience) :
    w.wakeTime failures + w.readTime ≤ w.giveUpTime := by
  rw [wakeTime_add_readTime, giveUpTime]
  exact Nat.add_le_add_left (Nat.mul_le_mul_right _ h) _

/-! ### What is asked of others -/

/-- The action does not disturb a monitor. -/
structure LeavesAlone (number : Nat) (lease : Lease) (w : World) (a : Action) : Prop where
  /-- Time does not pass an instant at which the monitor has a move to make. -/
  prompt : ∀ time m due, a = .pass time → w.monitors[number]? = some m →
    m.phase.due? = some due → w.clock + time ≤ due
  /-- Leases are not copied. -/
  handsOn : w.HandsOn a
  /-- The settings and the latency stay. -/
  settings : (w.act a).settings = w.settings
  latency : (w.act a).store.latency = w.store.latency
  /-- The monitor is not cancelled and not aborted. -/
  uncancelled : (w.act a).registry.isCancelled lease.id = false
  unaborted : a ≠ .abort number
  /-- Nobody else writes the run. -/
  unwritten : a ≠ .monitor number →
    (w.act a).store.runs.get? lease.key = w.store.runs.get? lease.key

/-- Time that passes leaves a monitor alone if it does not skip its next move. -/
theorem LeavesAlone.pass {time : Nat} (hlive : w.registry.isCancelled lease.id = false)
    (hprompt : ∀ m due, w.monitors[number]? = some m → m.phase.due? = some due →
      w.clock + time ≤ due) : w.LeavesAlone number lease (.pass time) := by
  refine ⟨?_, trivial, rfl, rfl, hlive, nofun, fun _ => rfl⟩
  rintro _ m due ⟨⟩ hm hdue
  exact hprompt m due hm hdue

/-- A monitor that was not cancelled leaves itself alone. -/
theorem LeavesAlone.own (hlive : w.registry.isCancelled lease.id = false) :
    w.LeavesAlone number lease (.monitor number) := by
  refine ⟨?_, trivial, (w.surroundings_act _).1, ?_, ?_, nofun, fun hne => absurd rfl hne⟩
  · rintro time m due ⟨⟩
  · rw [store_act_monitor]
    cases w.call? number with
    | none => rfl
    | some call =>
      cases call with
      | get k => exact w.store.latency_get k
      | pods k => rfl
      | replace r => exact w.store.latency_replace r
  · rcases act_monitor_cases w number with hact | ⟨m, m', s', -, -, hact⟩
    · rwa [hact]
    · rw [hact, isCancelled_putMonitor]
      exact hlive

/-- If the action completes a read of the run by the monitor, the read fails, and not because the
run does not exist. -/
def ReadFails (number : Nat) (k : RunKey) (w : World) (a : Action) : Prop :=
  a = .monitor number → w.call? number = some (.get k) →
    ∃ e, (w.store.get k).1 = .error e ∧ e.isNotFound = false

/-- So many reads of a run are bound to fail: reads take too long, or errors are in their way. -/
def FailsAhead (w₀ : World) (k : RunKey) (left : Nat) (s : Store) : Prop :=
  w₀.settings.requestTimeout < w₀.store.latency ∨ s.ErrorsAhead k left

/-! ### The invariant -/

/-- After some failed polls the monitor sleeps before the next one, or waits for its read. -/
inductive AwaitsPoll (w₀ : World) (number : Nat) (lease : Lease) (failures : Nat) (w : World) :
    Prop where
  | sleeping : w.monitors[number]? = some ⟨lease, failures, .sleeping (w₀.wakeTime failures)⟩ →
      w.clock ≤ w₀.wakeTime failures → AwaitsPoll w₀ number lease failures w
  | reading : w.monitors[number]? = some ⟨lease, failures,
        .reading (.begin w₀.settings (w₀.wakeTime failures) w₀.store.latency)⟩ →
      w.clock ≤ w₀.wakeTime failures + w₀.readTime → AwaitsPoll w₀ number lease failures w

/-- The calls that were counted since the monitor started: those of others, and a read for each
failed poll, unless reads are given up. -/
def Counts (w₀ : World) (k : RunKey) (others : Lane → Nat) (failures : Nat) (s : Store) : Prop :=
  ∀ lane, s.count lane = w₀.store.count lane + others lane +
    if lane = .reads k ∧ w₀.store.latency ≤ w₀.settings.requestTimeout then failures else 0

/-- A monitor that started in the world `w₀` goes on after some failed polls. -/
structure Trying (w₀ : World) (number : Nat) (lease : Lease) (others : Lane → Nat)
    (failures : Nat) (w : World) : Prop where
  early : failures < w₀.patience
  awaits : AwaitsPoll w₀ number lease failures w
  settings : w.settings = w₀.settings
  latency : w.store.latency = w₀.store.latency
  backed : w.Backed
  live : w.registry.isCancelled lease.id = false
  run : w.store.runs.get? lease.key = w₀.store.runs.get? lease.key
  counts : w₀.Counts lease.key others failures w.store

/-- A monitor that started in the world `w₀` has given up: its entry is gone, and its run is as it
was. -/
structure GaveUp (w₀ : World) (number : Nat) (lease : Lease) (others : Lane → Nat) (w : World) :
    Prop where
  exits : ∃ m, w.monitors[number]? = some m ∧ m.exit? = some .retriesExhausted
  released : w.registry.entries.get? lease.key = none
  run : w.store.runs.get? lease.key = w₀.store.runs.get? lease.key
  counts : w₀.Counts lease.key others w₀.patience w.store

/-- A monitor that has just started has failed no poll. -/
theorem trying_start (hm : w₀.monitors[number]? = some (.start w₀.settings w₀.clock lease))
    (hbacked : w₀.Backed) (hlive : w₀.registry.isCancelled lease.id = false) :
    w₀.Trying number lease (fun _ => 0) 0 w₀ where
  early := Nat.lt_of_lt_of_le Nat.one_pos (Nat.le_max_left 1 _)
  awaits := by
    have hwake : w₀.wakeTime 0 = w₀.clock + w₀.settings.pollInterval := by
      rw [wakeTime, Nat.zero_mul, Nat.add_zero]
    refine .sleeping ?_ ?_
    · rw [hwake]
      exact hm
    · omega
  settings := rfl
  latency := rfl
  backed := hbacked
  live := hlive
  run := rfl
  counts := by
    intro lane
    simp

/-- A monitor that waits for a poll has a move that is due in time. -/
theorem AwaitsPoll.monitor (h : AwaitsPoll w₀ number lease failures w) :
    ∃ m due, w.monitors[number]? = some m ∧ m.lease = lease ∧ m.isOver = false ∧
      m.phase.due? = some due ∧ w.clock ≤ due ∧ due ≤ w₀.wakeTime failures + w₀.readTime := by
  cases h with
  | sleeping hm hclock => exact ⟨_, _, hm, rfl, rfl, rfl, hclock, Nat.le_add_right _ _⟩
  | reading hm hclock =>
    have hdue : (Call.begin w₀.settings (w₀.wakeTime failures) w₀.store.latency).due =
        w₀.wakeTime failures + w₀.readTime := Call.due_begin _ _ _
    exact ⟨_, _, hm, rfl, rfl, congrArg some hdue, hclock, Nat.le_refl _⟩

/-- As long as it goes on the monitor is registered. -/
theorem Trying.registered (h : w₀.Trying number lease others failures w) :
    w.registry.entries.get? lease.key = some lease.id := by
  obtain ⟨m, -, hm, rfl, hover, -⟩ := h.awaits.monitor
  exact h.backed.registered hm ⟨hover, h.live⟩

/-- As long as it goes on the time to give up has not passed. -/
theorem Trying.clock_le (h : w₀.Trying number lease others failures w) :
    w.clock ≤ w₀.giveUpTime := by
  obtain ⟨-, due, -, -, -, -, hclock, hdue⟩ := h.awaits.monitor
  exact Nat.le_trans hclock (Nat.le_trans hdue (wakeTime_add_readTime_le h.early))

/-! ### What others do -/

/-- Nothing that leaves the monitor alone changes where it stands. -/
theorem Trying.act_other (h : w₀.Trying number lease others failures w)
    (ha : w.LeavesAlone number lease a) (hother : a ≠ .monitor number) :
    w₀.Trying number lease (fun lane => others lane + w.callsIn lane a) failures (w.act a) := by
  have hof : ¬ a.IsOf number := by
    rintro (heq | heq)
    · exact hother heq
    · exact ha.unaborted heq
  have hclock {m : Monitor} {due : Nat} (hm : w.monitors[number]? = some m)
      (hdue : m.phase.due? = some due) (hle : w.clock ≤ due) : (w.act a).clock ≤ due := by
    rw [(w.surroundings_act a).2.1]
    cases a with
    | pass time => exact ha.prompt time m due rfl hm hdue
    | _ => exact hle
  constructor
  case early => exact h.early
  case awaits =>
    cases h.awaits with
    | sleeping hm hle => exact .sleeping (getElem?_act_of_other hm hof) (hclock hm rfl hle)
    | reading hm hle =>
      refine .reading (getElem?_act_of_other hm hof) (hclock hm ?_ hle)
      exact congrArg some (Call.due_begin _ _ _)
  case settings => rw [ha.settings, h.settings]
  case latency => rw [ha.latency, h.latency]
  case backed => exact backed_act h.backed ha.handsOn
  case live => exact ha.uncancelled
  case run => rw [ha.unwritten hother, h.run]
  case counts =>
    intro lane
    rw [count_act, h.counts lane]
    dsimp only
    omega

/-! ### What the monitor does -/

/-- The instant to which the monitor waits lies ahead. -/
def Rested (w : World) (number : Nat) : Prop :=
  ∀ m due, w.monitors[number]? = some m → m.phase.due? = some due → w.clock < due

/-- The monitor waits for the answer of a read. -/
def AwaitsAnswer (w : World) (number : Nat) : Prop :=
  ∃ m call, w.monitors[number]? = some m ∧ m.phase = .reading call

/-- What a move of the monitor does: it waits, it begins the read of its next poll, or the read
fails and with it the poll, the last time for good. -/
inductive OwnMove (w₀ : World) (number : Nat) (lease : Lease) (others : Lane → Nat)
    (failures : Nat) (w : World) : Prop where
  | waits : w.Rested number → w.call? number = none → w.act (.monitor number) = w →
      OwnMove w₀ number lease others failures w
  | begins : ¬ w.AwaitsAnswer number → w.call? number = none →
      w₀.Trying number lease others failures (w.act (.monitor number)) →
      (w.act (.monitor number)).AwaitsAnswer number → OwnMove w₀ number lease others failures w
  | fails : w₀.Trying number lease others (failures + 1) (w.act (.monitor number)) →
      (0 < w₀.settings.pollInterval → (w.act (.monitor number)).Rested number) →
      OwnMove w₀ number lease others failures w
  | givesUp : w.clock = w₀.giveUpTime →
      w₀.GaveUp number lease others (w.act (.monitor number)) →
      OwnMove w₀ number lease others failures w

/-- After a failed read the monitor goes to sleep again, or gives up if its patience is over. -/
theorem Trying.afterPoll_eq (h : w₀.Trying number lease others failures w) {phase : Phase}
    {e : ClientError} (hclock : w.clock = w₀.wakeTime failures + w₀.readTime)
    (he : e.isNotFound = false) :
    Monitor.afterPoll w.settings w.clock ⟨lease, failures, phase⟩ (.error (.client e)) =
      ⟨lease, failures + 1, if failures + 1 = w₀.patience then .ended .retriesExhausted
        else .sleeping (w₀.wakeTime (failures + 1))⟩ := by
  have hearly := h.early
  have hlimit : w.settings.retryLimit ≤ failures + 1 ↔ failures + 1 = w₀.patience := by
    rw [h.settings]
    unfold patience at hearly ⊢
    omega
  have hwake : w₀.wakeTime (failures + 1) = w.clock + w.settings.pollInterval := by
    rw [wakeTime_succ, hclock, h.settings]
  simp only [Monitor.afterPoll, he, Bool.false_eq_true, if_false, hlimit, hwake]
  split <;> rfl

/-- With its read a poll has failed. -/
theorem Trying.fail (h : w₀.Trying number lease others failures w) {phase : Phase} {s : Store}
    {e : ClientError} (hm : w.monitors[number]? = some ⟨lease, failures, phase⟩)
    (hclock : w.clock = w₀.wakeTime failures + w₀.readTime) (he : e.isNotFound = false)
    (hact : w.act (.monitor number) = { w with store := s }.putMonitor number
      (Monitor.afterPoll w.settings w.clock ⟨lease, failures, phase⟩ (.error (.client e))))
    (hlatency : s.latency = w.store.latency)
    (hrun : s.runs.get? lease.key = w.store.runs.get? lease.key)
    (hcounts : w₀.Counts lease.key others (failures + 1) s) :
    w₀.OwnMove number lease others failures w := by
  have hbacked : (w.act (.monitor number)).Backed := backed_act h.backed trivial
  have hset (m : Monitor) : ({ w with store := s }.putMonitor number m).monitors[number]? =
      some m := getElem?_putMonitor (w := { w with store := s }) hm
  have hearly := h.early
  rw [h.afterPoll_eq hclock he] at hact
  by_cases hlast : failures + 1 = w₀.patience
  · -- the monitor ends, and with it its entry
    rw [if_pos hlast] at hact
    refine .givesUp ?_ ?_
    · rw [hclock, wakeTime_add_readTime, hlast, giveUpTime]
    · rw [hact]
      refine ⟨⟨_, hset _, rfl⟩, ?_, hrun.trans h.run, hlast ▸ hcounts⟩
      change (w.registry.release lease).entries.get? lease.key = none
      rw [Registry.get?_release, if_pos ⟨rfl, h.registered⟩]
  · rw [if_neg hlast] at hact
    have hwake : w₀.wakeTime (failures + 1) = w.clock + w₀.settings.pollInterval := by
      rw [wakeTime_succ, hclock]
    refine .fails ?_ ?_
    · rw [hact] at hbacked ⊢
      constructor
      case early => omega
      case awaits =>
        refine .sleeping (hset _) ?_
        change w.clock ≤ _
        omega
      case settings => exact h.settings
      case latency => exact hlatency.trans h.latency
      case backed => exact hbacked
      case live => exact (isCancelled_putMonitor _ _ _ _).trans h.live
      case run => exact hrun.trans h.run
      case counts => exact hcounts
    · intro hpositive m due hm' hdue
      rw [hact] at hm' ⊢
      obtain rfl := Option.some.inj ((hset _).symm.trans hm')
      obtain rfl := Option.some.inj hdue
      change w.clock < _
      omega

/-- Nothing happens as long as the monitor waits. -/
theorem act_of_rested {m : Monitor} (hm : w.monitors[number]? = some m)
    (hlive : w.registry.isCancelled m.lease.id = false) (hrested : w.Rested number) :
    w.call? number = none ∧ w.act (.monitor number) = w := by
  have hstep : m.step? w.settings w.wall w.clock (w.registry.isCancelled m.lease.id) w.store =
      none := by
    rw [hlive, Monitor.step?]
    cases hdue : m.phase.due? with
    | none => rfl
    | some due => simp [Nat.not_le.2 (hrested m due hm hdue)]
  constructor
  · cases hcall : w.call? number with
    | none => rfl
    | some call =>
      obtain ⟨m', hm', hmcall⟩ := call?_eq_some hcall
      obtain rfl := Option.some.inj (hm.symm.trans hm')
      obtain ⟨_, _, hmoves⟩ := Monitor.exists_step_of_call? hmcall
      cases hstep.symm.trans hmoves
  · simp [act, nudgeMonitor, moveMonitor?, hm, hstep]

/-- At the instant to which it waits the monitor makes one of its steps. -/
theorem exists_step_of_due {m : Monitor} {due : Nat} (hm : w.monitors[number]? = some m)
    (hlive : w.registry.isCancelled m.lease.id = false) (hdue : m.phase.due? = some due)
    (hle : due ≤ w.clock) :
    ∃ m' s', Monitor.Step w.settings w.wall w.clock m w.store false m' s' ∧
      w.act (.monitor number) = { w with store := s' }.putMonitor number m' := by
  have hstep : m.step? w.settings w.wall w.clock false w.store =
      some (m.act w.settings w.wall w.clock w.store) := by
    rw [Monitor.step?, hdue]
    simp only [Bool.false_eq_true, if_false, if_pos hle]
  refine ⟨_, _, Monitor.step_of_step? hstep, ?_⟩
  rw [← hlive] at hstep
  simp only [act, nudgeMonitor, moveMonitor?_of_step? hm hstep, Option.getD_some]

/-- When the monitor has slept it begins a read. -/
theorem Trying.wake (h : w₀.Trying number lease others failures w)
    (hm : w.monitors[number]? = some ⟨lease, failures, .sleeping (w₀.wakeTime failures)⟩)
    (hclock : w.clock = w₀.wakeTime failures) : w₀.OwnMove number lease others failures w := by
  have hbacked : (w.act (.monitor number)).Backed := backed_act h.backed trivial
  have hcall : w.call? number = none := by
    rw [call?, hm, Option.bind_some, Monitor.call?]
    split <;> rfl
  have hasleep : ¬ w.AwaitsAnswer number := by
    rintro ⟨m, call, hm', hphase⟩
    obtain rfl := Option.some.inj (hm.symm.trans hm')
    cases hphase
  obtain ⟨m', s', hstep, hact⟩ := exists_step_of_due hm h.live rfl (Nat.le_of_eq hclock.symm)
  cases hstep with
  | wakes hphase _ =>
    have hset (m : Monitor) : (w.putMonitor number m).monitors[number]? = some m :=
      getElem?_putMonitor hm
    have hread : w.act (.monitor number) = w.putMonitor number ⟨lease, failures,
        .reading (.begin w₀.settings (w₀.wakeTime failures) w₀.store.latency)⟩ := by
      rw [← h.settings, ← h.latency, ← hclock]
      exact hact
    refine .begins hasleep hcall ?_ ?_
    · rw [hread] at hbacked ⊢
      refine ⟨h.early, .reading (hset _) ?_, h.settings, h.latency, hbacked, ?_, h.run, h.counts⟩
      · exact Nat.le_trans (Nat.le_of_eq hclock) (Nat.le_add_right _ _)
      · exact (isCancelled_putMonitor _ _ _ _).trans h.live
    · rw [hread]
      exact ⟨_, _, hset _, rfl⟩
  | timesOut hphase => cases hphase
  | _ hphase => cases hphase

/-- When the time of its read is over the read fails. -/
theorem Trying.lose (h : w₀.Trying number lease others failures w)
    (hm : w.monitors[number]? = some ⟨lease, failures,
      .reading (.begin w₀.settings (w₀.wakeTime failures) w₀.store.latency)⟩)
    (hclock : w.clock = w₀.wakeTime failures + w₀.readTime)
    (hreads : w.ReadFails number lease.key (.monitor number)) :
    w₀.OwnMove number lease others failures w := by
  have hdue : (Call.begin w₀.settings (w₀.wakeTime failures) w₀.store.latency).due =
      w₀.wakeTime failures + w₀.readTime := Call.due_begin _ _ _
  have hcall (heffect : (Call.begin w₀.settings (w₀.wakeTime failures)
      w₀.store.latency).takesEffect w.clock = true) : w.call? number = some (.get lease.key) := by
    rw [call?, hm, Option.bind_some, Monitor.call?, h.live]
    simp only [Bool.false_eq_true, if_false, heffect, if_true]
  obtain ⟨m', s', hstep, hact⟩ := exists_step_of_due hm h.live (congrArg some hdue)
    (Nat.le_of_eq hclock.symm)
  cases hstep with
  | timesOut hphase _ hlate =>
    cases hphase
    rw [Call.timesOut_begin_iff] at hlate
    refine h.fail hm hclock rfl hact rfl rfl ?_
    intro lane
    rw [h.counts lane, if_neg (by omega), if_neg (by omega)]
  | readFails hphase heffect hanswer =>
    cases hphase
    have hlatency := Call.latency_le_of_takesEffect heffect
    obtain ⟨e, herror, he⟩ := hreads rfl (hcall heffect)
    obtain rfl := Except.error.inj (hanswer.symm.trans herror)
    have hrefused := w.store.refused_get lease.key
    refine h.fail hm hclock he hact hrefused.latency (by rw [hrefused.runs]) ?_
    intro lane
    rw [hrefused.count lane, h.counts lane]
    by_cases hlane : Lane.reads lease.key = lane
    · rw [if_pos hlane, if_pos ⟨hlane.symm, hlatency⟩, if_pos ⟨hlane.symm, hlatency⟩]
      omega
    · have hnot : ¬ (lane = .reads lease.key ∧ w₀.store.latency ≤ w₀.settings.requestTimeout) :=
        fun hown => hlane hown.1.symm
      rw [if_neg hlane, if_neg hnot, if_neg hnot]
  | readEnds hphase heffect hanswer | reads hphase heffect hanswer =>
    cases hphase
    obtain ⟨e, herror, -⟩ := hreads rfl (hcall heffect)
    cases hanswer.symm.trans herror
  | _ hphase => cases hphase

/-- Each move of the monitor is one of those that `OwnMove` lists. -/
theorem Trying.ownMove (h : w₀.Trying number lease others failures w)
    (hreads : w.ReadFails number lease.key (.monitor number)) :
    w₀.OwnMove number lease others failures w := by
  obtain ⟨m, due, hm, hlease, -, hdue, hle, -⟩ := h.awaits.monitor
  by_cases hahead : w.clock < due
  · have hrested : w.Rested number := by
      intro m' due' hm' hdue'
      obtain rfl := Option.some.inj (hm.symm.trans hm')
      obtain rfl := Option.some.inj (hdue.symm.trans hdue')
      exact hahead
    obtain ⟨hcall, hact⟩ := act_of_rested hm (hlease ▸ h.live) hrested
    exact .waits hrested hcall hact
  · have hclock : w.clock = due := by omega
    cases h.awaits with
    | sleeping hm' _ =>
      obtain rfl := Option.some.inj (hm.symm.trans hm')
      obtain rfl := Option.some.inj hdue
      exact h.wake hm hclock
    | reading hm' _ =>
      obtain rfl := Option.some.inj (hm.symm.trans hm')
      obtain rfl := Option.some.inj hdue
      exact h.lose hm (hclock.trans (Call.due_begin _ _ _)) hreads

/-! ### Why reads fail -/

/-- If many reads fail, fewer do, whatever the reason is. -/
theorem FailsAhead.mono {left fewer : Nat} {s : Store} (h : w₀.FailsAhead k left s)
    (hle : fewer ≤ left) : w₀.FailsAhead k fewer s :=
  h.imp_right fun hahead => hahead.mono hle

/-- With an action that reads the run at most one of the errors is gone, and others come behind
them. -/
theorem FailsAhead.act {left : Nat} (h : w₀.FailsAhead k left w.store) :
    w₀.FailsAhead k (left - w.callsIn (.reads k) a) (w.act a).store := by
  refine h.imp_right fun hahead i hi => ?_
  have hbehind {queue : List ClientError} {e : ClientError} (he : queue[i]? = some e) :
      (queue ++ a.injected (.reads k))[i]? = some e := by
    rwa [List.getElem?_append_left (List.getElem?_eq_some_iff.1 he).1]
  unfold callsIn at hi
  rw [queue_act]
  split
  · next hcall =>
    rw [if_pos hcall] at hi
    obtain ⟨e, hnext, he⟩ := hahead (i + 1) (by omega)
    rw [← List.getElem?_tail] at hnext
    exact ⟨e, hbehind hnext, he⟩
  · next hcall =>
    obtain ⟨e, hnext, he⟩ := hahead i (by omega)
    exact ⟨e, hbehind hnext, he⟩

/-- As long as reads are bound to fail each read of the monitor fails. -/
theorem Trying.readFails (h : w₀.Trying number lease others failures w)
    (hahead : w₀.FailsAhead lease.key (w₀.patience - failures) w.store) :
    w.ReadFails number lease.key a := by
  rintro rfl hcall
  rcases hahead with hlate | herrors
  · -- the read is given up before it could be answered
    exfalso
    obtain ⟨m, hm, hmcall⟩ := call?_eq_some hcall
    obtain ⟨-, -, c, hphase, heffect⟩ := Monitor.call?_eq_get hmcall
    cases h.awaits with
    | sleeping hm' _ =>
      obtain rfl := Option.some.inj (hm.symm.trans hm')
      cases hphase
    | reading hm' _ =>
      obtain rfl := Option.some.inj (hm.symm.trans hm')
      cases hphase
      have hlatency := Call.latency_le_of_takesEffect heffect
      omega
  · exact herrors.get_eq (Nat.sub_pos_of_lt h.early)

end World

end RunOperator
