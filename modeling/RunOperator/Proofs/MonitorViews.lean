import RunOperator.Proofs.LeaseViews
import RunOperator.Proofs.StoreViews

/-!
# What the moves of monitors are to a run

A monitor sees of the store its own run only, and of versions only whether the object that it
carries is current. Its step is therefore a step of what the world shows of it
(`Monitor.view_step?`), and a move of a monitor of the run changes the view of the run by what it
was before (`view_act_monitor`). A move of another monitor leaves it
(`view_act_monitor_of_other`).
-/

namespace RunOperator

/-! ### Polls without versions -/

/-- What a poll does after an answer, without versions. -/
def PollStep.bare : PollStep (Run × RunState) → PollStep (Run × RunState)
  | .next (r, s) => .next (r.bare, s)
  | .finish result => .finish result

namespace Poll

private theorem afterRead_bareAnswer (answer : Except ClientError Run) :
    afterRead (Run.bareAnswer answer) = (afterRead answer).bare := by
  cases answer with
  | error e => rfl
  | ok r =>
    change ofRun r.bare = (ofRun r).bare
    unfold ofRun
    rw [Run.state_bare]
    split
    · rfl
    · split <;> rfl

private theorem afterList_bare (r : Run) (current : RunState) (now : Instant)
    (answer : Except ClientError (List PodPhase)) :
    afterList r.bare current now answer = (afterList r current now answer).bare := by
  cases answer with
  | error e => rfl
  | ok pods =>
    have hrequested : r.bare.cancelRequested = r.cancelRequested := rfl
    simp only [afterList, hrequested]
    split <;> rfl

private theorem afterWrite_bareAnswer (target : RunState) (answer : Except ClientError Run) :
    afterWrite target (Run.bareAnswer answer) = afterWrite target answer := by
  cases answer <;> rfl

end Poll

namespace Monitor

variable {settings : Settings} {wall : Instant} {now : Nat} {m m' : Monitor} {k : RunKey}

/-- When a monitor moves next does not depend on versions. -/
@[simp] theorem due?_bare (p : Phase) : p.bare.due? = p.due? := by
  cases p <;> rfl

/-- Whether a monitor has ended does not depend on versions. -/
@[simp] theorem isOver_bare (m : Monitor) : m.bare.isOver = m.isOver := by
  cases hphase : m.phase <;> simp [isOver, exit?, bare, hphase, Phase.bare]

/-- How a monitor has ended does not depend on versions. -/
theorem exit?_bare (m : Monitor) : m.bare.exit? = m.exit? := by
  cases hphase : m.phase <;> simp [exit?, bare, hphase, Phase.bare]

/-- What follows a poll does not depend on versions. -/
theorem bare_afterPoll (m : Monitor) (result : PollResult) :
    (m.afterPoll settings now result).bare = m.bare.afterPoll settings now result := by
  have hfailures : m.bare.failures = m.failures := rfl
  cases result with
  | ok answer => cases answer <;> rfl
  | error e =>
    cases e with
    | client e =>
      simp only [afterPoll, hfailures]
      split
      · rfl
      · split <;> rfl
    | _ => rfl

/-- How a poll goes on does not depend on versions. -/
theorem bare_proceed (m : Monitor) {phase : Run × RunState → Phase}
    (hphase : ∀ r s, (phase (r, s)).bare = phase (r.bare, s)) (step : PollStep (Run × RunState)) :
    (m.proceed settings now phase step).bare = m.bare.proceed settings now phase step.bare := by
  cases step with
  | finish result => exact bare_afterPoll m result
  | next run =>
    obtain ⟨r, s⟩ := run
    simp only [proceed, PollStep.bare, bare, hphase]

end Monitor

/-! ### Monitors as a run sees them -/

namespace MonitorView

variable (settings : Settings) (wall : Instant) (now : Nat) (k : RunKey)

/-- What a monitor does at the end of its phase. -/
def act (m : MonitorView) (s : StoreView) : Monitor × StoreView :=
  match m.monitor.phase with
  | .sleeping _ => ({ m.monitor with phase := .reading (.begin settings now s.latency) }, s)
  | .reading c =>
    let (answer, s) := if c.timesOut then (.error .timeout, s) else (s.readAnswer k, s.read)
    let listing (run : Run × RunState) : Phase :=
      .listing (.begin settings now s.latency) run.1 run.2
    (m.monitor.proceed settings now listing (Poll.afterRead answer), s)
  | .listing c r current =>
    let answer := if c.timesOut then .error .timeout else .ok s.pods
    let writing (run : Run × RunState) : Phase :=
      .writing (.begin settings now s.latency) run.1 run.2
    (m.monitor.proceed settings now writing (Poll.afterList r current wall answer), s)
  | .writing c r target =>
    let (answer, s) :=
      if c.timesOut then (.error .timeout, s)
      else (s.replaceAnswer k m.current r, s.replaced k m.current r)
    (m.monitor.afterPoll settings now (Poll.afterWrite target answer), s)
  | .ended _ => (m.monitor, s)

/-- The next step of the monitor replaces the run. -/
def rewrites (m : MonitorView) (s : StoreView) : Bool :=
  match m.monitor.phase with
  | .writing c _ _ => !m.cancelled && !c.timesOut && s.applies m.current
  | _ => false

/-- The monitor after a step of it: an object that was just read is current, and one that is about
to be written is if it was. -/
def become (m : MonitorView) (next : Monitor) : MonitorView where
  monitor := next
  cancelled := m.cancelled
  registered := m.registered
  current :=
    match next.phase with
    | .listing _ _ _ => true
    | .writing _ _ _ => m.current
    | _ => false

/-- One step of a monitor; `none` while it waits and after its end. -/
def step? (m : MonitorView) (s : StoreView) : Option (MonitorView × StoreView) :=
  match m.monitor.phase.due? with
  | none => none
  | some due =>
    if m.cancelled then some (m.become (m.monitor.exitWith .cancelled), s)
    else if due ≤ now then
      some (m.become (m.act settings wall now k s).1, (m.act settings wall now k s).2)
    else none

end MonitorView

namespace Monitor

variable {settings : Settings} {wall : Instant} {now : Nat} {m m' : Monitor} {k : RunKey}
  {reg : Registry} {s s' : Store}

/-- What a monitor does at the end of its phase depends on what the world shows of it. -/
theorem view_act (hkey : m.lease.key = k) (hcarried : ∀ r, m.phase.run? = some r → r.key = k) :
    (m.view reg s).act settings wall now k (s.view k) =
      ((m.act settings wall now s).1.bare, (m.act settings wall now s).2.view k) := by
  have hshown : (m.view reg s).monitor.phase = m.phase.bare := rfl
  cases hphase : m.phase with
  | sleeping wake =>
    rw [hphase] at hshown
    simp only [MonitorView.act, hshown, act, hphase]
    rfl
  | reading c =>
    rw [hphase] at hshown
    simp only [MonitorView.act, hshown, act, hphase, Phase.bare, answerOf]
    cases c.timesOut with
    | true =>
      simp only [if_true]
      rw [bare_proceed m (fun r s => rfl), ← Poll.afterRead_bareAnswer]
      rfl
    | false =>
      simp only [Bool.false_eq_true, if_false]
      rw [bare_proceed m (fun r s => rfl), ← Poll.afterRead_bareAnswer, hkey, Store.answer_get,
        Store.view_get, Store.latency_get]
      rfl
  | listing c r current =>
    rw [hphase] at hshown
    simp only [MonitorView.act, hshown, act, hphase, Phase.bare, answerOf]
    rw [bare_proceed m (fun r s => rfl), ← Poll.afterList_bare]
    cases c.timesOut with
    | true => rfl
    | false =>
      rw [hkey]
      rfl
  | writing c r target =>
    rw [hphase] at hshown hcarried
    have hcurrent : (m.view reg s).current = s.isCurrent r := by
      simp [view, hphase, Phase.run?]
    simp only [MonitorView.act, hshown, act, hphase, Phase.bare, answerOf, hcurrent]
    cases c.timesOut with
    | true =>
      simp only [if_true]
      rw [bare_afterPoll]
      rfl
    | false =>
      simp only [Bool.false_eq_true, if_false]
      rw [bare_afterPoll, ← Poll.afterWrite_bareAnswer target (s.replace r).1,
        Store.answer_replace (hcarried r rfl), Store.view_replace (hcarried r rfl)]
      rfl
  | ended e =>
    rw [hphase] at hshown
    simp only [MonitorView.act, hshown, act, hphase, Phase.bare]
    rfl

/-- What the world shows of a monitor after a step of it. -/
theorem view_of_step? (hs : s.Filed)
    (h : m.step? settings wall now (reg.isCancelled m.lease.id) s = some (m', s')) :
    m'.view reg s' = (m.view reg s).become m'.bare := by
  have hstep := step_of_step? h
  have hstore := store_of_step? h
  have hcurrent : m'.phase.run?.any s'.isCurrent = ((m.view reg s).become m'.bare).current := by
    have hshown : m'.bare.phase = m'.phase.bare := rfl
    cases hphase : m'.phase with
    | listing c r current =>
      obtain ⟨hcall, hread, -, -⟩ := hstep.of_listing hphase
      obtain ⟨-, hstored⟩ := Store.get_eq_ok_iff.1 hread
      rw [hcall] at hstore
      have hruns : s'.runs.get? r.key = some r := by
        rw [hstore, hs _ r hstored]
        exact (congrArg (KeyMap.get? · m.lease.key) (Store.runs_get s m.lease.key)).trans hstored
      rw [hphase] at hshown
      simp [MonitorView.become, hshown, Phase.run?, Phase.bare, Store.isCurrent, hruns]
    | writing c r target =>
      obtain ⟨hcall, c₀, read, current, hphase₀, -, -, rfl⟩ := hstep.of_writing hphase
      rw [hcall] at hstore
      rw [hphase] at hshown
      obtain rfl : s' = s := hstore
      have hbefore : (m.view reg s').current = s'.isCurrent read := by
        simp [view, hphase₀, Phase.run?]
      simp only [MonitorView.become, hshown, Phase.run?, Phase.bare, hbefore, Option.any_some]
      rfl
    | sleeping wake | reading c | ended e =>
      rw [hphase] at hshown
      simp [MonitorView.become, hshown, Phase.run?, Phase.bare]
  have hlease : m'.lease = m.lease := hstep.lease_eq
  refine MonitorView.ext rfl ?_ ?_ hcurrent
  · simp only [view, hlease, MonitorView.become]
  · simp only [view, hlease, MonitorView.become]

/-- A step of a monitor is a step of what the world shows of it. -/
theorem view_step? (hs : s.Filed) (hkey : m.lease.key = k)
    (hcarried : ∀ r, m.phase.run? = some r → r.key = k) :
    (m.view reg s).step? settings wall now k (s.view k) =
      (m.step? settings wall now (reg.isCancelled m.lease.id) s).map
        fun next => (next.1.view reg next.2, next.2.view k) := by
  have hshown : (m.view reg s).monitor.phase.due? = m.phase.due? := due?_bare m.phase
  have hcancelled : (m.view reg s).cancelled = reg.isCancelled m.lease.id := rfl
  rw [MonitorView.step?, hshown, hcancelled]
  cases hdue : m.phase.due? with
  | none => simp [step?, hdue]
  | some due =>
    cases hstop : reg.isCancelled m.lease.id with
    | true =>
      have hstep : m.step? settings wall now (reg.isCancelled m.lease.id) s =
          some (m.exitWith .cancelled, s) := by simp [step?, hdue, hstop]
      rw [← hstop, hstep, Option.map_some, view_of_step? hs hstep, hstop]
      rfl
    | false =>
      by_cases hnow : due ≤ now
      · have hstep : m.step? settings wall now (reg.isCancelled m.lease.id) s =
            some (m.act settings wall now s) := by simp [step?, hdue, hstop, hnow]
        have hview : (m.act settings wall now s).1.view reg (m.act settings wall now s).2 =
            (m.view reg s).become (m.act settings wall now s).1.bare := view_of_step? hs hstep
        rw [← hstop, hstep, Option.map_some, hview, view_act hkey hcarried, hstop]
        simp [hnow]
      · simp [step?, hdue, hnow]

/-- A replacement of the run by its monitor applies if and only if the view says so. -/
theorem applies_iff {r : Run} (hkey : r.key = k) :
    (s.view k).applies (s.isCurrent r) = true ↔ ∃ written, (s.replace r).1 = .ok written := by
  subst hkey
  simp only [Store.replace_eq_ok_iff, exists_and_left, exists_eq, and_true, StoreView.applies,
    Bool.and_eq_true, List.isEmpty_iff, Store.isCurrent, Option.any_eq_true, beq_iff_eq]
  rfl

/-- A monitor that writes rewrites the run in its view if the write takes effect and is up to date.
-/
theorem rewrites_view {c : Call} {r : Run} {target : RunState}
    (hphase : m.phase = .writing c r target) :
    (m.view reg s).rewrites (s.view k) = (!reg.isCancelled m.lease.id && !c.timesOut &&
      (s.view k).applies (s.isCurrent r)) := by
  simp [MonitorView.rewrites, view, bare, hphase, Phase.bare, Phase.run?]

/-- A monitor that does not write rewrites nothing. -/
theorem rewrites_view_of_ne (hphase : ∀ c r target, m.phase ≠ .writing c r target) :
    (m.view reg s).rewrites (s.view k) = false := by
  cases hp : m.phase with
  | writing c r target => exact absurd hp (hphase c r target)
  | _ => simp [MonitorView.rewrites, view, bare, hp, Phase.bare]

/-- A step that replaces the run stores an object with the next version. Any other step leaves the
stored object. -/
theorem stored_of_step? (hcarried : ∀ r, m.phase.run? = some r → r.key = k)
    (h : m.step? settings wall now (reg.isCancelled m.lease.id) s = some (m', s')) :
    if (m.view reg s).rewrites (s.view k) then
      ∀ r, s'.runs.get? k = some r → r.Carries (s.lastVersion + 1)
    else s'.runs.get? k = s.runs.get? k := by
  have hstep := step_of_step? h
  generalize hcancelled : reg.isCancelled m.lease.id = cancelled at hstep
  cases hstep with
  | stops _ =>
    have hrewrites : (m.view reg s).rewrites (s.view k) = false := by
      cases hphase : m.phase with
      | writing c r target => simp [rewrites_view hphase, hcancelled]
      | _ => exact rewrites_view_of_ne (by simp [hphase])
    simp [hrewrites]
  | timesOut hcall _ htimesOut =>
    have hrewrites : (m.view reg s).rewrites (s.view k) = false := by
      cases hphase : m.phase with
      | writing c r target =>
        rw [hphase] at hcall
        cases hcall
        simp [rewrites_view hphase, htimesOut]
      | _ => exact rewrites_view_of_ne (by simp [hphase])
    simp [hrewrites]
  | wakes hphase _ | keeps hphase _ _ | decides hphase _ _ _ =>
    rw [rewrites_view_of_ne (by simp [hphase])]
    rfl
  | readFails hphase _ _ | readEnds hphase _ _ _ | reads hphase _ _ _ _ =>
    rw [rewrites_view_of_ne (by simp [hphase]), Store.runs_get]
    rfl
  | @writeFails c r target e hphase heffect hanswer =>
    have hkey := hcarried r (by rw [hphase]; rfl)
    have happlies : (s.view k).applies (s.isCurrent r) = false := by
      rw [← Bool.not_eq_true, applies_iff hkey]
      rintro ⟨written, hwritten⟩
      cases hanswer.symm.trans hwritten
    rw [rewrites_view hphase, happlies, Bool.and_false, (Store.runs_replace_of_error hanswer).1]
    rfl
  | @writes c r written target hphase heffect hanswer =>
    have hkey := hcarried r (by rw [hphase]; rfl)
    have htimesOut := (Call.takesEffect_iff.1 heffect).2
    rw [rewrites_view hphase, hcancelled, htimesOut, (applies_iff hkey).2 ⟨written, hanswer⟩]
    simp only [Bool.not_false, Bool.and_self, if_true]
    intro r' hr'
    obtain ⟨-, -, rfl⟩ := Store.replace_eq_ok_iff.1 hanswer
    rw [(Store.runs_replace_of_ok hanswer).1, hkey, KeyMap.get?_insert_self] at hr'
    rw [← Option.some.inj hr']
    exact s.stampVersion_carries r

end Monitor

/-! ### Lists of monitors -/

section

variable {α : Type} {p : α → Bool} {l : List α} {n : Nat} {a b : α}

private theorem getElem?_filter_countP (ha : l[n]? = some a) (hpa : p a = true) :
    (l.filter p)[(l.take n).countP p]? = some a := by
  induction l generalizing n with
  | nil => cases ha
  | cons c l ih =>
    cases n with
    | zero =>
      cases ha
      simp [hpa]
    | succ n =>
      have hrest := ih (n := n) ha
      cases hpc : p c <;> simpa [hpc] using hrest

private theorem filter_set (ha : l[n]? = some a) (hpa : p a = true) (hpb : p b = true) :
    (l.set n b).filter p = (l.filter p).set ((l.take n).countP p) b := by
  induction l generalizing n with
  | nil => cases ha
  | cons c l ih =>
    cases n with
    | zero =>
      cases ha
      simp [hpa, hpb]
    | succ n =>
      have hrest := ih (n := n) ha
      cases hpc : p c <;> simpa [hpc] using hrest

private theorem filter_set_of_neg (ha : l[n]? = some a) (hpa : p a = false) (hpb : p b = false) :
    (l.set n b).filter p = l.filter p := by
  induction l generalizing n with
  | nil => cases ha
  | cons c l ih =>
    cases n with
    | zero =>
      cases ha
      simp [hpa, hpb]
    | succ n =>
      have hrest := ih (n := n) ha
      cases hpc : p c <;> simpa [hpc] using hrest

end

/-! ### Moves of monitors -/

namespace RunView

variable (k : RunKey) (v : RunView)

/-- The object that monitors carry is not the stored one any more. -/
def outdate : RunView := { v with team := v.team.map MonitorView.stale }

/-- The view after a monitor has changed: a monitor that has ended releases its lease. -/
def putMonitor (rank : Nat) (m : MonitorView) : RunView :=
  let v := { v with team := v.team.set rank m }
  if m.monitor.isOver && m.registered then v.vacate else v

/-- The view after a move of a monitor. -/
def moveMonitor (rank : Nat) : RunView :=
  match v.team[rank]? with
  | none => v
  | some m =>
    match m.step? v.settings v.wall v.clock k v.store with
    | none => v
    | some (m', store) =>
      let v' := { v with store }
      (if m.rewrites v.store then v'.outdate else v').putMonitor rank m'

/-- The view after a monitor was aborted. -/
def abort (rank : Nat) : RunView :=
  match v.team[rank]? with
  | none => v
  | some m =>
    if m.monitor.isOver then v else v.putMonitor rank (m.become (m.monitor.exitWith .aborted))

end RunView

/-- An object that the monitor carries is one of its run, with a version that was issued. -/
def Monitor.CarriesOwn (s : Store) (m : Monitor) : Prop :=
  ∀ r, m.phase.run? = some r → r.key = m.lease.key ∧ ∃ v, v ≤ s.lastVersion ∧ r.Carries v

/-- A monitor that carries an object of its run calls for its run only. -/
theorem Monitor.CarriesOwn.key_of_call? {s : Store} {m : Monitor} {now : Nat} {cancelled : Bool}
    {call : ClientCall} (h : m.CarriesOwn s) (hcall : m.call? now cancelled = some call) :
    call.key = m.lease.key := by
  cases call with
  | get k => exact (Monitor.call?_eq_get hcall).2.1.symm
  | pods k => exact (Monitor.call?_eq_pods hcall).2.1.symm
  | replace r =>
    obtain ⟨-, c, target, hphase, -⟩ := Monitor.call?_eq_replace hcall
    exact (h r (by rw [hphase]; rfl)).1

/-- What a monitor carries after a step was stored under its key, or was made from what it had
carried. -/
theorem Monitor.CarriesOwn.step {settings : Settings} {wall : Instant} {now : Nat} {m m' : Monitor}
    {s s' : Store} {cancelled : Bool} (hs : s.Filed) (hversioned : s.Versioned)
    (h : m.CarriesOwn s) (hstep : m.step? settings wall now cancelled s = some (m', s')) :
    m'.CarriesOwn s' := by
  have hlist := Monitor.step_of_step? hstep
  have hstore := Monitor.store_of_step? hstep
  intro r hr
  rw [hlist.lease_eq]
  cases hphase : m'.phase with
  | listing c r' current =>
    obtain rfl : r' = r := by simpa [hphase, Phase.run?] using hr
    obtain ⟨hcall, hread, -, -⟩ := hlist.of_listing hphase
    obtain ⟨-, hstored⟩ := Store.get_eq_ok_iff.1 hread
    obtain ⟨v, -, hv, hcarries⟩ := hversioned.carries hstored
    rw [hcall] at hstore
    have hlast : s'.lastVersion = s.lastVersion := by
      rw [hstore]
      exact Store.lastVersion_get s m.lease.key
    exact ⟨hs _ r' hstored, v, hlast ▸ hv, hcarries⟩
  | writing c r' target =>
    obtain rfl : r' = r := by simpa [hphase, Phase.run?] using hr
    obtain ⟨hcall, c₀, read, current, hphase₀, -, -, rfl⟩ := hlist.of_writing hphase
    rw [hcall] at hstore
    obtain rfl : s' = s := hstore
    obtain ⟨hkey, v, hv, hcarries⟩ := h read (by rw [hphase₀]; rfl)
    exact ⟨hkey, v, hv, hcarries⟩
  | sleeping _ | reading _ | ended _ => simp [hphase, Phase.run?] at hr

namespace World

variable {w : World} {k : RunKey} {number : Nat} {m m' : Monitor} {s' : Store}

/-- The store may change as long as it keeps the object of the run. -/
theorem view_store (hcarried : ∀ m ∈ w.monitors, m.CarriesOwn w.store)
    (hstored : s'.runs.get? k = w.store.runs.get? k) :
    { w with store := s' }.view k = { w.view k with store := s'.view k } := by
  have hview : { w with store := s' }.view k =
      { w.view k with store := s'.view k, team := (w.view k).team.map id } := by
    refine view_update rfl ?_
    intro m hm hkey
    have hcurrent : m.phase.run?.any s'.isCurrent = m.phase.run?.any w.store.isCurrent := by
      cases hrun : m.phase.run? with
      | none => rfl
      | some r =>
        have hr : r.key = k := (hcarried m hm r hrun).1.trans hkey
        simp only [Option.any_some, Store.isCurrent, hr, hstored]
    simp only [Monitor.view, hcurrent, id_eq]
  rw [hview, List.map_id]

/-- When the object of the run is written or deleted, no monitor carries the stored one. -/
theorem view_store_rewritten (hcarried : ∀ m ∈ w.monitors, m.CarriesOwn w.store)
    (hstored : ∀ r, s'.runs.get? k = some r → r.Carries (w.store.lastVersion + 1)) :
    { w with store := s' }.view k = { w.view k with store := s'.view k }.outdate := by
  refine view_update rfl ?_
  intro m hm hkey
  have hcurrent : m.phase.run?.any s'.isCurrent = false := by
    cases hrun : m.phase.run? with
    | none => rfl
    | some r =>
      obtain ⟨hr, v, hv, hcarries⟩ := hcarried m hm r hrun
      rw [Option.any_some, Store.isCurrent, hr, hkey]
      cases hnew : s'.runs.get? k with
      | none => rfl
      | some r' =>
        rw [Option.any_some, beq_eq_false_iff_ne]
        intro heq
        have := hcarries.unique ((hstored r' hnew).congr heq)
        omega
  simp only [Monitor.view, hcurrent, MonitorView.stale]

/-- A monitor of the run that goes on or ends is seen to do so. -/
theorem view_putMonitor (hm : w.monitors[number]? = some m) (hkey : m.lease.key = k)
    (hlease : m'.lease = m.lease) :
    (w.putMonitor number m').view k =
      (w.view k).putMonitor (w.rank k number) (m'.view w.registry w.store) := by
  have hset : { w with monitors := w.monitors.set number m' }.view k =
      { w.view k with
        team := (w.view k).team.set (w.rank k number) (m'.view w.registry w.store) } := by
    have hfilter := filter_set (p := Monitor.isFor k) hm (beq_iff_eq.2 hkey)
      (beq_iff_eq.2 ((congrArg Lease.key hlease).trans hkey))
    simp only [view, monitorsOf, hfilter, List.map_set]
    rfl
  have hover : (m'.view w.registry w.store).monitor.isOver = m'.isOver := m'.isOver_bare
  have hkey' : m'.lease.key = k := (congrArg Lease.key hlease).trans hkey
  have hregistered : (m'.view w.registry w.store).registered =
      (w.registry.entries.get? k == some m'.lease.id) := by
    rw [← hkey']
    rfl
  rw [RunView.putMonitor, ← hset, hover, hregistered]
  unfold putMonitor
  cases m'.isOver with
  | false => rfl
  | true =>
    refine (view_release (w := { w with monitors := w.monitors.set number m' }) m'.lease k).trans ?_
    simp [hkey']

/-- A monitor of another run that goes on or ends is not seen. -/
theorem view_putMonitor_of_other (hm : w.monitors[number]? = some m) (hkey : m.lease.key ≠ k)
    (hlease : m'.lease = m.lease) : (w.putMonitor number m').view k = w.view k := by
  have hkey' : m'.lease.key ≠ k := hlease ▸ hkey
  have hset : { w with monitors := w.monitors.set number m' }.view k = w.view k := by
    have hfilter := filter_set_of_neg (p := Monitor.isFor k) hm (beq_false_of_ne hkey)
      (beq_false_of_ne hkey')
    simp only [view, monitorsOf, hfilter]
  unfold putMonitor
  cases m'.isOver with
  | false => exact hset
  | true =>
    refine (view_release (w := { w with monitors := w.monitors.set number m' }) m'.lease k).trans ?_
    rw [if_neg fun h => hkey' h.1, hset]

/-- A monitor of the run is seen in the team at its rank. -/
theorem team_view_rank (hm : w.monitors[number]? = some m) (hkey : m.lease.key = k) :
    (w.view k).team[w.rank k number]? = some (m.view w.registry w.store) := by
  have hmine : (w.monitorsOf k)[w.rank k number]? = some m :=
    getElem?_filter_countP (p := Monitor.isFor k) hm (beq_iff_eq.2 hkey)
  rw [view, List.getElem?_map, hmine, Option.map_some]

/-- A move of a monitor of the run changes the view of the run by what it was before. -/
theorem view_act_monitor (hs : w.store.Filed) (hcarried : ∀ m ∈ w.monitors, m.CarriesOwn w.store)
    (hm : w.monitors[number]? = some m) (hkey : m.lease.key = k) :
    (w.act (.monitor number)).view k = (w.view k).moveMonitor k (w.rank k number) := by
  have hown : ∀ r, m.phase.run? = some r → r.key = k := by
    intro r hr
    exact (hcarried m (List.mem_of_getElem? hm) r hr).1.trans hkey
  have hview : (m.view w.registry w.store).step? (w.view k).settings (w.view k).wall
      (w.view k).clock k (w.view k).store = (m.step? w.settings w.wall w.clock
        (w.registry.isCancelled m.lease.id) w.store).map
          fun next => (next.1.view w.registry next.2, next.2.view k) :=
    Monitor.view_step? hs hkey hown
  unfold RunView.moveMonitor
  rw [team_view_rank hm hkey]
  dsimp only
  rw [hview]
  rcases hstep : m.step? w.settings w.wall w.clock (w.registry.isCancelled m.lease.id) w.store with
    _ | ⟨m', s'⟩
  · simp [act, nudgeMonitor, moveMonitor?, hm, hstep]
  · have hmoved : (w.act (.monitor number)).view k =
        ({ w with store := s' }.view k).putMonitor (w.rank k number) (m'.view w.registry s') := by
      rw [act, nudgeMonitor, moveMonitor?_of_step? hm hstep, Option.getD_some]
      exact view_putMonitor (w := { w with store := s' }) hm hkey
        (Monitor.step_of_step? hstep).lease_eq
    have hstored := Monitor.stored_of_step? hown hstep
    rw [hmoved, Option.map_some]
    split at hstored
    · next hrewrites =>
      rw [view_store_rewritten hcarried hstored]
      exact congrArg (RunView.putMonitor · _ _) (if_pos hrewrites).symm
    · next hkeeps =>
      rw [view_store hcarried hstored]
      exact congrArg (RunView.putMonitor · _ _) (if_neg hkeeps).symm

/-- A move of a monitor of another run is not seen. -/
theorem view_act_monitor_of_other (hcarried : ∀ m ∈ w.monitors, m.CarriesOwn w.store)
    (hm : w.monitors[number]? = some m) (hkey : m.lease.key ≠ k) :
    (w.act (.monitor number)).view k = w.view k := by
  rcases act_monitor_cases w number with hact | ⟨m₀, m', s', hm₀, hstep, hact⟩ <;> rw [hact]
  obtain rfl := Option.some.inj (hm.symm.trans hm₀)
  have hstore : Store.AlikeFor k w.store s' := by
    rw [Monitor.store_of_step? hstep]
    cases hcall : m.call? w.clock (w.registry.isCancelled m.lease.id) with
    | none => exact Store.AlikeFor.refl k w.store
    | some call =>
      refine Store.alikeFor_call ?_
      rwa [(hcarried m (List.mem_of_getElem? hm)).key_of_call? hcall]
  refine (view_putMonitor_of_other (w := { w with store := s' }) hm hkey
    (Monitor.step_of_step? hstep).lease_eq).trans ?_
  rw [view_store hcarried hstore.stored, hstore.view]
  rfl

/-- A monitor of the run that is aborted is seen to be aborted. -/
theorem view_abort (hm : w.monitors[number]? = some m) (hkey : m.lease.key = k) :
    (w.abort number).view k = (w.view k).abort (w.rank k number) := by
  have hover : (m.view w.registry w.store).monitor.isOver = m.isOver := m.isOver_bare
  unfold abort RunView.abort
  rw [hm, team_view_rank hm hkey]
  dsimp only
  rw [hover]
  split
  · rfl
  · have hlease : (m.exitWith .aborted).lease = m.lease := rfl
    exact view_putMonitor hm hkey hlease

/-- A monitor of another run that is aborted is not seen. -/
theorem view_abort_of_other (hm : w.monitors[number]? = some m) (hkey : m.lease.key ≠ k) :
    (w.abort number).view k = w.view k := by
  unfold abort
  rw [hm]
  dsimp only
  split
  · rfl
  · exact view_putMonitor_of_other hm hkey rfl

end World

end RunOperator
