import Mathlib.Data.List.Induction
import RunOperator.Proofs.Exclusion
import RunOperator.Proofs.FailedPolls
import RunOperator.Proofs.InjectedFailures
import RunOperator.Proofs.RetryAccounting

/-!
# What the exit of a monitor tells

A monitor ends with a step, and there are few reasons for that (`Monitor.Reason`): it was cancelled,
it has failed too often, or the last call of a poll has told it that the run is finished, missing or
in no state. As long as no error is put in the way of calls that denies a run, what the call tells
is what is stored at that instant. `exits_tell_the_truth` says so of every exit in any history, and
conversely that a monitor ends as soon as it is told one of these things.
-/

namespace RunOperator

/-- The action puts no error in the way of calls that denies a run. -/
def Action.DeniesNoRun (a : Action) : Prop := ∀ lane, ∀ e ∈ a.injected lane, e.isNotFound = false

namespace Store

/-- No error in the way of calls denies a run. -/
def DeniesNoRun (s : Store) : Prop := ∀ lane, ∀ e ∈ s.queue lane, e.isNotFound = false

/-- The stored object of the run is in the given state. -/
def HoldsState (s : Store) (k : RunKey) (state : RunState) : Prop :=
  ∃ r, s.runs.get? k = some r ∧ r.state = .ok state

/-- What is stored of a run is a reason to end, for a monitor that reads it, and how to end. -/
inductive ForcesEnd (s : Store) (k : RunKey) : MonitorExit → Prop where
  | finished {state : RunState} : s.HoldsState k state → state.isFinal = true →
      ForcesEnd s k (.finished state)
  | unreadable {r : Run} {cause : LifecycleError} : s.runs.get? k = some r →
      r.state = .error cause → ForcesEnd s k .invalidState
  | absent : s.runs.get? k = none → ForcesEnd s k .vanished

variable {s : Store} {k : RunKey} {call : ClientCall} {e : ClientError}

/-- A run that is denied by what is stored is not there. -/
theorem get?_eq_none_of_refusal (hrefusal : call.refusal? s = some e)
    (hdenied : e.isNotFound = true) : s.runs.get? call.key = none := by
  cases call with
  | pods k => cases hrefusal
  | get k =>
    rw [ClientCall.refusal?, KeyMap.contains] at hrefusal
    split at hrefusal
    · cases hrefusal
    · next habsent =>
      rw [ClientCall.key]
      simpa using habsent
  | replace r =>
    rw [ClientCall.refusal?] at hrefusal
    split at hrefusal
    · next habsent => exact habsent
    · split at hrefusal
      · cases hrefusal
      · cases hrefusal
        cases hdenied

/-- A run that is denied though no error in the way does so is not there. -/
theorem DeniesNoRun.get?_eq_none (hs : s.DeniesNoRun) (herror : call.error? s = some e)
    (hdenied : e.isNotFound = true) : s.runs.get? call.key = none := by
  cases hlane : call.lane? with
  | none =>
    cases call with
    | pods k => cases herror
    | get k | replace r => cases hlane
  | some lane =>
    rw [ClientCall.error?_eq hlane] at herror
    cases hqueue : s.queue lane with
    | nil =>
      rw [hqueue, List.head?_nil, Option.none_or] at herror
      exact get?_eq_none_of_refusal herror hdenied
    | cons e' rest =>
      rw [hqueue, List.head?_cons, Option.some_or] at herror
      have hfound := hs lane e' (by rw [hqueue]; exact List.mem_cons_self)
      rw [Option.some.inj herror] at hfound
      cases hfound.symm.trans hdenied

/-- A poll that reads what forces its monitor to end is over with that. -/
theorem ForcesEnd.afterRead {exit : MonitorExit} (h : s.ForcesEnd k exit)
    (hunhindered : s.queue (.reads k) = []) :
    ∃ result, Poll.afterRead (s.get k).1 = .finish result ∧
      Poll.conclusion? result = some exit := by
  have hfound {r : Run} (hr : s.runs.get? k = some r) : (s.get k).1 = .ok r :=
    get_eq_ok_iff.2 ⟨hunhindered, hr⟩
  cases h with
  | @finished state hholds hfinal =>
    obtain ⟨r, hr, hstate⟩ := hholds
    refine ⟨.ok (.done state), ?_, rfl⟩
    simp [hfound hr, Poll.afterRead, Poll.ofRun, hstate, hfinal]
  | @unreadable r cause hr hstate =>
    refine ⟨.error (.invalidState cause), ?_, rfl⟩
    simp [hfound hr, Poll.afterRead, Poll.ofRun, hstate]
  | absent habsent =>
    refine ⟨.error (.client (.runNotFound k)), ?_, rfl⟩
    have hqueue : s.getFailures.getD k [] = [] := hunhindered
    simp [get, hqueue, habsent, Poll.afterRead]

/-- An empty store denies no run. -/
theorem deniesNoRun_empty : Store.empty.DeniesNoRun := by
  intro lane e he
  cases lane <;> cases he

end Store

namespace Monitor

variable {settings : Settings} {wall : Instant} {now : Nat} {cancelled : Bool} {m m' : Monitor}
  {s s' : Store} {e : MonitorExit}

/-- The reasons for which a monitor ends with a step, and how it ends with each. -/
inductive Reason (now : Nat) (m : Monitor) (s : Store) : Bool → MonitorExit → Prop where
  /-- It was cancelled. -/
  | cancelled : Reason now m s true .cancelled
  /-- It has read its run in a final state. -/
  | read {r : Run} {state : RunState} : m.call? now false = some (.get m.lease.key) →
      (s.get m.lease.key).1 = .ok r → r.state = .ok state → state.isFinal = true →
      Reason now m s false (.finished state)
  /-- It has read its run in no state. -/
  | unreadable {r : Run} {cause : LifecycleError} : m.call? now false = some (.get m.lease.key) →
      (s.get m.lease.key).1 = .ok r → r.state = .error cause →
      Reason now m s false .invalidState
  /-- A call has denied the run. -/
  | denied {call : ClientCall} {cause : ClientError} : m.call? now false = some call →
      call.error? s = some cause → cause.isNotFound = true → Reason now m s false .vanished
  /-- It has replaced its run by one in a final state. -/
  | wrote {c : Call} {r written : Run} {target : RunState} : m.phase = .writing c r target →
      m.call? now false = some (.replace r) → (s.replace r).1 = .ok written →
      target.isFinal = true → Reason now m s false (.finished target)
  /-- Too many polls in a row have failed. -/
  | gaveUp : Reason now m s false .retriesExhausted

/-- A poll that fails with the error of a call ends the monitor only if the run is denied, or too
many polls in a row have failed. -/
theorem exit?_afterPoll_client {cause : ClientError}
    (h : (m.afterPoll settings now (.error (.client cause))).exit? = some e) :
    cause.isNotFound = true ∧ e = .vanished ∨ e = .retriesExhausted := by
  rw [afterPoll] at h
  split at h
  · next hdenied => exact Or.inl ⟨hdenied, (Option.some.inj h).symm⟩
  · split at h
    · exact Or.inr (Option.some.inj h).symm
    · cases h

/-- Every end of a monitor has one of these reasons. -/
theorem Step.reason (h : Step settings wall now m s cancelled m' s') (hexit : m'.exit? = some e) :
    Reason now m s cancelled e := by
  have hclient (call : ClientCall) {cause : ClientError} (hcall : m.call? now false = some call)
      (herror : call.error? s = some cause)
      (hexit : (m.afterPoll settings now (.error (.client cause))).exit? = some e) :
      Reason now m s false e := by
    rcases exit?_afterPoll_client hexit with ⟨hdenied, rfl⟩ | rfl
    · exact .denied hcall herror hdenied
    · exact .gaveUp
  cases h with
  | stops _ =>
    cases hexit
    exact .cancelled
  | wakes _ _ | reads _ _ _ _ _ | decides _ _ _ _ | keeps _ _ _ => cases hexit
  | timesOut _ _ _ =>
    rcases exit?_afterPoll_client hexit with ⟨hdenied, -⟩ | rfl
    · cases hdenied
    · exact .gaveUp
  | readFails hphase heffect hanswer =>
    refine hclient (.get m.lease.key) (by simp [call?, hphase, heffect]) ?_ hexit
    rw [ClientCall.error?, hanswer]
    rfl
  | readEnds hphase heffect hanswer hrun =>
    have hcall : m.call? now false = some (.get m.lease.key) := by simp [call?, hphase, heffect]
    unfold Poll.ofRun at hrun
    split at hrun
    · next cause hstate =>
      cases hrun
      cases hexit
      exact .unreadable hcall hanswer hstate
    · next state hstate =>
      split at hrun
      · next hfinal =>
        cases hrun
        cases hexit
        exact .read hcall hanswer hstate hfinal
      · cases hrun
  | @writeFails c r target cause hphase heffect hanswer =>
    refine hclient (.replace r) (by simp [call?, hphase, heffect]) ?_ hexit
    rw [ClientCall.error?, hanswer]
    rfl
  | @writes c r written target hphase heffect hanswer =>
    cases hfinal : target.isFinal with
    | false =>
      rw [hfinal] at hexit
      cases hexit
    | true =>
      rw [hfinal] at hexit
      cases hexit
      exact .wrote hphase (by simp [call?, hphase, heffect]) hanswer hfinal

/-- Whoever makes a call is in the middle of a poll. -/
theorem isPolling_of_call? {call : ClientCall} (h : m.call? now cancelled = some call) :
    m.isPolling = true := by
  unfold call? at h
  split at h
  · cases h
  · cases hphase : m.phase <;> simp_all [isPolling, Phase.call?]

/-- A step within a poll leads past the reading of the run. -/
theorem Step.hasRead (h : Step settings wall now m s cancelled m' s')
    (hpolling : m.isPolling = true) (hstill : m'.isPolling = true) : m'.hasRead = true := by
  cases h with
  | stops _ => cases hstill
  | wakes hphase _ =>
    rw [isPolling, hphase] at hpolling
    cases hpolling
  | reads _ _ _ _ _ | decides _ _ _ _ => rfl
  | _ => simp at hstill

end Monitor

namespace World

variable {w : World} {h : List Action} {a : Action} {number first last t : Nat} {m : Monitor}
  {e : MonitorExit} {call : ClientCall}

/-- A store that denies no run goes on so, as long as nobody makes it deny one. -/
theorem deniesNoRun_act (hw : w.store.DeniesNoRun) (ha : a.DeniesNoRun) :
    (w.act a).store.DeniesNoRun := by
  intro lane e he
  rw [queue_act, List.mem_append] at he
  rcases he with he | he
  · split at he
    · exact hw lane e (List.mem_of_mem_tail he)
    · exact hw lane e he
  · exact ha lane e he

/-! ### Polls in a history -/

/-- What holds of a poll does not depend on what comes later. -/
theorem PollsFrom.append (hpoll : PollsFrom w h number first last) (hle : last ≤ h.length)
    (more : List Action) : PollsFrom w (h ++ more) number first last where
  lt := hpoll.lt
  begins := by
    rw [afterFirst_append w more (Nat.le_trans (Nat.le_of_lt hpoll.lt) hle)]
    exact hpoll.begins
  lasts := by
    intro t hfirst hlast
    rw [afterFirst_append w more (Nat.le_trans hlast hle)]
    exact hpoll.lasts t hfirst hlast

/-- A monitor that is in the middle of a poll has begun it somewhere. -/
theorem exists_pollsFrom (hw : w.monitors = [])
    (hpolling : (w.after h).Shows number Monitor.isPolling) :
    ∃ first, PollsFrom w h number first h.length := by
  induction h using List.reverseRecOn with
  | nil =>
    obtain ⟨m, hm, -⟩ := hpolling
    rw [after_nil, hw] at hm
    cases hm
  | append_singleton h a ih =>
    have hlast : (w.afterFirst (h ++ [a]) (h.length + 1)).Shows number Monitor.isPolling := by
      rw [afterFirst_of_length_le w (by simp)]
      exact hpolling
    rw [List.length_append, List.length_singleton]
    by_cases hbefore : (w.after h).Shows number Monitor.isPolling
    · -- The poll was under way before, and goes on.
      obtain ⟨first, hpoll⟩ := ih hbefore
      have hearlier := hpoll.append (Nat.le_refl _) [a]
      refine ⟨first, Nat.lt_succ_of_lt hpoll.lt, hearlier.begins, ?_⟩
      intro t hfirst ht
      rcases Nat.lt_or_eq_of_le ht with hlt | rfl
      · exact hearlier.lasts t hfirst (Nat.le_of_lt_succ hlt)
      · exact hlast
    · refine ⟨h.length, Nat.lt_succ_self _, ?_, ?_⟩
      · rwa [afterFirst_length_append]
      · intro t hfirst ht
        obtain rfl : t = h.length + 1 := by omega
        exact hlast

/-- When a monitor goes on with its poll after a call, it has read the run. -/
theorem hasRead_of_call (hcall : w.call? number = some call)
    (hstill : (w.act (.monitor number)).Shows number Monitor.isPolling) :
    (w.act (.monitor number)).Shows number Monitor.hasRead := by
  obtain ⟨m, hm, hmcall⟩ := call?_eq_some hcall
  obtain ⟨m', s', hstep⟩ : ∃ m' s', m.step? w.settings w.wall w.clock
      (w.registry.isCancelled m.lease.id) w.store = some (m', s') :=
    Monitor.exists_step_of_call? hmcall
  have hmoved : (w.act (.monitor number)).monitors[number]? = some m' := by
    rw [act, nudgeMonitor, moveMonitor?_of_step? hm hstep, Option.getD_some]
    exact List.getElem?_set_self (List.getElem?_eq_some_iff.1 hm).1
  obtain ⟨m'', hm'', hpolling⟩ := hstill
  obtain rfl := Option.some.inj (hmoved.symm.trans hm'')
  exact ⟨m', hmoved,
    (Monitor.step_of_step? hstep).hasRead (Monitor.isPolling_of_call? hmcall) hpolling⟩

/-- A monitor that has read its run has done so until its poll ends. -/
theorem hasRead_act (hread : w.Shows number Monitor.hasRead)
    (hstill : (w.act a).Shows number Monitor.isPolling) :
    (w.act a).Shows number Monitor.hasRead := by
  obtain ⟨m, hm, hread⟩ := hread
  obtain ⟨m', hm', hpolling⟩ := hstill
  refine ⟨m', hm', ?_⟩
  cases fate_of_act hm' with
  | kept hkept =>
    obtain rfl := Option.some.inj (hm.symm.trans hkept)
    exact hread
  | moved m₀ _ hm₀ hstep =>
    obtain rfl := Option.some.inj (hm.symm.trans hm₀)
    refine (Monitor.step_of_step? hstep).hasRead ?_ hpolling
    cases hphase : m.phase <;> simp_all [Monitor.hasRead, Monitor.isPolling, Phase.call?]
  | aborted m₀ _ _ heq =>
    rw [heq] at hpolling
    cases hpolling
  | started lease hle _ =>
    have hlt := (List.getElem?_eq_some_iff.1 hm).1
    omega

/-- A poll that goes on after a call has read the run ever since. -/
theorem PollsFrom.hasRead (hpoll : PollsFrom w h number first last) (hle : last ≤ h.length)
    (hfirst : first ≤ t) (ht : h[t]? = some (.monitor number))
    (hcall : (w.afterFirst h t).call? number = some call) {u : Nat} (htu : t < u)
    (hlast : u ≤ last) : (w.afterFirst h u).Shows number Monitor.hasRead := by
  induction u, htu using Nat.le_induction with
  | base =>
    have hstill := hpoll.lasts (t + 1) (by omega) hlast
    rw [afterFirst_succ w ht] at hstill ⊢
    exact hasRead_of_call hcall hstill
  | succ u htu ih =>
    have hstill := hpoll.lasts (u + 1) (by omega) hlast
    have hlt : u < h.length := by omega
    rw [afterFirst_succ w (List.getElem?_eq_getElem hlt)] at hstill ⊢
    exact hasRead_act (ih (by omega)) hstill

/-- Before a poll reads the run it makes no call. -/
theorem PollsFrom.call?_eq_none (hpoll : PollsFrom w h number first last) (hle : last ≤ h.length)
    (hunread : ¬ (w.afterFirst h last).Shows number Monitor.hasRead) (hfirst : first ≤ t)
    (hlast : t < last) (ht : h[t]? = some (.monitor number)) :
    (w.afterFirst h t).call? number = none := by
  cases hcall : (w.afterFirst h t).call? number with
  | none => rfl
  | some call => exact absurd (hpoll.hasRead hle hfirst ht hcall hlast (Nat.le_refl _)) hunread

/-! ### Ends in a history -/

/-- A monitor that has ended, and was not aborted, has ended with one of its moves. -/
theorem exists_end (hw : w.monitors = []) (hm : (w.after h).monitors[number]? = some m)
    (hexit : m.exit? = some e) (hne : e ≠ .aborted) :
    ∃ last m₀ s', h[last]? = some (.monitor number) ∧
      (w.afterFirst h last).monitors[number]? = some m₀ ∧
      m₀.step? (w.afterFirst h last).settings (w.afterFirst h last).wall
        (w.afterFirst h last).clock ((w.afterFirst h last).registry.isCancelled m₀.lease.id)
        (w.afterFirst h last).store = some (m, s') ∧
      (w.afterFirst h (last + 1)).monitors[number]? = some m := by
  induction h using List.reverseRecOn with
  | nil =>
    rw [after_nil, hw] at hm
    cases hm
  | append_singleton h a ih =>
    rw [after_concat] at hm
    cases fate_of_act hm with
    | kept hkept =>
      obtain ⟨last, m₀, s', hlast, hm₀, hstep, hended⟩ := ih hkept
      have hlt := (List.getElem?_eq_some_iff.1 hlast).1
      refine ⟨last, m₀, s', ?_, ?_⟩
      · rwa [List.getElem?_append_left hlt]
      · rw [afterFirst_append w [a] (Nat.le_of_lt hlt), afterFirst_append w [a] hlt]
        exact ⟨hm₀, hstep, hended⟩
    | moved m₀ ha hm₀ hstep =>
      subst ha
      refine ⟨h.length, m₀, ((w.after h).act (.monitor number)).store,
        List.getElem?_concat_length, ?_⟩
      rw [afterFirst_length_append, afterFirst_of_length_le w (by simp), after_concat]
      exact ⟨hm₀, hstep, hm⟩
    | aborted m₀ _ _ heq =>
      rw [heq] at hexit
      exact absurd (Option.some.inj hexit).symm hne
    | started lease _ heq =>
      rw [heq] at hexit
      cases hexit

/-- The last poll of a monitor has ended with a call, and the monitor with the poll. -/
structure EndsOn (w : World) (h : List Action) (number : Nat) (m : Monitor) (first last : Nat)
    (call : ClientCall) : Prop where
  poll : PollsFrom w h number first last
  move : h[last]? = some (.monitor number)
  called : (w.afterFirst h last).call? number = some call
  ended : (w.afterFirst h (last + 1)).monitors[number]? = some m
  /-- The call was about the run of the monitor, as long as nobody gives a run another key. -/
  own : (∀ c, .store c ∈ h → c.KeepsKeys) → call.key = m.lease.key

/-- A call with which a monitor has ended was the last of its last poll. -/
theorem exists_endsOn (hw : w.monitors = []) (hfiled : w.store.Filed) {m₀ : Monitor} {s' : Store}
    (hlast : h[last]? = some (.monitor number))
    (hm₀ : (w.afterFirst h last).monitors[number]? = some m₀)
    (hcall : m₀.call? (w.afterFirst h last).clock
      ((w.afterFirst h last).registry.isCancelled m₀.lease.id) = some call)
    (hstep : m₀.step? (w.afterFirst h last).settings (w.afterFirst h last).wall
      (w.afterFirst h last).clock ((w.afterFirst h last).registry.isCancelled m₀.lease.id)
      (w.afterFirst h last).store = some (m, s'))
    (hended : (w.afterFirst h (last + 1)).monitors[number]? = some m) :
    ∃ first, EndsOn w h number m first last call := by
  have hle := Nat.le_of_lt (List.getElem?_eq_some_iff.1 hlast).1
  have hlength : (h.take last).length = last := List.length_take_of_le hle
  have hpolling : (w.after (h.take last)).Shows number Monitor.isPolling :=
    ⟨m₀, hm₀, Monitor.isPolling_of_call? hcall⟩
  obtain ⟨first, hpoll⟩ := exists_pollsFrom hw hpolling
  have hwhole := hpoll.append (Nat.le_refl _) (h.drop last)
  rw [List.take_append_drop, hlength] at hwhole
  refine ⟨first, hwhole, hlast, ?_, hended, ?_⟩
  · rw [call?, hm₀, Option.bind_some, hcall]
  · intro hkeys
    have hkeys' : ∀ c, .store c ∈ h.take last → c.KeepsKeys :=
      fun c hc => hkeys c (List.mem_of_mem_take hc)
    rw [(Monitor.step_of_step? hstep).lease_eq]
    exact (key_of_call? hw hfiled hkeys' hm₀ hcall).symm

/-- A poll that gives a monitor a reason to end ends it, and the monitor makes no call any more. -/
theorem exits_of_conclusion {result : PollResult}
    (hends : w.ends number (.monitor number) = some result)
    (hconclusion : Poll.conclusion? result = some e) :
    (∃ m, (w.act (.monitor number)).monitors[number]? = some m ∧ m.exit? = some e) ∧
      ∀ later, ((w.act (.monitor number)).after later).call? number = none := by
  cases hm : w.monitors[number]? with
  | none => cases (ends_of_no_monitor hm).symm.trans hends
  | some m =>
    obtain ⟨m', hm', hcourse⟩ := exists_course_act hm (.monitor number)
    rw [hends] at hcourse
    cases hcourse with
    | completes _ =>
      rw [Monitor.afterPoll_of_conclusion hconclusion] at hm'
      refine ⟨⟨_, hm', rfl⟩, call?_after_of_idle hm' ?_⟩
      rintro ⟨hlive, -⟩
      cases hlive

/-- The poll of a monitor that reads its run ends with that if the answer ends it. -/
theorem ends_of_reading {k : RunKey} {result : PollResult}
    (hcall : w.call? number = some (.get k))
    (hresult : Poll.afterRead (w.store.get k).1 = .finish result) :
    w.ends number (.monitor number) = some result := by
  obtain ⟨m, hm, hmcall⟩ := call?_eq_some hcall
  obtain ⟨hcancelled, rfl, c, hphase, heffect⟩ := Monitor.call?_eq_get hmcall
  obtain ⟨hdue, htimesOut⟩ := Call.takesEffect_iff.1 heffect
  rw [ends_monitor, outcome?_of_monitor hm]
  simp [Monitor.outcome?, Monitor.verdict?, hphase, Phase.call?, hcancelled, hdue,
    Monitor.answerOf, htimesOut, hresult, PollStep.result?]

/-- A monitor that is about to read its run has not read it yet. -/
theorem not_hasRead_of_get {k : RunKey} (hcall : w.call? number = some (.get k)) :
    ¬ w.Shows number Monitor.hasRead := by
  rintro ⟨m, hm, hread⟩
  rw [call?, hm, Option.bind_some] at hcall
  obtain ⟨-, -, c, hphase, -⟩ := Monitor.call?_eq_get hcall
  rw [Monitor.hasRead, hphase] at hread
  cases hread

/-- What a monitor has written is in the state that it was moved to. -/
theorem state_of_writing (hw : w.monitors = []) {c : Call} {r written : Run} {target : RunState}
    (hm : (w.after h).monitors[number]? = some m) (hphase : m.phase = .writing c r target)
    (hwritten : ((w.after h).store.replace r).1 = .ok written) : written.state = .ok target := by
  obtain ⟨_, read, _, _, current, wall, -, -, -, -, -, -, -, rfl⟩ :=
    record_of_writing hw h hm hphase
  rw [(Store.replace_eq_ok_iff.1 hwritten).2.2]
  exact Run.state_transition read current target wall _

/-- A monitor that was not aborted has ended for a reason, with the call of its last poll if the
reason is about a call. -/
theorem exists_reason (hw : w.monitors = []) (hfiled : w.store.Filed)
    (hm : (w.after h).monitors[number]? = some m) (hexit : m.exit? = some e)
    (hne : e ≠ .aborted) :
    ∃ last m₀, h[last]? = some (.monitor number) ∧
      (w.afterFirst h last).monitors[number]? = some m₀ ∧ m.lease = m₀.lease ∧
      (w.afterFirst h (last + 1)).monitors[number]? = some m ∧
      m₀.Reason (w.afterFirst h last).clock (w.afterFirst h last).store
        ((w.afterFirst h last).registry.isCancelled m₀.lease.id) e ∧
      ∀ call, m₀.call? (w.afterFirst h last).clock
        ((w.afterFirst h last).registry.isCancelled m₀.lease.id) = some call →
        ∃ first, EndsOn w h number m first last call := by
  obtain ⟨last, m₀, s', hlast, hm₀, hstep, hended⟩ := exists_end hw hm hexit hne
  have hmove := Monitor.step_of_step? hstep
  exact ⟨last, m₀, hlast, hm₀, hmove.lease_eq, hended, hmove.reason hexit,
    fun call hcall => exists_endsOn hw hfiled hlast hm₀ hcall hstep hended⟩

/-- A run was in the final state that its monitor tells of. -/
theorem endsOn_of_finished (hw : w.monitors = []) (hfiled : w.store.Filed) {state : RunState}
    (hm : (w.after h).monitors[number]? = some m) (hexit : m.exit? = some (.finished state)) :
    state.isFinal = true ∧ ∃ first last,
      (EndsOn w h number m first last (.get m.lease.key) ∧
        (w.afterFirst h last).store.HoldsState m.lease.key state) ∨
      ∃ r, EndsOn w h number m first last (.replace r) ∧
        (w.afterFirst h (last + 1)).store.HoldsState r.key state := by
  obtain ⟨last, m₀, hlast, hm₀, hlease, -, hreason, hcalls⟩ :=
    exists_reason hw hfiled hm hexit (by simp)
  rw [hlease]
  generalize Registry.isCancelled _ _ = cancelled at hreason hcalls
  cases hreason with
  | @read r _ hcall hanswer hstate hfinal =>
    obtain ⟨first, hends⟩ := hcalls _ hcall
    exact ⟨hfinal, first, last, .inl ⟨hends, r, (Store.get_eq_ok_iff.1 hanswer).2, hstate⟩⟩
  | @wrote c r written _ hphase hcall hanswer hfinal =>
    obtain ⟨first, hends⟩ := hcalls _ hcall
    refine ⟨hfinal, first, last, .inr ⟨r, hends, written, ?_, ?_⟩⟩
    · rw [afterFirst_succ _ hlast]
      exact get?_act_of_replace hends.called hanswer
    · exact state_of_writing hw hm₀ hphase hanswer

/-- A run was missing that its monitor tells to be, where no error denied it. -/
theorem endsOn_of_vanished (hw : w.monitors = []) (hfiled : w.store.Filed)
    (hdenies : ∀ t, (w.afterFirst h t).store.DeniesNoRun)
    (hm : (w.after h).monitors[number]? = some m) (hexit : m.exit? = some .vanished) :
    ∃ first last call, EndsOn w h number m first last call ∧
      (call = .get m.lease.key ∨ ∃ r, call = .replace r) ∧
      (w.afterFirst h last).store.runs.get? call.key = none := by
  obtain ⟨last, m₀, -, -, hlease, -, hreason, hcalls⟩ :=
    exists_reason hw hfiled hm hexit (by simp)
  generalize Registry.isCancelled _ _ = cancelled at hreason hcalls
  cases hreason with
  | @denied call cause hcall herror hdenied =>
    obtain ⟨first, hends⟩ := hcalls _ hcall
    refine ⟨first, last, call, hends, ?_, (hdenies last).get?_eq_none herror hdenied⟩
    cases call with
    | get k =>
      rw [hlease, (Monitor.call?_eq_get hcall).2.1]
      exact .inl rfl
    | replace r => exact .inr ⟨r, rfl⟩
    | pods k => cases herror

/-- A monitor that tells of a state that is none has read such a state. -/
theorem endsOn_of_invalidState (hw : w.monitors = []) (hfiled : w.store.Filed)
    (hm : (w.after h).monitors[number]? = some m) (hexit : m.exit? = some .invalidState) :
    ∃ first last r text cause, EndsOn w h number m first last (.get m.lease.key) ∧
      ((w.afterFirst h last).store.get m.lease.key).1 = .ok r ∧ r.spec.state = some text ∧
      RunState.parse text = .error cause := by
  obtain ⟨last, m₀, -, -, hlease, -, hreason, hcalls⟩ :=
    exists_reason hw hfiled hm hexit (by simp)
  rw [hlease]
  generalize Registry.isCancelled _ _ = cancelled at hreason hcalls
  cases hreason with
  | @unreadable r cause hcall hanswer hstate =>
    obtain ⟨first, hends⟩ := hcalls _ hcall
    cases hword : r.spec.state with
    | none =>
      rw [Run.state, hword] at hstate
      cases hstate
    | some text =>
      rw [Run.state, hword] at hstate
      exact ⟨first, last, r, text, cause, hends, hanswer, hword, hstate⟩

/-- A monitor that tells that it was cancelled was cancelled. -/
theorem isCancelled_of_exit (hw : w.monitors = []) (hfiled : w.store.Filed)
    (hm : (w.after h).monitors[number]? = some m) (hexit : m.exit? = some .cancelled) :
    ∃ last, h[last]? = some (.monitor number) ∧
      (w.afterFirst h last).registry.isCancelled m.lease.id = true ∧
      (w.afterFirst h (last + 1)).monitors[number]? = some m := by
  obtain ⟨last, m₀, hlast, -, hlease, hended, hreason, -⟩ :=
    exists_reason hw hfiled hm hexit (by simp)
  refine ⟨last, hlast, ?_, hended⟩
  rw [hlease]
  generalize Registry.isCancelled _ _ = cancelled at hreason ⊢
  cases hreason
  rfl

/-- A monitor that has written a final state ends and makes no client call any more. -/
theorem exits_of_writing (hw : w.monitors = []) {r written : Run} {state : RunState}
    (hcall : (w.after h).call? number = some (.replace r))
    (hwritten : ((w.after h).store.replace r).1 = .ok written) (hstate : written.state = .ok state)
    (hfinal : state.isFinal = true) :
    (∃ m, ((w.after h).act (.monitor number)).monitors[number]? = some m ∧
      m.exit? = some (.finished state)) ∧
    ∀ later, (((w.after h).act (.monitor number)).after later).call? number = none := by
  obtain ⟨m, hm, hmcall⟩ := call?_eq_some hcall
  obtain ⟨-, c, target, hphase, -⟩ := Monitor.call?_eq_replace hmcall
  have htarget : written.state = .ok target := state_of_writing hw hm hphase hwritten
  obtain rfl : state = target := by simpa using hstate.symm.trans htarget
  have hends := ends_of_writing hm hphase hcall hwritten
  rw [if_pos hfinal] at hends
  exact exits_of_conclusion hends rfl

/-- The monitor ends in this way with the last move of the poll. It has made no client call in the
poll before, and it never makes one again. -/
structure Settles (w : World) (h : List Action) (number first last : Nat) (e : MonitorExit) :
    Prop where
  exits : ∃ m, (w.afterFirst h (last + 1)).monitors[number]? = some m ∧ m.exit? = some e
  only : ∀ t, first ≤ t → t < last → h[t]? = some (.monitor number) →
    (w.afterFirst h t).call? number = none
  silent : ∀ later, ((w.afterFirst h (last + 1)).after later).call? number = none

/-- A poll that reads what forces its monitor to end settles it. -/
theorem settles_of_reading {k : RunKey} (hpoll : PollsFrom w h number first last)
    (hmove : h[last]? = some (.monitor number))
    (hcall : (w.afterFirst h last).call? number = some (.get k))
    (hunhindered : (w.afterFirst h last).store.queue (.reads k) = [])
    (hforces : (w.afterFirst h last).store.ForcesEnd k e) : Settles w h number first last e := by
  obtain ⟨result, hresult, hconclusion⟩ := hforces.afterRead hunhindered
  obtain ⟨hexits, hsilent⟩ := exits_of_conclusion (ends_of_reading hcall hresult) hconclusion
  rw [← afterFirst_succ w hmove] at hexits hsilent
  have hle := Nat.le_of_lt (List.getElem?_eq_some_iff.1 hmove).1
  have hunread := not_hasRead_of_get hcall
  exact ⟨hexits, fun t hfirst hlast => hpoll.call?_eq_none hle hunread hfirst hlast, hsilent⟩

/-! ### The main statement -/

/-- What the exit of a monitor tells is true, and what it would tell makes the monitor end. -/
structure TellsTheTruth (w : World) (h : List Action) (number : Nat) : Prop where
  /-- The run was in the final state when the last poll read it, or right after the last poll
  replaced it. -/
  finished : ∀ m state, (w.after h).monitors[number]? = some m →
    m.exit? = some (.finished state) → state.isFinal = true ∧ ∃ first last,
      (EndsOn w h number m first last (.get m.lease.key) ∧
        (w.afterFirst h last).store.HoldsState m.lease.key state) ∨
      ∃ r, EndsOn w h number m first last (.replace r) ∧
        (w.afterFirst h (last + 1)).store.HoldsState r.key state
  /-- The run was not there when the last poll was to read or to replace it. -/
  vanished : ∀ m, (w.after h).monitors[number]? = some m → m.exit? = some .vanished →
    ∃ first last call, EndsOn w h number m first last call ∧
      (call = .get m.lease.key ∨ ∃ r, call = .replace r) ∧
      (w.afterFirst h last).store.runs.get? call.key = none
  /-- The last poll has read a state that is none. -/
  invalidState : ∀ m, (w.after h).monitors[number]? = some m → m.exit? = some .invalidState →
    ∃ first last r text cause, EndsOn w h number m first last (.get m.lease.key) ∧
      ((w.afterFirst h last).store.get m.lease.key).1 = .ok r ∧ r.spec.state = some text ∧
      RunState.parse text = .error cause
  /-- The lease was cancelled when the monitor ended. -/
  cancelled : ∀ m, (w.after h).monitors[number]? = some m → m.exit? = some .cancelled →
    ∃ last, h[last]? = some (.monitor number) ∧
      (w.afterFirst h last).registry.isCancelled m.lease.id = true ∧
      (w.afterFirst h (last + 1)).monitors[number]? = some m
  /-- A poll that reads what forces the monitor to end does nothing else. -/
  reads : ∀ first last k e, PollsFrom w h number first last →
    h[last]? = some (.monitor number) → (w.afterFirst h last).call? number = some (.get k) →
    (w.afterFirst h last).store.queue (.reads k) = [] →
    (w.afterFirst h last).store.ForcesEnd k e → Settles w h number first last e
  /-- When a final state was written, the monitor ends and makes no client call any more. -/
  writes : ∀ place r written state, h[place]? = some (.monitor number) →
    (w.afterFirst h place).call? number = some (.replace r) →
    ((w.afterFirst h place).store.replace r).1 = .ok written → written.state = .ok state →
    state.isFinal = true →
    (∃ m, (w.afterFirst h (place + 1)).monitors[number]? = some m ∧
      m.exit? = some (.finished state)) ∧
    ∀ later, ((w.afterFirst h (place + 1)).after later).call? number = none

/-- **The exit of a monitor tells the truth.** Take any history in which no error that denies a run
is put in the way of calls, whatever else is done to the store and fails meanwhile.

A monitor that has ended tells what was so at the instant of the last call of its last poll. It
tells of a final state that was stored when the run was read, or right after it was replaced; of a
run that was missing when it was to be read or replaced; of a stored state that is none; or of a
lease that was cancelled. Conversely a poll that reads one of the first three ends the monitor
accordingly, without another client call, and a monitor that has written a final state makes none
after that. -/
theorem exits_tell_the_truth (settings : Settings) (wall : Instant) (h : List Action)
    (hdenies : ∀ a ∈ h, a.DeniesNoRun) (number : Nat) :
    TellsTheTruth (initial settings wall) h number := by
  have hdeniesAt (t : Nat) : ((initial settings wall).afterFirst h t).store.DeniesNoRun :=
    Along.invariant (fun w => w.store.DeniesNoRun) (fun w a ha hw => deniesNoRun_act hw ha)
      (along_of_forall fun a ha => hdenies a (List.mem_of_mem_take ha)) Store.deniesNoRun_empty
  constructor
  case finished => exact fun m state => endsOn_of_finished rfl Store.filed_empty
  case vanished => exact fun m => endsOn_of_vanished rfl Store.filed_empty hdeniesAt
  case invalidState => exact fun m => endsOn_of_invalidState rfl Store.filed_empty
  case cancelled => exact fun m => isCancelled_of_exit rfl Store.filed_empty
  case reads => exact fun first last k e => settles_of_reading
  case writes =>
    intro place r written state hmove hcall hwritten hstate hfinal
    rw [afterFirst_succ _ hmove]
    exact exits_of_writing rfl hcall hwritten hstate hfinal

/-- The monitor of one run writes a final state. Another run cannot be read at first, and is deleted
then. The state of a third is none, and a fourth is deleted before its monitor begins. -/
def endingsHistory : List Action :=
  let stored (state : String) : RunSpec := { RunSpec.empty with state := some state }
  let a := Run.named "ns" "a" (stored "RUNNING")
  let b := Run.named "ns" "b" (stored "RUNNING")
  let c := Run.named "ns" "c" (stored "STALLED")
  let d := Run.named "ns" "d" (stored "RUNNING")
  [.store (.insert a), .store (.insert b), .store (.insert c), .store (.insert d),
    .store (.setPods a.key [.succeeded]), .store (.failGets b.key [.timeout]),
    .react (.create a.key), .react (.create b.key), .react (.create c.key), .react (.create d.key),
    .react (.delete d.key), .pass 1000, .monitor 3, .monitor 2, .monitor 0, .monitor 2, .monitor 1,
    .monitor 0, .monitor 1, .store (.delete b.key), .monitor 0, .monitor 0, .pass 1000, .monitor 1,
    .monitor 1]

/-- All four exits tell the truth. The state that is none ends the third monitor with the second
move of its poll, and the first has made no call since it has written the final state. -/
theorem exits_of_endingsHistory :
    (∀ a ∈ endingsHistory, a.DeniesNoRun) ∧
      ((initial .standard ⟨0, 0⟩).after endingsHistory).monitors.map Monitor.exit? =
        [some (.finished .complete), some .vanished, some .invalidState, some .cancelled] ∧
      (∀ number, TellsTheTruth (initial .standard ⟨0, 0⟩) endingsHistory number) ∧
      Settles (initial .standard ⟨0, 0⟩) endingsHistory 2 13 15 .invalidState ∧
      ∀ later, (((initial .standard ⟨0, 0⟩).afterFirst endingsHistory 22).after later).call? 0 =
        none := by
  have hdenies : ∀ a ∈ endingsHistory, a.DeniesNoRun := by
    simp [endingsHistory, Action.DeniesNoRun, Action.injected, StoreChange.injected,
      ClientError.isNotFound]
  have htells := exits_tell_the_truth .standard ⟨0, 0⟩ endingsHistory hdenies
  have hpoll : PollsFrom (initial .standard ⟨0, 0⟩) endingsHistory 2 13 15 := by
    refine ⟨by decide, ?_, ?_⟩
    · rintro ⟨m, hm, hpolling⟩
      cases hm
      cases hpolling
    · intro t hfirst hlast
      obtain rfl | rfl : t = 14 ∨ t = 15 := by omega
      all_goals exact ⟨_, rfl, rfl⟩
  refine ⟨hdenies, rfl, htells, ?_, ?_⟩
  · exact (htells 2).reads 13 15 _ _ hpoll rfl rfl rfl (.unreadable rfl rfl)
  · exact ((htells 0).writes 21 _ _ .complete rfl rfl rfl rfl rfl).2

end World

end RunOperator
