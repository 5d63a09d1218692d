import RunOperator.Monitor.Basic

/-!
# What a monitor does in one step

`Monitor.Step` lists what a step of a monitor can be: it stops because it was cancelled, wakes,
loses a call to its time limit, or receives the answer of a call and acts on it. Every step that
`Monitor.step?` makes is on the list (`step_of_step?`), so that a property of all steps is proved
by going through it.

The client call of a step, if it makes one, is given by `Monitor.call?`. It accounts for all that
the step does to the store (`store_of_step?`).
-/

namespace RunOperator

/-- Reading a run does not change how long calls take. -/
@[simp] theorem Store.latency_get (s : Store) (k : RunKey) : (s.get k).2.latency = s.latency := by
  unfold Store.get
  dsimp only
  split
  · rfl
  · split <;> rfl

/-- A call of the client to the store. -/
inductive ClientCall where
  | get (key : RunKey)
  | pods (key : RunKey)
  | replace (run : Run)

namespace ClientCall

/-- The run that a call is about. -/
def key : ClientCall → RunKey
  | get k | pods k => k
  | replace r => r.key

/-- The store after a call. -/
def effect (s : Store) : ClientCall → Store
  | get k => (s.get k).2
  | pods _ => s
  | replace r => (s.replace r).2

end ClientCall

/-- The call has an effect at the given instant: it is complete and was not given up. -/
def Call.takesEffect (c : Call) (now : Nat) : Bool := decide (c.due ≤ now) && !c.timesOut

/-- A call takes effect when it is due and its time is not over. -/
theorem Call.takesEffect_iff {c : Call} {now : Nat} :
    c.takesEffect now = true ↔ c.due ≤ now ∧ c.timesOut = false := by
  simp [Call.takesEffect]

/-- The call that a phase waits for. -/
def Phase.call? : Phase → Option Call
  | .reading c | .listing c _ _ | .writing c _ _ => some c
  | .sleeping _ | .ended _ => none

namespace Monitor

/-- The client call that takes effect with the next step of a monitor. -/
def call? (now : Nat) (cancelled : Bool) (m : Monitor) : Option ClientCall :=
  if cancelled then none
  else match m.phase with
    | .reading c => if c.takesEffect now then some (.get m.lease.key) else none
    | .listing c _ _ => if c.takesEffect now then some (.pods m.lease.key) else none
    | .writing c r _ => if c.takesEffect now then some (.replace r) else none
    | .sleeping _ | .ended _ => none

/-- A monitor that reads is in the middle of a read of its run, and was not cancelled. -/
theorem call?_eq_get {now : Nat} {cancelled : Bool} {m : Monitor} {k : RunKey}
    (h : m.call? now cancelled = some (.get k)) :
    cancelled = false ∧ m.lease.key = k ∧ ∃ c, m.phase = .reading c ∧ c.takesEffect now = true := by
  unfold call? at h
  split at h
  · cases h
  · split at h <;> (try split at h) <;> simp_all

/-- A monitor that lists pods has read its run, and was not cancelled. -/
theorem call?_eq_pods {now : Nat} {cancelled : Bool} {m : Monitor} {k : RunKey}
    (h : m.call? now cancelled = some (.pods k)) :
    cancelled = false ∧ m.lease.key = k ∧
      ∃ c r current, m.phase = .listing c r current ∧ c.takesEffect now = true := by
  unfold call? at h
  split at h
  · cases h
  · split at h <;> (try split at h) <;> simp_all

/-- A monitor that replaces a run is about to write it, and was not cancelled. -/
theorem call?_eq_replace {now : Nat} {cancelled : Bool} {m : Monitor} {r : Run}
    (h : m.call? now cancelled = some (.replace r)) :
    cancelled = false ∧ ∃ c target, m.phase = .writing c r target ∧ c.takesEffect now = true := by
  unfold call? at h
  split at h
  · cases h
  · split at h <;> (try split at h) <;> simp_all

variable (settings : Settings) (wall : Instant) (now : Nat)

/-- What a monitor can do in one step: the monitor and the store after each. -/
inductive Step (m : Monitor) (s : Store) : Bool → Monitor → Store → Prop where
  /-- It was cancelled. -/
  | stops : m.isOver = false → Step m s true (m.exitWith .cancelled) s
  /-- It begins a poll. -/
  | wakes {wake : Nat} : m.phase = .sleeping wake → wake ≤ now →
      Step m s false { m with phase := .reading (.begin settings now s.latency) } s
  /-- Its call is given up. -/
  | timesOut {c : Call} : m.phase.call? = some c → c.due ≤ now → c.timesOut = true →
      Step m s false (m.afterPoll settings now (.error (.client .timeout))) s
  /-- The run cannot be read. -/
  | readFails {c : Call} {e : ClientError} : m.phase = .reading c → c.takesEffect now = true →
      (s.get m.lease.key).1 = .error e →
      Step m s false (m.afterPoll settings now (.error (.client e))) (s.get m.lease.key).2
  /-- The run has a state that is final or no state, and the poll ends. -/
  | readEnds {c : Call} {r : Run} {result : PollResult} : m.phase = .reading c →
      c.takesEffect now = true → (s.get m.lease.key).1 = .ok r → Poll.ofRun r = .finish result →
      Step m s false (m.afterPoll settings now result) (s.get m.lease.key).2
  /-- The run is on its way, and its pods will be listed. -/
  | reads {c : Call} {r : Run} {current : RunState} : m.phase = .reading c →
      c.takesEffect now = true → (s.get m.lease.key).1 = .ok r → r.state = .ok current →
      current.isFinal = false →
      Step m s false { m with phase := .listing (.begin settings now s.latency) r current }
        (s.get m.lease.key).2
  /-- The state stays. -/
  | keeps {c : Call} {r : Run} {current : RunState} : m.phase = .listing c r current →
      c.takesEffect now = true →
      evaluate current r.cancelRequested (s.podsOf m.lease.key) = current →
      Step m s false (m.afterPoll settings now (.ok .pending)) s
  /-- The state has to change, and the run will be replaced. -/
  | decides {c : Call} {r : Run} {current target : RunState} : m.phase = .listing c r current →
      c.takesEffect now = true →
      evaluate current r.cancelRequested (s.podsOf m.lease.key) = target → target ≠ current →
      Step m s false { m with
        phase := .writing (.begin settings now s.latency) (r.transition current target wall) target }
        s
  /-- The run cannot be replaced. -/
  | writeFails {c : Call} {r : Run} {target : RunState} {e : ClientError} :
      m.phase = .writing c r target → c.takesEffect now = true → (s.replace r).1 = .error e →
      Step m s false (m.afterPoll settings now (.error (.client e))) (s.replace r).2
  /-- The run is replaced. -/
  | writes {c : Call} {r written : Run} {target : RunState} :
      m.phase = .writing c r target → c.takesEffect now = true → (s.replace r).1 = .ok written →
      Step m s false
        (m.afterPoll settings now (.ok (if target.isFinal then .done target else .pending)))
        (s.replace r).2

variable {settings wall now}

/-- A poll goes on with a run that it has read only if the run is in a state that is not final. -/
theorem ofRun_eq_next {r : Run} {next : Run × RunState} (h : Poll.ofRun r = .next next) :
    next.1 = r ∧ r.state = .ok next.2 ∧ next.2.isFinal = false := by
  unfold Poll.ofRun at h
  split at h
  · cases h
  · next current hstate =>
    split at h
    · cases h
    · next hfinal =>
      cases h
      exact ⟨rfl, hstate, by simpa using hfinal⟩

private theorem act_of_timesOut {m : Monitor} {s : Store} {c : Call}
    (hcall : m.phase.call? = some c) (htimesOut : c.timesOut = true) :
    m.act settings wall now s =
      (m.afterPoll settings now (.error (.client .timeout)), s) := by
  unfold act answerOf
  cases hphase : m.phase <;> simp only [hphase, Phase.call?, reduceCtorEq, Option.some.injEq] at hcall
  all_goals
    subst hcall
    simp only [htimesOut, if_true]
    rfl

private theorem step_of_act {m : Monitor} {s : Store} {due : Nat} (hdue : m.phase.due? = some due)
    (hnow : due ≤ now) :
    Step settings wall now m s false (m.act settings wall now s).1 (m.act settings wall now s).2 := by
  cases hphase : m.phase with
  | sleeping wake =>
    rw [hphase] at hdue
    cases hdue
    rw [act, hphase]
    exact .wakes hphase hnow
  | ended e =>
    rw [hphase] at hdue
    cases hdue
  | reading c =>
    rw [hphase] at hdue
    cases hdue
    cases htimesOut : c.timesOut with
    | true =>
      have hcall : m.phase.call? = some c := by rw [hphase]; rfl
      rw [act_of_timesOut hcall htimesOut]
      exact .timesOut hcall hnow htimesOut
    | false =>
      have heffect := Call.takesEffect_iff.2 ⟨hnow, htimesOut⟩
      simp only [act, hphase, answerOf, htimesOut, Bool.false_eq_true, if_false]
      cases hanswer : (s.get m.lease.key).1 with
      | error e => exact .readFails hphase heffect hanswer
      | ok r =>
        simp only [Poll.afterRead]
        cases hrun : Poll.ofRun r with
        | finish result => exact .readEnds hphase heffect hanswer hrun
        | next next =>
          obtain ⟨rfl, hstate, hfinal⟩ := ofRun_eq_next hrun
          simp only [proceed, Store.latency_get]
          exact .reads hphase heffect hanswer hstate hfinal
  | listing c r current =>
    rw [hphase] at hdue
    cases hdue
    cases htimesOut : c.timesOut with
    | true =>
      have hcall : m.phase.call? = some c := by rw [hphase]; rfl
      rw [act_of_timesOut hcall htimesOut]
      exact .timesOut hcall hnow htimesOut
    | false =>
      have heffect := Call.takesEffect_iff.2 ⟨hnow, htimesOut⟩
      simp only [act, hphase, answerOf, htimesOut, Bool.false_eq_true, if_false, Poll.afterList]
      by_cases htarget : evaluate current r.cancelRequested (s.podsOf m.lease.key) = current
      · rw [if_pos htarget]
        exact .keeps hphase heffect htarget
      · rw [if_neg htarget]
        exact .decides hphase heffect rfl htarget
  | writing c r target =>
    rw [hphase] at hdue
    cases hdue
    cases htimesOut : c.timesOut with
    | true =>
      have hcall : m.phase.call? = some c := by rw [hphase]; rfl
      rw [act_of_timesOut hcall htimesOut]
      exact .timesOut hcall hnow htimesOut
    | false =>
      have heffect := Call.takesEffect_iff.2 ⟨hnow, htimesOut⟩
      simp only [act, hphase, answerOf, htimesOut, Bool.false_eq_true, if_false]
      cases hanswer : (s.replace r).1 with
      | error e => exact .writeFails hphase heffect hanswer
      | ok written => exact .writes hphase heffect hanswer

/-- Every step of a monitor is one of those that `Step` lists. -/
theorem step_of_step? {m m' : Monitor} {s s' : Store} {cancelled : Bool}
    (h : m.step? settings wall now cancelled s = some (m', s')) :
    Step settings wall now m s cancelled m' s' := by
  unfold step? at h
  cases hdue : m.phase.due? with
  | none => simp [hdue] at h
  | some due =>
    simp only [hdue] at h
    cases cancelled with
    | true =>
      have hover : m.isOver = false := by
        unfold isOver exit?
        split
        · next e hphase =>
          rw [hphase] at hdue
          cases hdue
        · rfl
      cases h
      exact .stops hover
    | false =>
      simp only [Bool.false_eq_true, if_false] at h
      split at h
      · next hnow =>
        have hact : Step settings wall now m s false (m.act settings wall now s).1
            (m.act settings wall now s).2 := step_of_act hdue hnow
        rwa [Option.some.inj h] at hact
      · cases h

/-- A monitor that has ended makes no step. -/
theorem isOver_of_step? {m : Monitor} {s : Store} {cancelled : Bool} {next : Monitor × Store}
    (h : m.step? settings wall now cancelled s = some next) : m.isOver = false := by
  cases hphase : m.phase with
  | ended e => simp [step?, hphase, Phase.due?] at h
  | _ => simp [isOver, exit?, hphase]

/-- A step does nothing to the store but what its client call does. -/
theorem store_of_step? {m m' : Monitor} {s s' : Store} {cancelled : Bool}
    (h : m.step? settings wall now cancelled s = some (m', s')) :
    s' = ((m.call? now cancelled).map (ClientCall.effect s)).getD s := by
  cases step_of_step? h with
  | stops _ => rfl
  | wakes hphase _ => simp [call?, hphase]
  | timesOut hcall hdue htimesOut =>
    unfold call?
    cases hphase : m.phase <;>
      simp only [hphase, Phase.call?, reduceCtorEq, Option.some.injEq] at hcall
    all_goals
      subst hcall
      simp [Call.takesEffect, htimesOut]
  | readFails hphase heffect _ | readEnds hphase heffect _ _ | reads hphase heffect _ _ _ =>
    simp [call?, hphase, heffect, ClientCall.effect]
  | keeps hphase heffect _ | decides hphase heffect _ _ =>
    simp [call?, hphase, heffect, ClientCall.effect]
  | writeFails hphase heffect _ | writes hphase heffect _ =>
    simp [call?, hphase, heffect, ClientCall.effect]

/-- After a poll a monitor sleeps or has ended. -/
theorem phase_afterPoll (m : Monitor) (result : PollResult) :
    (∃ wake, (m.afterPoll settings now result).phase = .sleeping wake) ∨
      ∃ e, (m.afterPoll settings now result).phase = .ended e := by
  unfold afterPoll
  repeat' split
  all_goals first | exact Or.inl ⟨_, rfl⟩ | exact Or.inr ⟨_, rfl⟩

/-- A monitor keeps its lease. -/
@[simp] theorem lease_afterPoll (m : Monitor) (result : PollResult) :
    (m.afterPoll settings now result).lease = m.lease := by
  unfold afterPoll
  repeat' split
  all_goals rfl

/-- A monitor never gives up its lease for another. -/
theorem Step.lease_eq {m m' : Monitor} {s s' : Store} {cancelled : Bool}
    (h : Step settings wall now m s cancelled m' s') : m'.lease = m.lease := by
  cases h with
  | stops _ | wakes _ _ | reads _ _ _ _ _ | decides _ _ _ _ => rfl
  | _ => exact lease_afterPoll _ _

/-- A monitor that begins to list the pods has just read its run, in a state that is not final. -/
theorem Step.of_listing {m m' : Monitor} {s s' : Store} {cancelled : Bool} {c' : Call} {r : Run}
    {current : RunState} (h : Step settings wall now m s cancelled m' s')
    (hphase : m'.phase = .listing c' r current) :
    m.call? now cancelled = some (.get m.lease.key) ∧ (s.get m.lease.key).1 = .ok r ∧
      r.state = .ok current ∧ current.isFinal = false := by
  cases h with
  | reads hphase₀ heffect hanswer hstate hfinal =>
    cases hphase
    exact ⟨by simp [call?, hphase₀, heffect], hanswer, hstate, hfinal⟩
  | stops _ | wakes _ _ | decides _ _ _ _ => cases hphase
  | _ => rcases phase_afterPoll _ _ with ⟨wake, h⟩ | ⟨e, h⟩ <;> cases h.symm.trans hphase

/-- A monitor that begins to replace its run has just listed the pods, and they ask for another
state. -/
theorem Step.of_writing {m m' : Monitor} {s s' : Store} {cancelled : Bool} {c' : Call} {r : Run}
    {target : RunState} (h : Step settings wall now m s cancelled m' s')
    (hphase : m'.phase = .writing c' r target) :
    m.call? now cancelled = some (.pods m.lease.key) ∧
      ∃ c read current, m.phase = .listing c read current ∧
        target = evaluate current read.cancelRequested (s.podsOf m.lease.key) ∧
        target ≠ current ∧ r = read.transition current target wall := by
  cases h with
  | decides hphase₀ heffect htarget hne =>
    cases hphase
    exact ⟨by simp [call?, hphase₀, heffect], _, _, _, hphase₀, htarget.symm, hne, rfl⟩
  | stops _ | wakes _ _ | reads _ _ _ _ _ => cases hphase
  | _ => rcases phase_afterPoll _ _ with ⟨wake, h⟩ | ⟨e, h⟩ <;> cases h.symm.trans hphase

/-- A client call that is due is made by the next step. -/
theorem exists_step_of_call? {m : Monitor} {s : Store} {cancelled : Bool} {call : ClientCall}
    (h : m.call? now cancelled = some call) :
    ∃ m' s', m.step? settings wall now cancelled s = some (m', s') := by
  have hstep {c : Call} (hcancelled : cancelled = false) (hdue : m.phase.due? = some c.due)
      (heffect : c.takesEffect now = true) :
      ∃ m' s', m.step? settings wall now cancelled s = some (m', s') := by
    refine ⟨(m.act settings wall now s).1, (m.act settings wall now s).2, ?_⟩
    simp [step?, hdue, hcancelled, (Call.takesEffect_iff.1 heffect).1]
  cases call with
  | get k =>
    obtain ⟨hcancelled, -, c, hphase, heffect⟩ := call?_eq_get h
    exact hstep hcancelled (by rw [hphase]; rfl) heffect
  | pods k =>
    obtain ⟨hcancelled, -, c, r, current, hphase, heffect⟩ := call?_eq_pods h
    exact hstep hcancelled (by rw [hphase]; rfl) heffect
  | replace r =>
    obtain ⟨hcancelled, c, target, hphase, heffect⟩ := call?_eq_replace h
    exact hstep hcancelled (by rw [hphase]; rfl) heffect

end Monitor

end RunOperator
