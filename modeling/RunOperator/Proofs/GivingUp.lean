import RunOperator.Proofs.FailingReads

/-!
# Giving up on time, in every history

A history may contain anything that leaves the monitor alone: others read the run and work on other
runs, the dispatcher reacts to events, and the monitor is asked for its moves at any time. If the
reads of the monitor fail, it gives up at an instant that its settings and the latency determine
(`GivesUpOnTime`). The induction is over the history: after each part of it the monitor still tries
or has given up in time (`Standing`).
-/

namespace RunOperator

/-- The action is a move of the monitor. -/
def Action.isMoveOf (number : Nat) : Action → Bool
  | .monitor n => n == number
  | _ => false

private theorem Action.isMoveOf_iff {number : Nat} {a : Action} :
    a.isMoveOf number = true ↔ a = .monitor number := by
  cases a <;> simp [isMoveOf]

private theorem Action.ne_of_isMoveOf {number : Nat} {a : Action} (h : a.isMoveOf number = false) :
    a ≠ .monitor number := by
  rintro rfl
  simp [isMoveOf] at h

namespace World

variable {w₀ w : World} {number failures : Nat} {lease : Lease} {others : Lane → Nat}
  {h : List Action}

/-- The monitor has not ended. -/
def IsRunning (w : World) (number : Nat) : Prop :=
  ∃ m, w.monitors[number]? = some m ∧ m.isOver = false

/-- An action makes no more than one call. -/
theorem callsIn_le_one (w : World) (lane : Lane) (a : Action) : w.callsIn lane a ≤ 1 := by
  unfold callsIn
  split <;> decide

/-- A monitor that completes no client call makes no call of any lane. -/
theorem callsIn_of_call?_eq_none {lane : Lane} (hcall : w.call? number = none) :
    w.callsIn lane (.monitor number) = 0 := by
  simp [callsIn, answered?, change?, hcall]

/-- The calls of a lane that a history makes apart from the moves of a monitor. -/
def callsOfOthers (number : Nat) (lane : Lane) : World → List Action → Nat
  | _, [] => 0
  | w, a :: h =>
    (if a.isMoveOf number then 0 else w.callsIn lane a) + callsOfOthers number lane (w.act a) h

private theorem callsOfOthers_concat (w : World) (lane : Lane) (h : List Action) (a : Action) :
    w.callsOfOthers number lane (h ++ [a]) = w.callsOfOthers number lane h +
      if a.isMoveOf number then 0 else (w.after h).callsIn lane a := by
  induction h generalizing w with
  | nil => simp [callsOfOthers]
  | cons b h ih =>
    rw [List.cons_append, callsOfOthers, callsOfOthers, ih, after_cons, Nat.add_assoc]

/-- A monitor that goes on trying is running. -/
theorem Trying.isRunning (h : w₀.Trying number lease others failures w) : w.IsRunning number := by
  obtain ⟨m, -, hm, -, hover, -⟩ := h.awaits.monitor
  exact ⟨m, hm, hover⟩

/-- A monitor that has given up has ended. -/
theorem GaveUp.over (h : w₀.GaveUp number lease others w) :
    ∃ m, w.monitors[number]? = some m ∧ m.isOver = true := by
  obtain ⟨m, hm, hexit⟩ := h.exits
  exact ⟨m, hm, by rw [Monitor.isOver, hexit, Option.isSome_some]⟩

/-! ### What the monitor has done so far -/

/-- Where the monitor stands after a history: it still tries, or it has given up in time. -/
inductive Standing (w₀ : World) (number : Nat) (lease : Lease) (h : List Action) : Prop where
  | tries (failures : Nat) :
      w₀.Trying number lease (fun lane => w₀.callsOfOthers number lane h) failures (w₀.after h) →
      Standing w₀ number lease h
  | gaveUp (before rest : List Action) : h = before ++ .monitor number :: rest →
      (w₀.after before).IsRunning number → (w₀.after before).clock = w₀.giveUpTime →
      w₀.GaveUp number lease (fun lane => w₀.callsOfOthers number lane before)
        (w₀.after (before ++ [.monitor number])) →
      Standing w₀ number lease h

/-- Wherever it stands the next action finds it there. -/
theorem Standing.concat (hstanding : w₀.Standing number lease h) {a : Action}
    (ha : (w₀.after h).LeavesAlone number lease a)
    (hreads : (w₀.after h).ReadFails number lease.key a) :
    w₀.Standing number lease (h ++ [a]) := by
  cases hstanding with
  | gaveUp before rest hsplit hrunning hclock hgone =>
    refine .gaveUp before (rest ++ [a]) ?_ hrunning hclock hgone
    rw [hsplit, List.append_assoc, List.cons_append]
  | tries failures htries =>
    cases hmove : a.isMoveOf number with
    | false =>
      have hother := Action.ne_of_isMoveOf hmove
      refine .tries failures ?_
      rw [after_concat]
      have hnext := htries.act_other ha hother
      simpa only [callsOfOthers_concat, hmove, Bool.false_eq_true, if_false] using hnext
    | true =>
      obtain rfl := Action.isMoveOf_iff.1 hmove
      have hothers : (fun lane => w₀.callsOfOthers number lane (h ++ [.monitor number])) =
          fun lane => w₀.callsOfOthers number lane h := by
        funext lane
        rw [callsOfOthers_concat, if_pos hmove, Nat.add_zero]
      cases htries.ownMove hreads with
      | waits hrested hcall hact =>
        refine .tries failures ?_
        rwa [hothers, after_concat, hact]
      | begins _ _ hnext =>
        refine .tries failures ?_
        rwa [hothers, after_concat]
      | fails hnext _ =>
        refine .tries (failures + 1) ?_
        rwa [hothers, after_concat]
      | givesUp hclock hgone =>
        refine .gaveUp h [] rfl htries.isRunning hclock ?_
        rwa [after_concat]

/-- After every history that leaves it alone the monitor stands at one of these places. -/
theorem standing_after (hstart : w₀.Trying number lease (fun _ => 0) 0 w₀)
    (hleaves : w₀.Along (LeavesAlone number lease) h)
    (hreads : w₀.Along (ReadFails number lease.key) h) : w₀.Standing number lease h := by
  induction h using List.reverseRecOn with
  | nil => exact .tries 0 hstart
  | append_singleton h a ih =>
    obtain ⟨hleaves, ha, -⟩ := along_append.1 hleaves
    obtain ⟨hreads, hread, -⟩ := along_append.1 hreads
    exact (ih hleaves hreads).concat ha hread

/-! ### Reads that are bound to fail -/

/-- The reads of the monitor fail along a history. -/
inductive ReadsKeepFailing (w : World) (number : Nat) (k : RunKey) (h : List Action) : Prop where
  /-- They take longer than the request timeout. -/
  | tooSlow : w.settings.requestTimeout < w.store.latency → ReadsKeepFailing w number k h
  /-- Errors are in their way that nobody else takes away. -/
  | injected : w.store.ErrorsAhead k w.patience →
      w.Along (fun w a => a ≠ .monitor number → w.callsIn (.reads k) a = 0) h →
      ReadsKeepFailing w number k h
  /-- Whatever the reason is, each read that is completed fails. -/
  | answered : w.Along (ReadFails number k) h → ReadsKeepFailing w number k h

/-- The monitor still tries, and as many of its reads are bound to fail as it needs to give up. -/
def Doomed (w₀ : World) (number : Nat) (lease : Lease) (others : Lane → Nat) (w : World) : Prop :=
  ∃ failures, w₀.Trying number lease others failures w ∧
    w₀.FailsAhead lease.key (w₀.patience - failures) w.store

/-- The next read of a doomed monitor fails. -/
theorem Doomed.readFails {a : Action} (hdoomed : w₀.Doomed number lease others w) :
    w.ReadFails number lease.key a := by
  obtain ⟨failures, htries, hahead⟩ := hdoomed
  exact htries.readFails hahead

/-- What others do leaves a monitor doomed, as long as they take no error from it. -/
theorem Doomed.act_other {a : Action} (hdoomed : w₀.Doomed number lease others w)
    (ha : w.LeavesAlone number lease a) (hother : a ≠ .monitor number)
    (hspared : w₀.settings.requestTimeout < w₀.store.latency ∨
      w.callsIn (.reads lease.key) a = 0) :
    w₀.Doomed number lease (fun lane => others lane + w.callsIn lane a) (w.act a) := by
  obtain ⟨failures, htries, hahead⟩ := hdoomed
  refine ⟨failures, htries.act_other ha hother, ?_⟩
  rcases hspared with hlate | hnone
  · exact Or.inl hlate
  · have hact := hahead.act (a := a)
    rwa [hnone, Nat.sub_zero] at hact

/-- What a move of the monitor makes of it. -/
theorem Doomed.act_own (hdoomed : w₀.Doomed number lease others w) :
    w.Rested number ∧ w.act (.monitor number) = w ∨
    w₀.Doomed number lease others (w.act (.monitor number)) ∧
      (¬ w.AwaitsAnswer number ∧ (w.act (.monitor number)).AwaitsAnswer number ∨
        (0 < w₀.settings.pollInterval → (w.act (.monitor number)).Rested number)) ∨
    w.clock = w₀.giveUpTime ∧ w₀.GaveUp number lease others (w.act (.monitor number)) := by
  obtain ⟨failures, htries, hahead⟩ := hdoomed
  have hact := hahead.act (a := .monitor number)
  cases htries.ownMove (htries.readFails hahead) with
  | waits hrested _ hact => exact Or.inl ⟨hrested, hact⟩
  | begins hasleep hcall hnext hawaits =>
    refine Or.inr (Or.inl ⟨⟨failures, hnext, ?_⟩, Or.inl ⟨hasleep, hawaits⟩⟩)
    rwa [callsIn_of_call?_eq_none hcall, Nat.sub_zero] at hact
  | fails hnext hrested =>
    refine Or.inr (Or.inl ⟨⟨failures + 1, hnext, ?_⟩, Or.inr hrested⟩)
    have hone := w.callsIn_le_one (.reads lease.key) (.monitor number)
    exact hact.mono (by omega)
  | givesUp hclock hgone => exact Or.inr (Or.inr ⟨hclock, hgone⟩)

/-- A monitor that has ended reads nothing. -/
theorem along_readFails_of_isOver {m : Monitor} {k : RunKey} (hm : w.monitors[number]? = some m)
    (hover : m.isOver = true) : w.Along (ReadFails number k) h := by
  induction h generalizing w with
  | nil => trivial
  | cons a h ih =>
    refine ⟨?_, ih (getElem?_act_of_isOver hm hover a)⟩
    rintro - hcall
    obtain ⟨m', hm', hactive⟩ := active_of_call? hcall
    obtain rfl := Option.some.inj (hm.symm.trans hm')
    cases hover.symm.trans hactive.1

/-- All reads of a doomed monitor fail until it has given up. -/
theorem Doomed.along_readFails (hdoomed : w₀.Doomed number lease others w)
    (hleaves : w.Along (LeavesAlone number lease) h)
    (hspared : w₀.settings.requestTimeout < w₀.store.latency ∨
      w.Along (fun w a => a ≠ .monitor number → w.callsIn (.reads lease.key) a = 0) h) :
    w.Along (ReadFails number lease.key) h := by
  induction h generalizing w others with
  | nil => trivial
  | cons a h ih =>
    refine ⟨hdoomed.readFails, ?_⟩
    have hlater := hspared.imp_right And.right
    cases hmove : a.isMoveOf number with
    | false =>
      have hother := Action.ne_of_isMoveOf hmove
      exact ih (hdoomed.act_other hleaves.1 hother (hspared.imp_right fun h => h.1 hother))
        hleaves.2 hlater
    | true =>
      obtain rfl := Action.isMoveOf_iff.1 hmove
      rcases hdoomed.act_own with ⟨-, hact⟩ | ⟨hnext, -⟩ | ⟨-, hgone⟩
      · exact ih (hact.symm ▸ hdoomed) hleaves.2 hlater
      · exact ih hnext hleaves.2 hlater
      · obtain ⟨m, hm, hover⟩ := hgone.over
        exact along_readFails_of_isOver hm hover

/-- The first reads of a monitor that has just started are those that errors are in the way of. -/
theorem ReadsKeepFailing.along (hfailing : w₀.ReadsKeepFailing number lease.key h)
    (hstart : w₀.Trying number lease (fun _ => 0) 0 w₀)
    (hleaves : w₀.Along (LeavesAlone number lease) h) :
    w₀.Along (ReadFails number lease.key) h := by
  cases hfailing with
  | tooSlow hlate =>
    exact Doomed.along_readFails ⟨0, hstart, Or.inl hlate⟩ hleaves (Or.inl hlate)
  | injected herrors hspared =>
    exact Doomed.along_readFails ⟨0, hstart, Or.inr herrors⟩ hleaves (Or.inr hspared)
  | answered hreads => exact hreads

/-! ### Giving up on time -/

/-- The monitor gives up on time in a history. -/
structure GivesUpOnTime (w : World) (number : Nat) (lease : Lease) (h : List Action) : Prop where
  /-- As long as it has not ended it is registered, and the time to give up has not passed. -/
  goesOn : ∀ before rest, h = before ++ rest → (w.after before).IsRunning number →
    (w.after before).registry.entries.get? lease.key = some lease.id ∧
      (w.after before).clock ≤ w.giveUpTime
  /-- If it has ended, it has given up with one of its moves, at exactly this time. -/
  ends : ¬ (w.after h).IsRunning number → ∃ before rest, h = before ++ .monitor number :: rest ∧
    (w.after before).IsRunning number ∧
    (w.after (before ++ [.monitor number])).clock = w.giveUpTime ∧
    w.GaveUp number lease (fun lane => w.callsOfOthers number lane before)
      (w.after (before ++ [.monitor number]))

private theorem GaveUp.not_isRunning_after (hgone : w₀.GaveUp number lease others w)
    (h : List Action) : ¬ (w.after h).IsRunning number := by
  obtain ⟨m, hm, hover⟩ := hgone.over
  have hafter : (w.after h).monitors[number]? = some m :=
    after_invariant (fun w => w.monitors[number]? = some m)
      (fun w a hm => getElem?_act_of_isOver hm hover a) h hm
  rintro ⟨m', hm', hlive⟩
  obtain rfl := Option.some.inj (hafter.symm.trans hm')
  cases hover.symm.trans hlive

private theorem Standing.of_isRunning (hstanding : w₀.Standing number lease h)
    (hrunning : (w₀.after h).IsRunning number) :
    ∃ failures, w₀.Trying number lease (fun lane => w₀.callsOfOthers number lane h) failures
      (w₀.after h) := by
  cases hstanding with
  | tries failures htries => exact ⟨failures, htries⟩
  | gaveUp before rest hsplit _ _ hgone =>
    rw [hsplit, List.append_cons, after_append] at hrunning
    exact absurd hrunning (hgone.not_isRunning_after rest)

/-- A monitor whose reads keep failing gives up on time. -/
theorem givesUpOnTime (hstart : w₀.Trying number lease (fun _ => 0) 0 w₀)
    (hleaves : w₀.Along (LeavesAlone number lease) h)
    (hfailing : w₀.ReadsKeepFailing number lease.key h) : w₀.GivesUpOnTime number lease h := by
  have hreads := hfailing.along hstart hleaves
  constructor
  case goesOn =>
    rintro before rest rfl hrunning
    obtain ⟨failures, htries⟩ := (standing_after hstart (along_append.1 hleaves).1
      (along_append.1 hreads).1).of_isRunning hrunning
    exact ⟨htries.registered, htries.clock_le⟩
  case ends =>
    intro hended
    cases standing_after hstart hleaves hreads with
    | tries failures htries => exact absurd htries.isRunning hended
    | gaveUp before rest hsplit hrunning hclock hgone =>
      refine ⟨before, rest, hsplit, hrunning, ?_, hgone⟩
      rw [after_concat, act, clock_nudgeMonitor, hclock]

end World

end RunOperator
