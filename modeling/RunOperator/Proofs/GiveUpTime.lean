import RunOperator.Proofs.GivingUp
import RunOperator.Proofs.Shutdown

/-!
# The instant at which a monitor gives up

In the simulation of `World.Clock` the clock goes from one instant to the next at which a monitor
has a move to make. A monitor that is alone and whose reads are bound to fail is carried through it
by two facts: when the moves of an instant are made it waits for an instant that lies ahead, as the
poll interval is positive (`Sealed.rested_settle`), and the clock does not go beyond this instant
(`Sealed.runUntil`). `gives_up_on_time` puts this together with what holds in every history.
-/

namespace RunOperator

namespace World

variable {w₀ w : World} {number : Nat} {lease : Lease} {others : Lane → Nat}

/-- Only the monitor has moves to make: the others have ended, and the loops wait or have ended. -/
structure Alone (w : World) (number : Nat) : Prop where
  monitors : ∀ n m, w.monitors[n]? = some m → n ≠ number → m.isOver = true
  loops : ∀ n, w.moveLoop? n = none

/-- The monitor is alone, and it is doomed or has given up in time. -/
structure Sealed (w₀ : World) (number : Nat) (lease : Lease) (w : World) : Prop where
  alone : w.Alone number
  outcome : w₀.Doomed number lease (fun _ => 0) w ∨
    w₀.GaveUp number lease (fun _ => 0) w ∧ w₀.giveUpTime ≤ w.clock

/-! ### The moves of a lone monitor -/

/-- Whether a loop has a move to make depends on the loops and the watches. -/
theorem moveLoop?_eq_none {w' : World} {n : Nat} (hloops : w'.loops = w.loops)
    (hwatches : w'.store.watches = w.store.watches) (h : w.moveLoop? n = none) :
    w'.moveLoop? n = none := by
  have hpending (watch : Nat) : w'.store.pendingOf watch = w.store.pendingOf watch := by
    rw [Store.pendingOf, hwatches, Store.pendingOf]
  have hexhausted (watch : Nat) : w'.store.isExhausted watch = w.store.isExhausted watch := by
    rw [Store.isExhausted, hwatches, Store.isExhausted]
  unfold moveLoop? at h ⊢
  rw [hloops]
  cases hl : w.loops[n]? with
  | none => rfl
  | some l =>
    simp only [hl, Option.bind_eq_bind, Option.bind_some, hpending, hexhausted] at h ⊢
    cases hended : l.ended with
    | true => rfl
    | false =>
      simp only [hended, Bool.false_eq_true, if_false] at h ⊢
      split at h
      · cases h
      · next hstopping =>
        rw [if_neg hstopping]
        split at h
        · split at h
          · cases h
          · split at h
            · cases h
            · next hopen => rw [if_neg hopen]
        · cases h
        · cases h
        · split at h
          · cases h
          · next hopen => rw [if_neg hopen]

/-- Loops do nothing where a monitor is alone. -/
theorem Alone.runLoops (h : w.Alone number) : w.runLoops = w := by
  have hnudge (n : Nat) : nudgeLoop n w = w := by rw [nudgeLoop, h.loops, Option.getD_none]
  refine List.foldlRecOn (motive := (· = w)) _ _ rfl ?_
  intro w' hw' n _
  refine repeat_invariant (· = w) ?_ _ hw'
  intro w' hw'
  rw [hw', hnudge]

/-- A monitor that still tries makes no call but its reads, which do not reach the watches. -/
theorem Trying.watches_act {failures : Nat} (h : w₀.Trying number lease others failures w) :
    (w.act (.monitor number)).store.watches = w.store.watches := by
  rw [store_act_monitor]
  cases hcall : w.call? number with
  | none => rfl
  | some call =>
    cases call with
    | get k => exact (w.store.refused_get k).watches
    | pods k => rfl
    | replace r =>
      obtain ⟨m, hm, hmcall⟩ := call?_eq_some hcall
      obtain ⟨-, c, target, hphase, -⟩ := Monitor.call?_eq_replace hmcall
      cases h.awaits with
      | sleeping hm' _ | reading hm' _ =>
        obtain rfl := Option.some.inj (hm.symm.trans hm')
        cases hphase

/-- A monitor that is alone stays so by its own move. -/
theorem Alone.act_own (h : w.Alone number)
    (hwatches : (w.act (.monitor number)).store.watches = w.store.watches) :
    (w.act (.monitor number)).Alone number := by
  have hkeeps : (w.act (.monitor number)).loops = w.loops ∧ ∀ n m,
      (w.act (.monitor number)).monitors[n]? = some m → n ≠ number →
        w.monitors[n]? = some m := by
    rcases act_monitor_cases w number with hact | ⟨_, m', s', -, -, hact⟩
    · rw [hact]
      exact ⟨rfl, fun n m hm _ => hm⟩
    · rw [hact]
      refine ⟨rfl, fun n m hm hne => ?_⟩
      rcases Monitor.getElem?_set_cases hm with ⟨heq, -⟩ | ⟨-, hkept⟩
      · exact absurd heq.symm hne
      · exact hkept
  exact ⟨fun n m hm hne => h.monitors n m (hkeeps.2 n m hm hne) hne,
    fun n => moveLoop?_eq_none hkeeps.1 hwatches (h.loops n)⟩

/-- The other monitors have no move to make. -/
theorem Alone.act_monitor_of_ne (h : w.Alone number) {n : Nat} (hne : n ≠ number) :
    w.act (.monitor n) = w := by
  cases hm : w.monitors[n]? with
  | none => simp [act, nudgeMonitor, moveMonitor?, hm]
  | some m => exact act_of_isOver hm (h.monitors n m hm hne) (Or.inl rfl)

/-! ### What a move leaves -/

/-- A monitor that gave up makes no move. -/
theorem GaveUp.act_own (h : w₀.GaveUp number lease others w) : w.act (.monitor number) = w := by
  obtain ⟨m, hm, hover⟩ := h.over
  exact act_of_isOver hm hover (Or.inl rfl)

/-- A monitor that has given up waits for nothing. -/
theorem GaveUp.rested (h : w₀.GaveUp number lease others w) : w.Rested number := by
  obtain ⟨m, hm, hexit⟩ := h.exits
  intro m' due hm' hdue
  obtain rfl := Option.some.inj (hm.symm.trans hm')
  rw [Monitor.exit?] at hexit
  split at hexit
  · next hphase =>
    rw [hphase] at hdue
    cases hdue
  · cases hexit

/-- A move of the monitor keeps the seal. Afterwards it rests, or it has just begun to await an
answer. -/
theorem Sealed.act_own (h : w₀.Sealed number lease w) :
    w₀.Sealed number lease (w.act (.monitor number)) ∧
      (w.Rested number ∧ w.act (.monitor number) = w ∨
        ¬ w.AwaitsAnswer number ∧ (w.act (.monitor number)).AwaitsAnswer number ∨
        (0 < w₀.settings.pollInterval → (w.act (.monitor number)).Rested number)) := by
  rcases h.outcome with hdoomed | ⟨hgone, hlate⟩
  · have halone : (w.act (.monitor number)).Alone number := by
      obtain ⟨failures, htries, -⟩ := hdoomed
      exact h.alone.act_own htries.watches_act
    rcases hdoomed.act_own with ⟨hrested, hact⟩ | ⟨hnext, hmove⟩ | ⟨hclock, hgone⟩
    · exact ⟨hact.symm ▸ h, Or.inl ⟨hrested, hact⟩⟩
    · exact ⟨⟨halone, Or.inl hnext⟩, Or.inr hmove⟩
    · refine ⟨⟨halone, Or.inr ⟨hgone, ?_⟩⟩, Or.inr (Or.inr fun _ => hgone.rested)⟩
      rw [act, clock_nudgeMonitor, hclock]
  · have hact := hgone.act_own
    exact ⟨hact.symm ▸ h, Or.inl ⟨hgone.rested, hact⟩⟩

/-- Nobody's move breaks the seal. -/
theorem Sealed.act (h : w₀.Sealed number lease w) (n : Nat) :
    w₀.Sealed number lease (w.act (.monitor n)) := by
  by_cases hn : n = number
  · rw [hn]
    exact h.act_own.1
  · rwa [h.alone.act_monitor_of_ne hn]

/-- Nothing happens as long as the monitor waits. -/
theorem Sealed.act_of_rested (h : w₀.Sealed number lease w) (hrested : w.Rested number)
    (n : Nat) : w.act (.monitor n) = w := by
  by_cases hn : n = number
  · rcases h.outcome with ⟨failures, htries, -⟩ | ⟨hgone, -⟩
    · obtain ⟨m, -, hm, hlease, -⟩ := htries.awaits.monitor
      rw [hn]
      exact (World.act_of_rested hm (hlease ▸ htries.live) hrested).2
    · rw [hn]
      exact hgone.act_own
  · exact h.alone.act_monitor_of_ne hn

/-- After two moves the monitor waits: it has begun a read that takes time, or it has lost one. -/
theorem Sealed.rested_act_act (h : w₀.Sealed number lease w)
    (hpositive : 0 < w₀.settings.pollInterval) :
    ((w.act (.monitor number)).act (.monitor number)).Rested number := by
  have hnext := h.act_own.1
  rcases h.act_own.2 with ⟨hrested, hact⟩ | ⟨-, hawaits⟩ | hrested
  · rwa [hact, hact]
  · rcases hnext.act_own.2 with ⟨hrested, hact⟩ | ⟨hasleep, -⟩ | hrested
    · rwa [hact]
    · exact absurd hawaits hasleep
    · exact hrested hpositive
  · rw [hnext.act_of_rested (hrested hpositive)]
    exact hrested hpositive

/-! ### The moves of an instant -/

/-- No moves break the seal. -/
theorem Sealed.after (h : w₀.Sealed number lease w) {moves : List Action}
    (hmoves : ∀ a ∈ moves, ∃ n, a = .monitor n) : w₀.Sealed number lease (w.after moves) := by
  refine Along.invariant (w₀.Sealed number lease) ?_ (along_of_forall hmoves) h
  rintro w' _ ⟨n, rfl⟩ hw'
  exact hw'.act n

private theorem Sealed.after_of_rested (h : w₀.Sealed number lease w) (hrested : w.Rested number)
    {moves : List Action} (hmoves : ∀ a ∈ moves, ∃ n, a = .monitor n) : w.after moves = w := by
  refine Along.invariant (· = w) ?_ (along_of_forall hmoves) rfl
  rintro w' _ ⟨n, rfl⟩ hw'
  rw [hw', h.act_of_rested hrested]

/-- A monitor that is sealed was started. -/
theorem Sealed.lt_length (h : w₀.Sealed number lease w) : number < w.monitors.length := by
  rcases h.outcome with ⟨failures, htries, -⟩ | ⟨hgone, -⟩
  · obtain ⟨m, hm, -⟩ := htries.isRunning
    exact (List.getElem?_eq_some_iff.1 hm).1
  · obtain ⟨m, hm, -⟩ := hgone.exits
    exact (List.getElem?_eq_some_iff.1 hm).1

/-- When all monitors have made their moves the monitor waits. -/
theorem Sealed.rested_runMonitors (h : w₀.Sealed number lease w)
    (hpositive : 0 < w₀.settings.pollInterval) :
    w₀.Sealed number lease w.runMonitors ∧ w.runMonitors.Rested number := by
  obtain ⟨first, last, hrange⟩ := List.append_of_mem (List.mem_range.2 h.lt_length)
  obtain ⟨before, rest, hsweep⟩ : ∃ before rest,
      w.sweep = before ++ .monitor number :: .monitor number :: rest := by
    simp only [sweep, hrange, List.flatMap_append, List.flatMap_cons, movesPerPoll,
      List.replicate_succ, List.cons_append]
    exact ⟨_, _, rfl⟩
  have hmoves : ∀ a ∈ w.sweep, ∃ n, a = .monitor n := by
    intro a ha
    obtain ⟨n, -, rfl⟩ := mem_sweep.1 ha
    exact ⟨n, rfl⟩
  rw [hsweep] at hmoves
  have hbefore : w₀.Sealed number lease (w.after before) :=
    h.after fun a ha => hmoves a (List.mem_append_left _ ha)
  have hrested := hbefore.rested_act_act hpositive
  have hsealed := (hbefore.act number).act number
  rw [runMonitors_eq_after, hsweep, after_append, after_cons, after_cons,
    hsealed.after_of_rested hrested fun a ha => hmoves a (by simp [ha])]
  exact ⟨hsealed, hrested⟩

/-- When all moves of the instant are made the monitor waits. -/
theorem Sealed.rested_settle (h : w₀.Sealed number lease w)
    (hpositive : 0 < w₀.settings.pollInterval) :
    w₀.Sealed number lease w.settle ∧ w.settle.Rested number := by
  have hround (w : World) (h : w₀.Sealed number lease w) :
      w₀.Sealed number lease w.round ∧ w.round.Rested number := by
    rw [round, h.alone.runLoops]
    exact h.rested_runMonitors hpositive
  exact hround _ (hround w h).1

/-! ### The passing of time -/

/-- The clock may go to any instant that is not beyond the one to which the monitor waits. -/
theorem Sealed.clock (h : w₀.Sealed number lease w) {t : Nat} (hle : w.clock ≤ t)
    (hprompt : ∀ m due, w.monitors[number]? = some m → m.phase.due? = some due → t ≤ due) :
    w₀.Sealed number lease { w with clock := t } := by
  have hpass : { w with clock := t } = w.act (.pass (t - w.clock)) := by
    simp only [World.act, Nat.add_sub_cancel' hle]
  refine ⟨⟨h.alone.monitors, fun n => moveLoop?_eq_none (w := w) rfl rfl (h.alone.loops n)⟩, ?_⟩
  rcases h.outcome with hdoomed | ⟨hgone, hlate⟩
  · have hlive : w.registry.isCancelled lease.id = false := by
      obtain ⟨failures, htries, -⟩ := hdoomed
      exact htries.live
    have hleaves : w.LeavesAlone number lease (.pass (t - w.clock)) := by
      refine LeavesAlone.pass hlive fun m due hm hdue => ?_
      have hdue := hprompt m due hm hdue
      omega
    rw [hpass]
    exact Or.inl (hdoomed.act_other hleaves (by simp) (Or.inr rfl))
  · exact Or.inr ⟨⟨hgone.exits, hgone.released, hgone.run, hgone.counts⟩,
      Nat.le_trans hlate hle⟩

/-- The instant to which the monitor waits is one of those ahead. -/
theorem mem_instantsAhead {m : Monitor} {due : Nat} (hm : w.monitors[number]? = some m)
    (hdue : m.phase.due? = some due) (hlt : w.clock < due) : due ∈ w.instantsAhead := by
  refine List.mem_filter.2 ⟨?_, decide_eq_true hlt⟩
  exact List.mem_filterMap.2 ⟨m, List.mem_of_getElem? hm, hdue⟩

/-- The clock gets to its target without going beyond the instants to which the monitor waits. -/
theorem Sealed.runUntil (h : w₀.Sealed number lease w) (hrested : w.Rested number)
    (hpositive : 0 < w₀.settings.pollInterval) (target : Nat) :
    w₀.Sealed number lease (w.runUntil target) ∧
      (w.runUntil target).clock = max w.clock target := by
  fun_induction World.runUntil w target with
  | case1 w t hnext hlt ih =>
    have hsealed : w₀.Sealed number lease { w with clock := t } := by
      refine h.clock (Nat.le_of_lt hlt.1) fun m due hm hdue => ?_
      exact (List.min?_eq_some_iff.1 hnext).2 due (mem_instantsAhead hm hdue (hrested m due hm hdue))
    obtain ⟨hsettled, hwaits⟩ := hsealed.rested_settle hpositive
    obtain ⟨hend, htime⟩ := ih hsettled hwaits
    refine ⟨hend, ?_⟩
    rw [htime, clock_settle]
    dsimp only
    omega
  | case2 w t hnext hlt =>
    refine ⟨h.clock (Nat.le_max_left _ _) fun m due hm hdue => ?_, rfl⟩
    obtain ⟨hmem, hearliest⟩ := List.min?_eq_some_iff.1 hnext
    have hahead : w.clock < t := of_decide_eq_true (List.mem_filter.1 hmem).2
    have hle := hearliest due (mem_instantsAhead hm hdue (hrested m due hm hdue))
    omega
  | case3 w hnext =>
    refine ⟨h.clock (Nat.le_max_left _ _) fun m due hm hdue => ?_, rfl⟩
    have hmem := mem_instantsAhead hm hdue (hrested m due hm hdue)
    rw [List.min?_eq_none_iff.1 hnext] at hmem
    cases hmem

/-- Time that passes in the simulation keeps the seal, and the monitor rests in the end. -/
theorem Sealed.advance (h : w₀.Sealed number lease w) (hrested : w.Rested number)
    (hpositive : 0 < w₀.settings.pollInterval) (time : Nat) :
    w₀.Sealed number lease (w.advance time) ∧ (w.advance time).Rested number ∧
      (w.advance time).clock = w.clock + time := by
  obtain ⟨hsealed, hclock⟩ := h.runUntil hrested hpositive (w.clock + time)
  obtain ⟨hsettled, hwaits⟩ := hsealed.rested_settle hpositive
  refine ⟨hsettled, hwaits, ?_⟩
  rw [World.advance, clock_settle, hclock]
  omega

/-- A monitor that waits and still tries has time left. -/
theorem Trying.clock_lt {failures : Nat} (h : w₀.Trying number lease others failures w)
    (hrested : w.Rested number) : w.clock < w₀.giveUpTime := by
  obtain ⟨m, due, hm, -, -, hdue, -, hle⟩ := h.awaits.monitor
  exact Nat.lt_of_lt_of_le (hrested m due hm hdue)
    (Nat.le_trans hle (wakeTime_add_readTime_le h.early))

/-! ### The main statement -/

/-- In the simulation the monitor gives up after exactly the time that its polls take. -/
structure GivesUpInSimulation (w : World) (number : Nat) (lease : Lease) : Prop where
  /-- Before it goes on, and is registered. -/
  goesOn : ∀ time < w.patience * w.failedPollTime,
    (w.advance time).IsRunning number ∧
      (w.advance time).registry.entries.get? lease.key = some lease.id
  /-- From then on it is gone, and nobody has called the store but by its reads. -/
  ends : ∀ time, w.patience * w.failedPollTime ≤ time →
    w.GaveUp number lease (fun _ => 0) (w.advance time)

/-- A monitor that has just begun, and whose reads will all fail, gives up on time in the
simulation. -/
theorem givesUpInSimulation (hstart : w.Trying number lease (fun _ => 0) 0 w)
    (hrested : w.Rested number) (halone : w.Alone number)
    (hahead : w.FailsAhead lease.key w.patience w.store)
    (hpositive : 0 < w.settings.pollInterval) : w.GivesUpInSimulation number lease := by
  have hsealed : w.Sealed number lease w := ⟨halone, Or.inl ⟨0, hstart, hahead⟩⟩
  constructor
  case goesOn =>
    intro time htime
    obtain ⟨hend, -, hclock⟩ := hsealed.advance hrested hpositive time
    rcases hend.outcome with ⟨failures, htries, -⟩ | ⟨-, hlate⟩
    · exact ⟨htries.isRunning, htries.registered⟩
    · rw [hclock, giveUpTime] at hlate
      omega
  case ends =>
    intro time htime
    obtain ⟨hend, hwaits, hclock⟩ := hsealed.advance hrested hpositive time
    rcases hend.outcome with ⟨failures, htries, -⟩ | ⟨hgone, -⟩
    · have hearly := htries.clock_lt hwaits
      rw [hclock, giveUpTime] at hearly
      omega
    · exact hgone

/-- **The time of giving up is exact.** Take any monitor that has just been started, after any
history in which leases are not copied, with any settings, any latency and any stored run. In every
history that leaves the monitor alone and in which its reads fail, it is registered until it gives
up, and it gives up exactly when as many polls have failed as the retry limit says, and at least
one, each of which takes the poll interval and the latency or the request timeout, whichever is
less. At that time its entry is gone, the run is as it was, and the monitor has made no call but its
reads, which count unless they take longer than the request timeout. If the poll interval is
positive and nobody else has anything to do, this is what the simulation does. -/
theorem gives_up_on_time {settings : Settings} {wall : Instant} {earlier : List Action}
    (hhands : (initial settings wall).Along HandsOn earlier)
    (hw : (initial settings wall).after earlier = w)
    (hm : w.monitors[number]? = some (.start w.settings w.clock lease))
    (hlive : w.registry.isCancelled lease.id = false) :
    (∀ h, w.Along (LeavesAlone number lease) h → w.ReadsKeepFailing number lease.key h →
      w.GivesUpOnTime number lease h) ∧
    (0 < w.settings.pollInterval → w.Alone number →
      w.FailsAhead lease.key w.patience w.store → w.GivesUpInSimulation number lease) := by
  have hbacked : w.Backed := by
    rw [← hw]
    exact Along.invariant Backed (fun w a ha hw => backed_act hw ha) hhands (Registry.backs_nil _)
  have hstart := trying_start hm hbacked hlive
  refine ⟨fun h hleaves hfailing => givesUpOnTime hstart hleaves hfailing, ?_⟩
  intro hpositive halone hahead
  refine givesUpInSimulation hstart ?_ halone hahead hpositive
  intro m due hm' hdue
  obtain rfl := Option.some.inj (hm.symm.trans hm')
  obtain rfl := Option.some.inj hdue
  exact Nat.lt_add_of_pos_right hpositive

/-- Calls take as long as the request timeout allows, two errors are in the way of reads, and a
monitor is started. -/
def obstructedHistory : List Action :=
  let r := Run.named "ns" "a" { RunSpec.empty with state := some "RUNNING" }
  [.store (.insert r), .store (.setLatency 50), .store (.failGets r.key [.timeout, .timeout]),
    .react (.create r.key)]

/-- A monitor with a retry limit of two has just been started. -/
def obstructedWorld : World := (initial ⟨1000, 2, 50⟩ ⟨0, 0⟩).after obstructedHistory

/-- The time and the moves of two polls. -/
def twoPolls : List Action :=
  [.pass 1000, .monitor 0, .pass 50, .monitor 0, .pass 1000, .monitor 0, .pass 50, .monitor 0]

/-- The monitor gives up after both polls, move by move and in the simulation. -/
theorem gives_up_on_time_of_obstructedHistory :
    (initial ⟨1000, 2, 50⟩ ⟨0, 0⟩).Along HandsOn obstructedHistory ∧
      obstructedWorld.GivesUpOnTime 0 ⟨⟨"ns", "a"⟩, 0⟩ twoPolls ∧
      (obstructedWorld.after twoPolls).monitors.map Monitor.exit? = [some .retriesExhausted] ∧
      obstructedWorld.giveUpTime = 2100 ∧ (obstructedWorld.after twoPolls).clock = 2100 ∧
      obstructedWorld.GivesUpInSimulation 0 ⟨⟨"ns", "a"⟩, 0⟩ := by
  have hhands : (initial ⟨1000, 2, 50⟩ ⟨0, 0⟩).Along HandsOn obstructedHistory := by
    simp [Along, HandsOn, obstructedHistory]
  have hm : obstructedWorld.monitors[0]? =
      some (.start obstructedWorld.settings obstructedWorld.clock ⟨⟨"ns", "a"⟩, 0⟩) := rfl
  have herrors : obstructedWorld.store.ErrorsAhead ⟨"ns", "a"⟩ 2 := by
    intro i hi
    obtain rfl | rfl : i = 0 ∨ i = 1 := by omega
    · exact ⟨.timeout, rfl, rfl⟩
    · exact ⟨.timeout, rfl, rfl⟩
  have hleaves : obstructedWorld.Along (LeavesAlone 0 ⟨⟨"ns", "a"⟩, 0⟩) twoPolls := by
    have hpass {w : World} {time : Nat} (hlive : w.registry.isCancelled 0 = false)
        (hprompt : ∀ m ∈ w.monitors, ∀ due ∈ m.phase.due?, w.clock + time ≤ due) :
        w.LeavesAlone 0 ⟨⟨"ns", "a"⟩, 0⟩ (.pass time) :=
      .pass hlive fun m due hm hdue => hprompt m (List.mem_of_getElem? hm) due hdue
    exact ⟨hpass rfl (by decide +kernel), .own rfl, hpass rfl (by decide +kernel), .own rfl,
      hpass rfl (by decide +kernel), .own rfl, hpass rfl (by decide +kernel), .own rfl, trivial⟩
  have hspared : obstructedWorld.Along
      (fun w a => a ≠ .monitor 0 → w.callsIn (.reads ⟨"ns", "a"⟩) a = 0) twoPolls :=
    ⟨fun _ => rfl, fun hne => absurd rfl hne, fun _ => rfl, fun hne => absurd rfl hne,
      fun _ => rfl, fun hne => absurd rfl hne, fun _ => rfl, fun hne => absurd rfl hne, trivial⟩
  have halone : obstructedWorld.Alone 0 := by
    refine ⟨?_, fun n => rfl⟩
    rintro (_ | n) m hm hne
    · exact absurd rfl hne
    · cases hm
  obtain ⟨hhistories, hsimulation⟩ := gives_up_on_time hhands rfl hm rfl
  exact ⟨hhands, hhistories twoPolls hleaves (.injected herrors hspared), rfl, rfl, rfl,
    hsimulation (by decide) halone (Or.inr herrors)⟩

end World

end RunOperator
