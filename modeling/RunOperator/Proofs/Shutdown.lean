import RunOperator.Proofs.Cancellation
import RunOperator.Proofs.Resumption

/-!
# Shutting down

The dispatcher tells the registered monitors to stop, and waits for all monitors that it has started.
Some of these are not registered any more: their leases were replaced or evicted. They were told to
stop when this happened, since a monitor that has neither ended nor been told to stop is registered
(`Registry.Governs`). So after a shutdown every monitor is retired, whatever it was doing
(`Staffed.retired_of_shutdown`), and `shutdown_leaves_nothing` says what follows: the monitors end
with their next moves, which need no time and leave the store alone, and no registration remains.
-/

namespace RunOperator

/-- The dispatcher is not called, nobody else uses the registry or starts monitors. -/
def Action.LeavesDispatcher : Action → Prop
  | .react _ | .loop _ | .shutdown | .start _ | .registry _ => False
  | _ => True

private theorem Action.LeavesDispatcher.leavesRegistry {a : Action} (ha : a.LeavesDispatcher) :
    a.LeavesRegistry := by
  cases a <;> first | exact ha | trivial

namespace Registry

/-- A registry whose runs all have no entry has no keys. -/
theorem keys_eq_nil {r : Registry} (h : ∀ k, r.entries.get? k = none) : r.keys = [] := by
  rw [List.eq_nil_iff_forall_not_mem]
  intro k hk
  have hcontains := KeyMap.mem_keys_iff.1 hk
  rw [KeyMap.contains, h k] at hcontains
  cases hcontains

/-- When all monitors have ended nothing is registered. -/
theorem Staffed.keys_eq_nil {r : Registry} {ms : List Monitor} (h : r.Staffed ms)
    (hover : ∀ m ∈ ms, m.isOver = true) : r.keys = [] := by
  refine Registry.keys_eq_nil fun k => ?_
  cases hentry : r.entries.get? k with
  | none => rfl
  | some id =>
    obtain ⟨i, m, hm, -, hlive⟩ := h.held hentry
    cases hlive.symm.trans (hover m (List.mem_of_getElem? hm))

end Registry

namespace World

variable {w : World} {number : Nat} {m : Monitor} {a : Action}

/-- Nobody starts a monitor as long as the dispatcher is not called. -/
theorem length_monitors_act_of_leaves (w : World) (ha : a.LeavesDispatcher) :
    (w.act a).monitors.length = w.monitors.length := by
  cases a with
  | monitor n =>
    rcases act_monitor_cases w n with hact | ⟨m, m', s', -, -, hact⟩
    · rw [hact]
    · rw [hact]
      exact List.length_set
  | abort n =>
    rcases act_abort_cases w n with hact | ⟨m, -, -, hact⟩
    · rw [hact]
    · rw [hact]
      exact List.length_set
  | emit n item =>
    obtain ⟨loops, hact⟩ := act_emit_eq w n item
    rw [hact]
  | react e | loop n | shutdown | start lease | registry c => cases ha
  | _ => rfl

/-- No monitor is started without the dispatcher. -/
theorem length_monitors_after_of_leaves (w : World) {later : List Action}
    (hleaves : ∀ a ∈ later, a.LeavesDispatcher) :
    (w.after later).monitors.length = w.monitors.length :=
  Along.invariant (fun w' => w'.monitors.length = w.monitors.length)
    (fun w' _ ha hw' => (length_monitors_act_of_leaves w' ha).trans hw')
    (along_of_forall hleaves) rfl

/-! ### Retired monitors -/

/-- A monitor that has ended or was told to stop leaves the store alone. -/
theorem Retired.store_act (h : w.Retired number) (ha : a.IsOf number) :
    (w.act a).store = w.store := by
  rcases ha with rfl | rfl
  · rw [store_act_monitor, h.call?_eq_none]
    rfl
  · rcases act_abort_cases w number with heq | ⟨m, -, -, heq⟩ <;> rw [heq]
    rfl

/-- Such a monitor has ended after its next move. -/
theorem Retired.isOver_act (h : w.Retired number) (ha : a.IsOf number) :
    ∃ m, (w.act a).monitors[number]? = some m ∧ m.isOver = true := by
  obtain ⟨m, hm, hidle⟩ := h
  cases hover : m.isOver with
  | true => exact ⟨m, getElem?_act_of_isOver hm hover a, hover⟩
  | false =>
    have hcancelled : w.registry.isCancelled m.lease.id = true := by
      simpa [Monitor.ActiveIn, hover] using hidle
    obtain ⟨e, -, hact⟩ := Told.act_eq ⟨hm, hover, hcancelled⟩ ha
    exact ⟨m.exitWith e, by rw [hact, getElem?_putMonitor hm], rfl⟩

/-- It has ended after any history in which it has moved. -/
theorem Retired.isOver_after (h : w.Retired number) {later : List Action} (ha : a ∈ later)
    (hof : a.IsOf number) :
    ∃ m, (w.after later).monitors[number]? = some m ∧ m.isOver = true := by
  obtain ⟨before, rest, rfl⟩ := List.append_of_mem ha
  rw [after_append, after_cons]
  refine after_invariant (fun w => ∃ m, w.monitors[number]? = some m ∧ m.isOver = true) ?_ rest
    ((h.after before).isOver_act hof)
  rintro w b ⟨m, hm, hover⟩
  exact ⟨m, getElem?_act_of_isOver hm hover b, hover⟩

/-- Of the monitors that the dispatcher has started, those that are registered are told to stop by
the shutdown, and the others were told before or have ended. -/
theorem Staffed.retired_of_shutdown (hw : w.Staffed) (hm : w.shutdown.monitors[number]? = some m) :
    m.isOver = true ∨ w.shutdown.Told number m := by
  cases hover : m.isOver with
  | true => exact Or.inl rfl
  | false =>
    refine Or.inr ⟨hm, hover, ?_⟩
    have hregistered : w.registry.isCancelled m.lease.id = false →
        w.registry.entries.get? m.lease.key = some m.lease.id :=
      fun hlive => hw.registered hm ⟨hover, hlive⟩
    refine Registry.isCancelled_cancelAll_iff.2 ?_
    cases hcancelled : w.registry.isCancelled m.lease.id with
    | true => exact Or.inr rfl
    | false => exact Or.inl ⟨_, hregistered hcancelled⟩

/-! ### The moves of all monitors -/

/-- The moves of all monitors, one monitor after the other. -/
def sweep (w : World) : List Action :=
  (List.range w.monitors.length).flatMap fun n => List.replicate movesPerPoll (.monitor n)

private theorem repeat_eq_after (n count : Nat) (w : World) :
    Nat.repeat (nudgeMonitor n) count w = w.after (List.replicate count (.monitor n)) := by
  induction count with
  | zero => rfl
  | succ count ih => rw [Nat.repeat, ih, List.replicate_succ', after_concat, act]

/-- To let all monitors make their moves is a history. -/
theorem runMonitors_eq_after (w : World) : w.runMonitors = w.after w.sweep := by
  have hfoldl (numbers : List Nat) (w : World) :
      numbers.foldl (fun w n => Nat.repeat (nudgeMonitor n) movesPerPoll w) w =
        w.after (numbers.flatMap fun n => List.replicate movesPerPoll (.monitor n)) := by
    induction numbers generalizing w with
    | nil => rfl
    | cons n numbers ih =>
      rw [List.foldl_cons, ih, repeat_eq_after, List.flatMap_cons, after_append]
  exact hfoldl _ w

/-- A sweep moves every monitor. -/
theorem mem_sweep : a ∈ w.sweep ↔ ∃ n < w.monitors.length, a = .monitor n := by
  simp [sweep, movesPerPoll, List.mem_flatMap]

/-- When all monitors are retired their moves leave the store alone. -/
theorem store_runMonitors (hretired : ∀ n < w.monitors.length, w.Retired n) :
    w.runMonitors.store = w.store := by
  rw [runMonitors_eq_after]
  have hmoves : ∀ a ∈ w.sweep, ∃ n < w.monitors.length, a = .monitor n := fun a ha => mem_sweep.1 ha
  refine (Along.invariant
    (fun w' => (∀ n < w.monitors.length, w'.Retired n) ∧ w'.store = w.store) ?_
    (along_of_forall hmoves) ⟨hretired, rfl⟩).2
  rintro w' a ⟨n, hn, rfl⟩ ⟨hall, hstore⟩
  exact ⟨fun i hi => (hall i hi).act _, ((hall n hn).store_act (Or.inl rfl)).trans hstore⟩

/-! ### The main statement -/

/-- The monitors have to end and can do nothing else, and no registration will be left. -/
structure WindsUp (w : World) : Prop where
  /-- Whatever happens later, a monitor that has not ended stays as it is until it ends, and it ends
  as cancelled unless its task is aborted first. -/
  course : ∀ number m, w.monitors[number]? = some m → m.isOver = false → ∀ later,
    (w.after later).monitors[number]? = some m ∨
    (w.after later).monitors[number]? = some (m.exitWith .cancelled) ∨
    .abort number ∈ later ∧ (w.after later).monitors[number]? = some (m.exitWith .aborted)
  /-- No monitor changes the store any more, nor its counters. -/
  silent : ∀ number < w.monitors.length, ∀ later a, a.IsOf number →
    ((w.after later).act a).store = (w.after later).store
  /-- A monitor that makes a move has ended with it. -/
  ends : ∀ number < w.monitors.length, ∀ later a, a ∈ later → a.IsOf number →
    ∃ m, (w.after later).monitors[number]? = some m ∧ m.isOver = true
  /-- No monitor is added, and when all have ended the registry is empty. -/
  empties : ∀ later, (∀ a ∈ later, a.LeavesDispatcher) →
    (w.after later).monitors.length = w.monitors.length ∧
      ((∀ m ∈ (w.after later).monitors, m.isOver = true) → (w.after later).registry.keys = [])
  /-- All this takes no time: when the monitors make the moves of the instant, all of them end and
  the registry is empty. -/
  immediate : w.runMonitors.clock = w.clock ∧ w.runMonitors.store = w.store ∧
    w.runMonitors.monitors.length = w.monitors.length ∧
    (∀ m ∈ w.runMonitors.monitors, m.isOver = true) ∧ w.runMonitors.registry.keys = []

/-- After a shutdown every monitor winds up. -/
theorem Staffed.windsUp_shutdown (hw : w.Staffed) : w.shutdown.WindsUp := by
  have hstaffed : w.shutdown.Staffed := Registry.Staffed.cancelAll hw
  have hretired {n : Nat} (hn : n < w.shutdown.monitors.length) : w.shutdown.Retired n := by
    refine ⟨w.shutdown.monitors[n], List.getElem?_eq_getElem hn, ?_⟩
    rintro ⟨hlive, hactive⟩
    rcases hw.retired_of_shutdown (List.getElem?_eq_getElem hn) with hover | htold
    · cases hlive.symm.trans hover
    · cases hactive.symm.trans htold.cancelled
  have hends {n : Nat} (hn : n < w.shutdown.monitors.length) {later : List Action} {a : Action}
      (ha : a ∈ later) (hof : a.IsOf n) :
      ∃ m, (w.shutdown.after later).monitors[n]? = some m ∧ m.isOver = true :=
    (hretired hn).isOver_after ha hof
  have hempties {later : List Action} (hleaves : ∀ a ∈ later, a.LeavesDispatcher)
      (hover : ∀ m ∈ (w.shutdown.after later).monitors, m.isOver = true) :
      (w.shutdown.after later).registry.keys = [] := by
    have hlater : (w.shutdown.after later).Staffed :=
      hstaffed.after fun a ha => (hleaves a ha).leavesRegistry
    exact Registry.Staffed.keys_eq_nil hlater hover
  constructor
  case course =>
    intro n m hm hlive
    rcases hw.retired_of_shutdown hm with hover | htold
    · cases hlive.symm.trans hover
    · exact (htold.stopped (hstaffed.issued hm)).course
  case silent => exact fun n hn later a hof => ((hretired hn).after later).store_act hof
  case ends => exact fun n hn later a ha hof => hends hn ha hof
  case empties =>
    exact fun later hleaves => ⟨length_monitors_after_of_leaves _ hleaves, hempties hleaves⟩
  case immediate =>
    have hleaves : ∀ a ∈ w.shutdown.sweep, a.LeavesDispatcher := by
      intro a ha
      obtain ⟨n, -, rfl⟩ := mem_sweep.1 ha
      trivial
    have hlength := length_monitors_after_of_leaves w.shutdown hleaves
    have hover : ∀ m ∈ (w.shutdown.after w.shutdown.sweep).monitors, m.isOver = true := by
      intro m hm
      obtain ⟨n, hget⟩ := List.mem_iff_getElem?.1 hm
      have hn := (List.getElem?_eq_some_iff.1 hget).1
      rw [hlength] at hn
      obtain ⟨m', hm', hover⟩ := hends hn (mem_sweep.2 ⟨n, hn, rfl⟩) (Or.inl rfl)
      rwa [Option.some.inj (hget.symm.trans hm')]
    refine ⟨?_, store_runMonitors fun n hn => hretired hn, ?_⟩
    · exact clock_foldl _ (fun w n => clock_repeat _ (clock_nudgeMonitor n) _ w) _ _
    · rw [runMonitors_eq_after]
      exact ⟨hlength, hover, hempties hleaves hover⟩

/-- **A shutdown leaves nothing behind.** Take any history in which nobody but the dispatcher
registers or starts monitors: whatever runs appeared, were resumed or were deleted, and however the
moves of loops and monitors were interleaved with this. When the dispatcher is shut down, every
monitor that it ever started has ended or ends with its next move, also those whose leases were
replaced or evicted and those that wait for the answer of a call. Until then none of them changes
the store or its counters, no time has to pass, and when they have ended the registry is empty. -/
theorem shutdown_leaves_nothing (settings : Settings) (wall : Instant) (h : List Action)
    (hleaves : ∀ a ∈ h, a.LeavesRegistry) :
    ((initial settings wall).after (h ++ [.shutdown])).WindsUp := by
  have hinitial : (initial settings wall).Staffed := Registry.staffed_empty
  have hstaffed : ((initial settings wall).after h).Staffed := hinitial.after hleaves
  rw [after_concat]
  exact hstaffed.windsUp_shutdown

/-- Calls take five seconds. One monitor was replaced while it reads its run, the one in its place
is about to begin, and a third was evicted before it began. -/
def replacedHistory : List Action :=
  let a := Run.named "ns" "a" { RunSpec.empty with state := some "RUNNING" }
  let b := Run.named "ns" "b" { RunSpec.empty with state := some "COMPLETE" }
  [.store (.insert a), .store (.insert b), .store (.setLatency 5000), .react (.create a.key),
    .react (.create b.key), .pass 1000, .monitor 0, .react (.create a.key), .react (.resume b)]

/-- All three have ended when the monitors have made their moves, at the same instant, and the run
that was being read was not read. -/
theorem shutdown_of_replacedHistory :
    (∀ a ∈ replacedHistory, a.LeavesRegistry) ∧
      ((initial .standard ⟨0, 0⟩).after (replacedHistory ++ [.shutdown])).WindsUp ∧
      ((initial .standard ⟨0, 0⟩).after
        (replacedHistory ++ [.shutdown])).runMonitors.monitors.map Monitor.exit? =
          [some .cancelled, some .cancelled, some .cancelled] ∧
      ((initial .standard ⟨0, 0⟩).after
        (replacedHistory ++ [.shutdown])).runMonitors.store.gets.entries = [] := by
  have hleaves : ∀ a ∈ replacedHistory, a.LeavesRegistry := by
    simp [replacedHistory, Action.LeavesRegistry]
  exact ⟨hleaves, shutdown_leaves_nothing .standard ⟨0, 0⟩ replacedHistory hleaves, rfl, rfl⟩

end World

end RunOperator
