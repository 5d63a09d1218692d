import Mathlib.Data.List.Induction
import RunOperator.Proofs.Custody
import RunOperator.Proofs.LeaseViews
import RunOperator.Proofs.PollOutcomes

/-!
# Cancellation is final and prompt

A monitor is told to stop by its token: when its run is deleted, created anew or found finished,
when all monitors are, or directly. `cancelled_monitors_stop` shows what follows, whatever the
monitor is doing at that moment and whatever happens afterwards. The monitor leaves the store as it
is, its next move is its end, which needs no time, and with its end the entry of its own lease goes
and no other.
-/

namespace RunOperator

/-- The action tells the monitor that is registered on the lease to stop. -/
inductive Action.Cancels (lease : Lease) : Action → Prop where
  | deleted : Cancels lease (.react (.delete lease.key))
  | created : Cancels lease (.react (.create lease.key))
  /-- The run is found finished. -/
  | finished {r : Run} {s : RunState} : r.key = lease.key → r.state = .ok s → s.isFinal = true →
      Cancels lease (.react (.resume r))
  | shutdown : Cancels lease .shutdown
  | cancel : Cancels lease (.registry (.cancel lease.key))
  | evict : Cancels lease (.registry (.evict lease.key))
  | replace : Cancels lease (.registry (.registerReplacing lease.key))
  | cancelAll : Cancels lease (.registry .cancelAll)
  | token : Cancels lease (.registry (.cancelToken lease.id))

namespace Registry

variable {r : Registry} {k : RunKey} {id : Nat} {lease : Lease}

/-- Cancelling a registration cancels its token. -/
theorem isCancelled_cancel (h : r.entries.get? k = some id) :
    (r.cancel k).2.isCancelled id = true := by
  rw [cancel, h]
  simp [isCancelled_cancelId]

/-- Evicting a registration cancels its token. -/
theorem isCancelled_evict (h : r.entries.get? k = some id) :
    (r.evict k).2.isCancelled id = true := by
  rw [evict, h]
  exact List.contains_iff_mem.2 List.mem_cons_self

/-- Replacing a registration cancels its token. -/
theorem isCancelled_registerReplacing (h : r.entries.get? k = some id) :
    (r.registerReplacing k).2.isCancelled id = true := by
  obtain ⟨r', -, heq, hcancelled⟩ := r.registerReplacing_eq k
  rw [heq]
  exact hcancelled h

private theorem isCancelled_cancelId_self (r : Registry) (id : Nat) :
    (r.cancelId id).isCancelled id = true := by
  simp [isCancelled_cancelId]

end Registry

/-- A monitor that was cancelled can make a move at once, with which it ends. -/
theorem Monitor.step?_of_isCancelled {settings : Settings} {wall : Instant} {now : Nat}
    {m : Monitor} {s : Store} (hover : m.isOver = false) :
    m.step? settings wall now true s = some (m.exitWith .cancelled, s) := by
  cases hphase : m.phase with
  | ended e => simp [isOver, exit?, hphase] at hover
  | _ => exact step?_of_cancelled (by rw [hphase]; rfl)

/-- A monitor that has ended makes no move. -/
theorem Monitor.step?_of_isOver {settings : Settings} {wall : Instant} {now : Nat}
    {cancelled : Bool} {m : Monitor} {s : Store} (hover : m.isOver = true) :
    m.step? settings wall now cancelled s = none := by
  cases hstep : m.step? settings wall now cancelled s with
  | none => rfl
  | some next => cases hover.symm.trans (isOver_of_step? hstep)

namespace World

variable {w : World} {number : Nat} {m m' : Monitor} {a : Action}

/-- What tells a monitor to stop has cancelled its token. -/
theorem isCancelled_act_of_cancels {lease : Lease} (ha : a.Cancels lease)
    (hlease : w.registry.entries.get? lease.key = some lease.id ∨
      w.registry.isCancelled lease.id = true) :
    (w.act a).registry.isCancelled lease.id = true := by
  rcases hlease with hentry | hcancelled
  · cases ha with
    | deleted | cancel => exact Registry.isCancelled_cancel hentry
    | created | replace => exact Registry.isCancelled_registerReplacing hentry
    | finished hkey hstate hfinal =>
      rw [act, handle, onResume, hstate]
      simp only [hfinal, if_true]
      rw [hkey]
      exact Registry.isCancelled_evict hentry
    | evict => exact Registry.isCancelled_evict hentry
    | shutdown | cancelAll => exact Registry.isCancelled_cancelAll_iff.2 (Or.inl ⟨_, hentry⟩)
    | token => exact w.registry.isCancelled_cancelId_self lease.id
  · exact isCancelled_act hcancelled a

/-! ### A monitor that was told to stop -/

/-- The monitor was told to stop and has not ended yet. -/
structure Told (w : World) (number : Nat) (m : Monitor) : Prop where
  monitor : w.monitors[number]? = some m
  live : m.isOver = false
  cancelled : w.registry.isCancelled m.lease.id = true

/-- Nobody but a monitor itself and who aborts it changes the monitor. -/
theorem getElem?_act_of_other (hm : w.monitors[number]? = some m) (ha : ¬ a.IsOf number) :
    (w.act a).monitors[number]? = some m := by
  obtain ⟨m', hm', -, -⟩ := exists_monitor_act hm a
  rw [hm']
  cases fate_of_act hm' with
  | kept hkept => exact hkept.symm.trans hm
  | moved m₀ heq _ _ => exact absurd (Or.inl heq) ha
  | aborted m₀ heq _ _ => exact absurd (Or.inr heq) ha
  | started lease hle _ =>
    have hlt := (List.getElem?_eq_some_iff.1 hm).1
    omega

/-- With its next move the monitor ends as cancelled, and it ends when it is aborted. Nothing else
happens, but that its lease is released. -/
theorem Told.act_eq (h : w.Told number m) (ha : a.IsOf number) :
    ∃ e, (e = .cancelled ∧ a = .monitor number ∨ e = .aborted ∧ a = .abort number) ∧
      w.act a = w.putMonitor number (m.exitWith e) := by
  rcases ha with rfl | rfl
  · refine ⟨.cancelled, Or.inl ⟨rfl, rfl⟩, ?_⟩
    have hstep : m.step? w.settings w.wall w.clock true w.store =
        some (m.exitWith .cancelled, w.store) := Monitor.step?_of_isCancelled h.live
    rw [← h.cancelled] at hstep
    simp only [act, nudgeMonitor, moveMonitor?_of_step? h.monitor hstep, Option.getD_some]
  · refine ⟨.aborted, Or.inr ⟨rfl, rfl⟩, ?_⟩
    rw [act, abort, h.monitor]
    simp [h.live]

/-- What others do neither moves a monitor nor takes back that it was told to stop. -/
theorem Told.act_of_other (h : w.Told number m) (ha : ¬ a.IsOf number) :
    (w.act a).Told number m where
  monitor := getElem?_act_of_other h.monitor ha
  live := h.live
  cancelled := isCancelled_act h.cancelled a

/-- The monitor that is put in place stands there. -/
theorem getElem?_putMonitor (hm : w.monitors[number]? = some m) :
    (w.putMonitor number m').monitors[number]? = some m' :=
  List.getElem?_set_self (List.getElem?_eq_some_iff.1 hm).1

/-- Nothing happens to a monitor that has ended. -/
theorem act_of_isOver (hm : w.monitors[number]? = some m) (hover : m.isOver = true)
    (ha : a.IsOf number) : w.act a = w := by
  rcases ha with rfl | rfl
  · simp [act, nudgeMonitor, moveMonitor?, hm, Monitor.step?_of_isOver hover]
  · rw [act, abort, hm]
    simp [hover]

/-- A monitor that has ended stays as it is. -/
theorem getElem?_act_of_isOver (hm : w.monitors[number]? = some m) (hover : m.isOver = true)
    (a : Action) : (w.act a).monitors[number]? = some m := by
  by_cases ha : a.IsOf number
  · rwa [act_of_isOver hm hover ha]
  · exact getElem?_act_of_other hm ha

/-- The monitor has ended, as cancelled or aborted, and its entry is gone for good. -/
structure Dismissed (w : World) (number : Nat) (m : Monitor) (e : MonitorExit) : Prop where
  monitor : w.monitors[number]? = some (m.exitWith e)
  issued : m.lease.id < w.registry.nextId
  released : w.registry.entries.get? m.lease.key ≠ some m.lease.id

/-- A monitor that was dismissed stays so. -/
theorem Dismissed.act {e : MonitorExit} (h : w.Dismissed number m e) (a : Action) :
    (w.act a).Dismissed number m e where
  monitor := getElem?_act_of_isOver h.monitor rfl a
  issued := Nat.lt_of_lt_of_le h.issued (precedes_act w a).nextId
  released := fun hentry => h.released ((precedes_act w a).old hentry h.issued)

/-- A monitor that was told to stop is dismissed by its own next move, or by being aborted. -/
theorem Told.dismissed_act (h : w.Told number m) (hissued : m.lease.id < w.registry.nextId)
    (ha : a.IsOf number) :
    ∃ e, (e = .cancelled ∧ a = .monitor number ∨ e = .aborted ∧ a = .abort number) ∧
      (w.act a).Dismissed number m e := by
  obtain ⟨e, he, hact⟩ := h.act_eq ha
  refine ⟨e, he, ?_⟩
  rw [hact]
  have hregistry : (w.putMonitor number (m.exitWith e)).registry = w.registry.release m.lease := rfl
  refine ⟨getElem?_putMonitor h.monitor, ?_, ?_⟩
  · rwa [hregistry, Registry.nextId_release]
  · rw [hregistry]
    exact w.registry.get?_release_ne m.lease

/-- Whatever happens later, the monitor stays as it is until it is dismissed. -/
theorem Told.after (h : w.Told number m) (hissued : m.lease.id < w.registry.nextId)
    (later : List Action) :
    (w.after later).Told number m ∧ m.lease.id < (w.after later).registry.nextId ∨
      (w.after later).Dismissed number m .cancelled ∨
      .abort number ∈ later ∧ (w.after later).Dismissed number m .aborted := by
  induction later using List.reverseRecOn with
  | nil => exact Or.inl ⟨h, hissued⟩
  | append_singleton later a ih =>
    rw [after_concat]
    rcases ih with ⟨htold, hissued⟩ | hdismissed | ⟨habort, hdismissed⟩
    · by_cases ha : a.IsOf number
      · obtain ⟨e, ⟨rfl, -⟩ | ⟨rfl, rfl⟩, hdismissed⟩ := htold.dismissed_act hissued ha
        · exact Or.inr (Or.inl hdismissed)
        · exact Or.inr (Or.inr ⟨by simp, hdismissed⟩)
      · exact Or.inl ⟨htold.act_of_other ha,
          Nat.lt_of_lt_of_le hissued (precedes_act _ a).nextId⟩
    · exact Or.inr (Or.inl (hdismissed.act a))
    · exact Or.inr (Or.inr ⟨List.mem_append_left _ habort, hdismissed.act a⟩)

/-! ### The moves of an instant -/

/-- What a change keeps is kept by many of them. -/
theorem repeat_invariant (holds : World → Prop) {f : World → World}
    (hf : ∀ w, holds w → holds (f w)) (n : Nat) (hw : holds w) : holds (Nat.repeat f n w) := by
  induction n with
  | zero => exact hw
  | succ n ih => exact hf _ ih

/-- The monitor was told to stop or has ended as cancelled. -/
def Stops (number : Nat) (m : Monitor) (w : World) : Prop :=
  w.Told number m ∨ w.monitors[number]? = some (m.exitWith .cancelled)

/-- A monitor that stops goes on stopping, unless it is aborted. -/
theorem Stops.act (h : Stops number m w) (ha : a ≠ .abort number) : Stops number m (w.act a) := by
  rcases h with htold | hended
  · by_cases hof : a.IsOf number
    · obtain ⟨e, ⟨rfl, -⟩ | ⟨-, rfl⟩, hact⟩ := htold.act_eq hof
      · rw [hact]
        exact Or.inr (getElem?_putMonitor htold.monitor)
      · exact absurd rfl ha
    · exact Or.inl (htold.act_of_other hof)
  · exact Or.inr (getElem?_act_of_isOver hended rfl a)

private theorem Stops.nudge (h : Stops number m w) :
    (nudgeMonitor number w).monitors[number]? = some (m.exitWith .cancelled) := by
  rcases h with htold | hended
  · obtain ⟨e, ⟨rfl, -⟩ | ⟨-, hne⟩, hact⟩ := htold.act_eq (Or.inl rfl)
    · rw [World.act] at hact
      rw [hact]
      exact getElem?_putMonitor htold.monitor
    · cases hne
  · exact getElem?_act_of_isOver hended rfl (.monitor number)

/-- Loops that run do not keep a monitor from stopping. -/
theorem Stops.runLoops (h : Stops number m w) : Stops number m w.runLoops := by
  refine List.foldlRecOn _ _ h ?_
  intro w hw n _
  exact repeat_invariant (Stops number m)
    (fun w hw => Stops.act (a := .loop n) hw (by simp)) _ hw

/-- When all monitors make their moves, the monitor ends. -/
theorem Stops.runMonitors (h : Stops number m w) :
    w.runMonitors.monitors[number]? = some (m.exitWith .cancelled) := by
  have hlt : number < w.monitors.length := by
    rcases h with htold | hended
    · exact (List.getElem?_eq_some_iff.1 htold.monitor).1
    · exact (List.getElem?_eq_some_iff.1 hended).1
  obtain ⟨before, rest, hrange⟩ := List.append_of_mem (List.mem_range.2 hlt)
  have hstep (w : World) (hw : Stops number m w) (n : Nat) (count : Nat) :
      Stops number m (Nat.repeat (nudgeMonitor n) count w) :=
    repeat_invariant (Stops number m) (fun w hw => Stops.act (a := .monitor n) hw (by simp)) _ hw
  rw [World.runMonitors, hrange, List.foldl_append, List.foldl_cons]
  refine List.foldlRecOn
    (motive := fun (w : World) => w.monitors[number]? = some (m.exitWith .cancelled)) _ _ ?_ ?_
  · exact (hstep _ (List.foldlRecOn _ _ h fun w hw n _ => hstep w hw n _) _ _).nudge
  · intro w hw n _
    exact repeat_invariant (fun w => w.monitors[number]? = some (m.exitWith .cancelled))
      (fun w hw => getElem?_act_of_isOver hw rfl (.monitor n)) _ hw

/-- When all moves of the instant are made, the monitor ends. -/
theorem Told.settle (h : w.Told number m) :
    w.settle.monitors[number]? = some (m.exitWith .cancelled) := by
  have hround : Stops number m w.round := Or.inr (Stops.runMonitors (Stops.runLoops (Or.inl h)))
  exact Stops.runMonitors (Stops.runLoops hround)

/-! ### The main statement -/

/-- A monitor that was told to stop stops. -/
structure Stopped (w : World) (number : Nat) (m : Monitor) : Prop where
  /-- Whatever happens later, it stays as it is until it ends, and it ends as cancelled unless its
  task is aborted first. -/
  course : ∀ later, (w.after later).monitors[number]? = some m ∨
    (w.after later).monitors[number]? = some (m.exitWith .cancelled) ∨
    .abort number ∈ later ∧ (w.after later).monitors[number]? = some (m.exitWith .aborted)
  /-- Nothing that it does or that is done to it changes the store in any way. -/
  silent : ∀ later a, a.IsOf number → ((w.after later).act a).store = (w.after later).store
  /-- As long as it has not ended its next move is its end, for which it need not wait. -/
  prompt : ∀ later, (w.after later).monitors[number]? = some m →
    (w.after later).act (.monitor number) =
      (w.after later).putMonitor number (m.exitWith .cancelled)
  /-- When all moves of an instant are made, it ends at this instant, and its entry goes. -/
  settles : ∀ later, (w.after later).monitors[number]? = some m →
    (w.after later).settle.clock = (w.after later).clock ∧
      (w.after later).settle.monitors[number]? = some (m.exitWith .cancelled) ∧
      (w.after later).settle.registry.entries.get? m.lease.key ≠ some m.lease.id
  /-- Once it has ended its entry is gone for good. -/
  released : ∀ later, (w.after later).monitors[number]? ≠ some m →
    (w.after later).registry.entries.get? m.lease.key ≠ some m.lease.id
  /-- Its end takes no entry of another lease, for the same run or any other. -/
  spares : ∀ later a k id, a.IsOf number → id ≠ m.lease.id →
    (((w.after later).act a).registry.entries.get? k = some id ↔
      (w.after later).registry.entries.get? k = some id)

private theorem Monitor.exitWith_ne {e : MonitorExit} (hover : m.isOver = false) :
    m.exitWith e ≠ m := by
  intro heq
  rw [← heq] at hover
  cases hover

/-- What holds of a monitor that was told to stop holds from then on. -/
theorem Told.stopped (h : w.Told number m) (hissued : m.lease.id < w.registry.nextId) :
    w.Stopped number m := by
  have htold {later : List Action} (hm : (w.after later).monitors[number]? = some m) :
      (w.after later).Told number m :=
    ⟨hm, h.live, after_invariant (fun w => w.registry.isCancelled m.lease.id = true)
      (fun w a hw => isCancelled_act hw a) later h.cancelled⟩
  have hreleased (later : List Action) (hm : (w.after later).monitors[number]? ≠ some m) :
      (w.after later).registry.entries.get? m.lease.key ≠ some m.lease.id := by
    rcases h.after hissued later with ⟨hstill, -⟩ | hdismissed | ⟨-, hdismissed⟩
    · exact absurd hstill.monitor hm
    · exact hdismissed.released
    · exact hdismissed.released
  constructor
  · intro later
    rcases h.after hissued later with ⟨hstill, -⟩ | hdismissed | ⟨habort, hdismissed⟩
    · exact Or.inl hstill.monitor
    · exact Or.inr (Or.inl hdismissed.monitor)
    · exact Or.inr (Or.inr ⟨habort, hdismissed.monitor⟩)
  · intro later a ha
    rcases h.after hissued later with ⟨hstill, -⟩ | hdismissed | ⟨-, hdismissed⟩
    · obtain ⟨e, -, hact⟩ := hstill.act_eq ha
      rw [hact]
      rfl
    · rw [act_of_isOver hdismissed.monitor rfl ha]
    · rw [act_of_isOver hdismissed.monitor rfl ha]
  · intro later hm
    obtain ⟨e, ⟨rfl, -⟩ | ⟨-, hne⟩, hact⟩ := (htold hm).act_eq (Or.inl rfl)
    · exact hact
    · cases hne
  · intro later hm
    have hended := (htold hm).settle
    refine ⟨clock_settle _, hended, ?_⟩
    obtain ⟨moves, hmoves⟩ := exists_history_settle (w.after later)
    rw [hmoves, ← after_append] at hended ⊢
    refine hreleased _ ?_
    rw [hended]
    exact fun heq => Monitor.exitWith_ne h.live (Option.some.inj heq)
  · exact hreleased
  · intro later a k id ha hne
    rcases h.after hissued later with ⟨hstill, -⟩ | hdismissed | ⟨-, hdismissed⟩
    · obtain ⟨e, -, hact⟩ := hstill.act_eq ha
      rw [hact]
      exact Registry.get?_release_eq_some_iff hne
    · rw [act_of_isOver hdismissed.monitor rfl ha]
    · rw [act_of_isOver hdismissed.monitor rfl ha]

/-- **Cancellation is final and prompt.** Take any monitor that has not ended, after any history in
which leases are not copied, whatever it is doing: it sleeps, or it waits for the answer of a call,
and what it waits for may be due. From the moment at which it is told to stop, by whatever tells it,
the monitor changes nothing in the store any more. It ends as cancelled at that instant, and with
its end the entry of its own lease goes and no other. -/
theorem cancelled_monitors_stop (settings : Settings) (wall : Instant) (h : List Action)
    (hhands : (initial settings wall).Along HandsOn h)
    (hm : ((initial settings wall).after h).monitors[number]? = some m)
    (hover : m.isOver = false) :
    (∀ a : Action, a.Cancels m.lease →
      ((initial settings wall).after (h ++ [a])).Stopped number m) ∧
    (((initial settings wall).after h).registry.isCancelled m.lease.id = true →
      ((initial settings wall).after h).Stopped number m) := by
  have hbacked : ((initial settings wall).after h).Backed :=
    Along.invariant Backed (fun w a ha hw => backed_act hw ha) hhands (Registry.backs_nil _)
  have hissued := hbacked.issued hm
  constructor
  · intro a ha
    have hother : ¬ a.IsOf number := by
      rintro (rfl | rfl) <;> cases ha
    have hlease : ((initial settings wall).after h).registry.entries.get? m.lease.key =
        some m.lease.id ∨ ((initial settings wall).after h).registry.isCancelled m.lease.id =
          true := by
      cases hcancelled : ((initial settings wall).after h).registry.isCancelled m.lease.id with
      | true => exact Or.inr rfl
      | false => exact Or.inl (hbacked.registered hm ⟨hover, hcancelled⟩)
    rw [after_concat]
    have htold : (((initial settings wall).after h).act a).Told number m :=
      ⟨getElem?_act_of_other hm hother, hover, isCancelled_act_of_cancels ha hlease⟩
    exact htold.stopped (Nat.lt_of_lt_of_le hissued (precedes_act _ a).nextId)
  · intro hcancelled
    exact Told.stopped ⟨hm, hover, hcancelled⟩ hissued

/-- A monitor is about to replace its run, and the answer is due. -/
def dueHistory : List Action :=
  let r := Run.named "ns" "a" { RunSpec.empty with state := some "QUEUED" }
  [.store (.insert r), .store (.setPods r.key [.running]), .store (.setLatency 200),
    .react (.create r.key), .pass 1000, .monitor 0, .pass 200, .monitor 0, .pass 200, .monitor 0,
    .pass 200]

/-- When the run is created anew, this monitor stops, and its successor stays registered. -/
theorem cancelled_monitors_stop_of_dueHistory :
    (initial .standard ⟨0, 0⟩).Along HandsOn dueHistory ∧
      ∃ m, ((initial .standard ⟨0, 0⟩).after dueHistory).monitors[0]? = some m ∧
        m.isOver = false ∧ (Action.react (.create ⟨"ns", "a"⟩)).Cancels m.lease ∧
        ((initial .standard ⟨0, 0⟩).after
          (dueHistory ++ [.react (.create ⟨"ns", "a"⟩)])).Stopped 0 m ∧
        ((initial .standard ⟨0, 0⟩).after
          (dueHistory ++ [.react (.create ⟨"ns", "a"⟩), .monitor 0])).registry.entries.get?
            ⟨"ns", "a"⟩ = some 1 := by
  have hhands : (initial .standard ⟨0, 0⟩).Along HandsOn dueHistory := by
    simp [Along, HandsOn, dueHistory]
  refine ⟨hhands, _, rfl, rfl, .created, ?_, rfl⟩
  exact (cancelled_monitors_stop .standard ⟨0, 0⟩ dueHistory hhands rfl rfl).1 _ .created

end World

end RunOperator
