import RunOperator.Proofs.LeaseViews
import RunOperator.Proofs.Staffing

/-!
# When a resumed run is monitored

A monitor that was told to stop stays registered until it has ended, and a run that is registered
gets no other monitor when it is resumed. `resumed_run_is_attended_iff` shows that a run on its way
is monitored after it is resumed unless its registered lease was cancelled before. In that case
nothing happens, and when the monitor that was told to stop has ended the run has none.
-/

namespace RunOperator

/-- Nobody but the dispatcher and its monitors uses the registry, and nobody else starts
monitors. -/
def Action.LeavesRegistry : Action → Prop
  | .start _ | .registry _ => False
  | _ => True

namespace Registry

variable {r : Registry} {ms : List Monitor} {k : RunKey}

/-- A finished monitor that removes its own entry leaves the registry staffed. -/
theorem Staffed.evict (h : r.Staffed ms) (k : RunKey) : (r.evict k).2.Staffed ms := by
  refine h.fades (r.fades_evict k) ?_
  intro id hid
  rw [evict_eq] at hid
  rw [← (r.fades_cancel k).nextId]
  exact (h.cancel k).cancelledIssued hid

/-- Cancelling every monitor leaves the registry staffed. -/
theorem Staffed.cancelAll (h : r.Staffed ms) : r.cancelAll.2.Staffed ms := by
  refine h.fades r.fades_cancelAll ?_
  intro id hid
  rcases isCancelled_cancelAll_iff.1 hid with ⟨k, hk⟩ | hcancelled
  · exact h.lt_nextId hk
  · exact h.cancelledIssued hcancelled

end Registry

namespace World

variable {w : World} {a : Action} {r : Run} {s : RunState} {k : RunKey} {id : Nat}

/-- A run that is on its way and registered is left to who is registered for it. -/
theorem onResume_of_registered (hstate : r.state = .ok s) (hfinal : s.isFinal = false)
    (hentry : w.registry.entries.get? r.key = some id) : w.onResume r = w := by
  rw [onResume, hstate]
  simp only [hfinal, Bool.false_eq_true, if_false]
  rw [attach]
  rcases w.registry.registerIfAbsent_eq r.key with ⟨-, heq⟩ | ⟨hnone, -⟩
  · rw [heq]
  · cases hnone.symm.trans hentry

/-- The reaction to an event leaves the registry staffed. -/
theorem Staffed.handle (hw : w.Staffed) (e : RunEvent) : (w.handle e).Staffed := by
  cases e with
  | create k => exact (hw.onCreate k).1
  | delete k => exact (hw.onDelete k).1
  | resume r =>
    rw [World.handle]
    cases hentry : w.registry.entries.get? r.key with
    | none => exact (hw.onResume hentry).1
    | some id =>
      cases hstate : r.state with
      | error e =>
        rw [World.onResume, hstate]
        exact hw
      | ok s =>
        cases hfinal : s.isFinal with
        | true =>
          rw [World.onResume, hstate]
          simp only [hfinal, if_true]
          exact Registry.Staffed.evict hw r.key
        | false => rwa [onResume_of_registered hstate hfinal hentry]

/-- The registry stays staffed as long as nobody but the dispatcher uses it. -/
theorem staffed_act (hw : w.Staffed) (ha : a.LeavesRegistry) : (w.act a).Staffed := by
  have hstaffs := staffs_act w a
  generalize w.act a = w' at hstaffs ⊢
  cases hstaffs with
  | keeps hregistry hmonitors =>
    rw [Staffed, hregistry, hmonitors]
    exact hw
  | moves store hm hlease hover =>
    have hstored : World.Staffed { w with store } := hw
    exact hstored.putMonitor hm hlease hover
  | reacts store loops events =>
    have hmoved : World.Staffed { w with store, loops } := hw
    exact List.foldlRecOn events World.handle hmoved fun w hw e _ => hw.handle e
  | dismisses => exact Registry.Staffed.cancelAll hw
  | changes c => cases ha
  | starts lease => cases ha

/-- The registry stays staffed through every history in which only the dispatcher changes it. -/
theorem Staffed.after (hw : w.Staffed) {h : List Action} (hleaves : ∀ a ∈ h, a.LeavesRegistry) :
    (w.after h).Staffed :=
  Along.invariant Staffed (fun _ _ ha hw => staffed_act hw ha) (along_of_forall hleaves) hw

/-- A run is attended if and only if a monitor that is recorded for it is at work. -/
theorem Staffed.attends_iff (hw : w.Staffed) :
    w.registry.attends k = true ↔ ∃ i, w.WorksFor i k ∧ w.RecordedFor i k := by
  constructor
  · exact hw.exists_worksFor
  · rintro ⟨i, ⟨m, hm, -, hactive⟩, m', hm', -, hentry⟩
    obtain rfl := Option.some.inj (hm.symm.trans hm')
    exact Registry.attends_eq_true_iff.2 ⟨_, hentry, hactive.2⟩

/-- After a resumption, an unfinished run is attended if and only if no entry of a cancelled monitor
stood in the way. -/
theorem Staffed.attends_onResume_iff (hw : w.Staffed) (hstate : r.state = .ok s)
    (hfinal : s.isFinal = false) :
    (w.onResume r).registry.attends r.key = true ↔
      ∀ id, w.registry.entries.get? r.key = some id → w.registry.isCancelled id = false := by
  cases hentry : w.registry.entries.get? r.key with
  | none =>
    have hattends := (hw.onResume hentry).2 r.key
    rw [if_pos rfl, Run.isUnderway_of_state hstate, hfinal] at hattends
    simp [hattends]
  | some id =>
    rw [onResume_of_registered hstate hfinal hentry, Registry.attends_eq_true_iff, hentry]
    simp

/-- **When a resumed run is monitored.** Take any history in which nobody but the dispatcher uses
the registry, and any run in a state that is not final. Right after the dispatcher has resumed the
run, a monitor that is recorded for it is at work if and only if the lease that was registered for
the run before, if any, was not cancelled. When a lease was registered nothing happens at all. -/
theorem resumed_run_is_attended_iff (settings : Settings) (wall : Instant) (h : List Action)
    (hleaves : ∀ a ∈ h, a.LeavesRegistry) (hstate : r.state = .ok s) (hfinal : s.isFinal = false) :
    ((∃ i, (((initial settings wall).after h).onResume r).WorksFor i r.key ∧
        (((initial settings wall).after h).onResume r).RecordedFor i r.key) ↔
      ∀ id, ((initial settings wall).after h).registry.entries.get? r.key = some id →
        ((initial settings wall).after h).registry.isCancelled id = false) ∧
    ∀ id, ((initial settings wall).after h).registry.entries.get? r.key = some id →
      ((initial settings wall).after h).onResume r = (initial settings wall).after h := by
  have hstaffed : ((initial settings wall).after h).Staffed :=
    Along.invariant Staffed (fun w a ha hw => staffed_act hw ha) (along_of_forall hleaves)
      Registry.staffed_empty
  have hresumed : (((initial settings wall).after h).onResume r).Staffed :=
    hstaffed.handle (.resume r)
  constructor
  · rw [← hresumed.attends_iff]
    exact hstaffed.attends_onResume_iff hstate hfinal
  · intro id hentry
    exact onResume_of_registered hstate hfinal hentry

/-- A run that is on its way. -/
def runningRun : Run := Run.named "ns" "a" { RunSpec.empty with state := some "RUNNING" }

/-- The run appears and is deleted, and its monitor has not noticed yet. -/
def deletedHistory : List Action :=
  [.store (.insert runningRun), .react (.create runningRun.key), .react (.delete runningRun.key)]

/-- After the monitor has ended, the run is monitored when it is resumed. -/
theorem resumed_run_is_attended_after_end :
    (∀ a ∈ deletedHistory ++ [.monitor 0], a.LeavesRegistry) ∧
      runningRun.state = .ok .running ∧ RunState.running.isFinal = false ∧
      ∃ i, (((initial .standard ⟨0, 0⟩).after (deletedHistory ++ [.monitor 0])).onResume
          runningRun).WorksFor i runningRun.key ∧
        (((initial .standard ⟨0, 0⟩).after (deletedHistory ++ [.monitor 0])).onResume
          runningRun).RecordedFor i runningRun.key := by
  have hleaves : ∀ a ∈ deletedHistory ++ [.monitor 0], a.LeavesRegistry := by
    simp [deletedHistory, Action.LeavesRegistry]
  refine ⟨hleaves, rfl, rfl, ?_⟩
  refine (resumed_run_is_attended_iff .standard ⟨0, 0⟩ _ hleaves rfl rfl).1.2 ?_
  intro id hentry
  cases hentry

/-- A run that is resumed while the monitor that was told to stop has not ended is not monitored,
and when that monitor has ended nobody is registered for the run. -/
theorem resumed_run_not_attended :
    (∀ a ∈ deletedHistory, a.LeavesRegistry) ∧
      runningRun.state = .ok .running ∧ RunState.running.isFinal = false ∧
      (¬ ∃ i, (((initial .standard ⟨0, 0⟩).after deletedHistory).onResume
          runningRun).WorksFor i runningRun.key ∧
        (((initial .standard ⟨0, 0⟩).after deletedHistory).onResume
          runningRun).RecordedFor i runningRun.key) ∧
      ((initial .standard ⟨0, 0⟩).after (deletedHistory ++
        [.react (.resume runningRun), .monitor 0])).registry.entries.get? runningRun.key =
          none := by
  refine ⟨by simp [deletedHistory, Action.LeavesRegistry], rfl, rfl, ?_, rfl⟩
  rintro ⟨i, ⟨m, hm, -, hactive⟩, m', hm', -, hentry⟩
  obtain rfl := Option.some.inj (hm.symm.trans hm')
  have hid : some 0 = some m.lease.id := hentry
  have hcancelled := hactive.2
  rw [← Option.some.inj hid] at hcancelled
  cases hcancelled

end World

end RunOperator
