import RunOperator.Proofs.Leases
import RunOperator.Proofs.StoreEffects

/-!
# The dispatcher and the registry

The dispatcher, the loops and the monitors keep the registry in order (`governed_act`), as long as
nobody else starts monitors or releases leases. A monitor that was told to stop, or has ended, never
does anything again. This holds whoever has started it (`Retired.act`).
-/

namespace RunOperator

/-- Nobody but the dispatcher starts monitors, nobody but they release their leases, and nobody
gives a stored run another key. -/
def Action.Orderly : Action → Prop
  | .start _ | .registry (.release _) => False
  | .store c => c.KeepsKeys
  | _ => True

namespace World

variable {w : World} {number : Nat} {k : RunKey} {m m' : Monitor}

/-- The monitor was started for the run, has not ended and was not told to stop. -/
def WorksFor (w : World) (number : Nat) (k : RunKey) : Prop :=
  ∃ m, w.monitors[number]? = some m ∧ m.lease.key = k ∧ m.ActiveIn w.registry

/-- The monitor is the one that the registry has recorded for the run. -/
def RecordedFor (w : World) (number : Nat) (k : RunKey) : Prop :=
  ∃ m, w.monitors[number]? = some m ∧ m.lease.key = k ∧
    w.registry.entries.get? k = some m.lease.id

/-- The registry knows of the monitors what it should. -/
def Governed (w : World) : Prop := w.registry.Governs w.monitors

/-- No two monitors work for one run. -/
theorem Governed.eq_of_worksFor (hw : w.Governed) {i j : Nat} (hi : w.WorksFor i k)
    (hj : w.WorksFor j k) : i = j := by
  obtain ⟨m, hm, hkey, hactive⟩ := hi
  obtain ⟨m', hm', hkey', hactive'⟩ := hj
  rcases Nat.lt_trichotomy i j with hlt | heq | hgt
  · exact absurd hactive (hw.superseded hlt hm hm' (hkey.trans hkey'.symm))
  · exact heq
  · exact absurd hactive' (hw.superseded hgt hm' hm (hkey'.trans hkey.symm))

/-- A reaction of the dispatcher cancels leases, and it may start a monitor on the lease that is
issued next, after the one that was registered for the run was cancelled. -/
theorem handle_cases (w : World) (e : RunEvent) :
    (∃ r, w.registry.Fades r ∧ w.handle e = { w with registry := r }) ∨
      ∃ r, w.registry.Fades r ∧
        (∀ {id}, w.registry.entries.get? e.key = some id → r.isCancelled id = true) ∧
        w.handle e = { w with registry := (r.issue e.key).2 }.spawn (r.issue e.key).1 := by
  cases e with
  | create k =>
    right
    obtain ⟨r, hfades, heq, hcancelled⟩ := w.registry.registerReplacing_eq k
    refine ⟨r, hfades, hcancelled, ?_⟩
    rw [handle, onCreate, heq]
    rfl
  | delete k => exact Or.inl ⟨_, w.registry.fades_cancel k, rfl⟩
  | resume run =>
    rw [handle, onResume]
    split
    · exact Or.inl ⟨w.registry, Registry.Fades.refl _, rfl⟩
    · split
      · exact Or.inl ⟨_, w.registry.fades_evict run.key, rfl⟩
      · rw [attach]
        rcases w.registry.registerIfAbsent_eq run.key with ⟨-, heq⟩ | ⟨hnone, heq⟩ <;> rw [heq]
        · exact Or.inl ⟨w.registry, Registry.Fades.refl _, rfl⟩
        · refine Or.inr ⟨w.registry, Registry.Fades.refl _, ?_, rfl⟩
          intro id hid
          cases hnone.symm.trans hid

/-- A reaction to an event keeps the monitors governed. -/
theorem Governed.handle (hw : w.Governed) (e : RunEvent) : (w.handle e).Governed := by
  rcases handle_cases w e with ⟨r, hfades, heq⟩ | ⟨r, hfades, hcancelled, heq⟩ <;> rw [heq]
  · exact Registry.Governs.fades hw hfades
  · have hgoverns : r.Governs w.monitors := Registry.Governs.fades hw hfades
    have hidle {i : Nat} {m : Monitor} (hm : w.monitors[i]? = some m)
        (hkey : m.lease.key = e.key) : ¬ m.ActiveIn r :=
      Registry.Governs.idle_of_fades hw hfades hcancelled hm hkey
    refine (hgoverns.issue hidle).start ?_ hgoverns.issued ?_ hidle
    · exact Nat.lt_succ_self _
    · exact (r.get?_issue e.key e.key).trans (if_pos rfl)

/-- Reactions to events keep the monitors governed. -/
theorem Governed.foldl_handle (hw : w.Governed) (events : List RunEvent) :
    (events.foldl World.handle w).Governed := by
  induction events generalizing w with
  | nil => exact hw
  | cons e events ih => exact ih (hw.handle e)

/-- A monitor that goes on, and releases its lease with its end, leaves the registry in order. -/
theorem Governed.putMonitor (hw : w.Governed) (hm : w.monitors[number]? = some m)
    (hlease : m'.lease = m.lease) (hover : m.isOver = false) :
    (w.putMonitor number m').Governed := by
  have hcarried : w.registry.Governs (w.monitors.set number m') :=
    Registry.Governs.carry hw (Registry.carries_set hm hlease hover)
  unfold Governed World.putMonitor
  dsimp only
  split
  · next hend =>
    refine hcarried.release ?_
    intro i m'' hm'' hid
    have hself : (w.monitors.set number m')[number]? = some m' := by
      rw [List.getElem?_set, if_pos rfl, if_pos (List.getElem?_eq_some_iff.1 hm).1]
    obtain rfl := hcarried.eq_of_id hm'' hself hid
    obtain rfl := Option.some.inj (hm''.symm.trans hself)
    exact hend
  · exact hcarried

/-- The registry stays in order when only the dispatcher starts monitors. -/
theorem governed_act {a : Action} (hw : w.Governed) (ha : a.Orderly) : (w.act a).Governed := by
  cases a with
  | monitor n =>
    rcases act_monitor_cases w n with heq | ⟨m, m', s', hm, hstep, heq⟩ <;> rw [heq]
    · exact hw
    · have hlist := Monitor.step_of_step? hstep
      have hstored : World.Governed { w with store := s' } := hw
      exact hstored.putMonitor hm hlist.lease_eq (Monitor.isOver_of_step? hstep)
  | abort n =>
    rcases act_abort_cases w n with heq | ⟨m, hm, hover, heq⟩ <;> rw [heq]
    · exact hw
    · exact hw.putMonitor hm rfl hover
  | react e => exact hw.handle e
  | loop n =>
    obtain ⟨store, loops, events, heq⟩ := act_loop_eq w n
    have hmoved : World.Governed { w with store, loops } := hw
    rw [heq]
    exact hmoved.foldl_handle events
  | shutdown => exact Registry.Governs.fades hw w.registry.fades_cancelAll
  | registry c => exact Registry.Governs.change hw (by rintro lease rfl; exact ha)
  | start lease => cases ha
  | emit n item =>
    obtain ⟨loops, heq⟩ := act_emit_eq w n item
    rw [heq]
    exact hw
  | _ => exact hw

/-! ### Retirement -/

/-- The monitor has ended or was told to stop. -/
def Retired (w : World) (number : Nat) : Prop :=
  ∃ m, w.monitors[number]? = some m ∧ ¬ m.ActiveIn w.registry

/-- A monitor that goes on or ends cancels no token. -/
@[simp] theorem isCancelled_putMonitor (w : World) (number : Nat) (m : Monitor) (id : Nat) :
    (w.putMonitor number m).registry.isCancelled id = w.registry.isCancelled id := by
  unfold putMonitor
  dsimp only
  split
  · exact Registry.isCancelled_release w.registry m.lease id
  · rfl

/-- A token stays cancelled whatever the reactions to events are. -/
theorem isCancelled_foldl_handle {id : Nat} (events : List RunEvent)
    (h : w.registry.isCancelled id = true) :
    (events.foldl World.handle w).registry.isCancelled id = true := by
  induction events generalizing w with
  | nil => exact h
  | cons e events ih =>
    refine ih ?_
    rcases handle_cases w e with ⟨r, hfades, heq⟩ | ⟨r, hfades, -, heq⟩ <;> rw [heq]
    · exact hfades.cancelled id h
    · exact hfades.cancelled id h

/-- A cancelled lease stays cancelled. -/
theorem isCancelled_act {id : Nat} (h : w.registry.isCancelled id = true) (a : Action) :
    (w.act a).registry.isCancelled id = true := by
  cases a with
  | monitor n =>
    rcases act_monitor_cases w n with heq | ⟨m, m', s', -, -, heq⟩ <;> rw [heq]
    · exact h
    · rwa [isCancelled_putMonitor]
  | abort n =>
    rcases act_abort_cases w n with heq | ⟨m, -, -, heq⟩ <;> rw [heq]
    · exact h
    · rwa [isCancelled_putMonitor]
  | react e => exact isCancelled_foldl_handle [e] h
  | loop n =>
    obtain ⟨store, loops, events, heq⟩ := act_loop_eq w n
    rw [heq]
    exact isCancelled_foldl_handle events h
  | shutdown => exact w.registry.fades_cancelAll.cancelled id h
  | registry c => exact Registry.isCancelled_change h c
  | emit n item =>
    obtain ⟨loops, heq⟩ := act_emit_eq w n item
    rw [heq]
    exact h
  | _ => exact h

/-- A monitor that has retired stays retired, whatever happens. -/
theorem Retired.act (h : w.Retired number) (a : Action) : (w.act a).Retired number := by
  obtain ⟨m, hm, hidle⟩ := h
  obtain ⟨m', hm', hlease, hover⟩ := exists_monitor_act hm a
  refine ⟨m', hm', ?_⟩
  rintro ⟨hactive, huncancelled⟩
  refine hidle ⟨?_, ?_⟩
  · cases hend : m.isOver with
    | false => rfl
    | true => exact absurd hactive (by simp [hover hend])
  · cases hcancelled : w.registry.isCancelled m.lease.id with
    | false => rfl
    | true =>
      rw [hlease, isCancelled_act hcancelled a] at huncancelled
      cases huncancelled

/-- A retired monitor stays retired. -/
theorem Retired.after (h : w.Retired number) (later : List Action) :
    (w.after later).Retired number :=
  after_invariant (fun w => w.Retired number) (fun _ a h => h.act a) later h

/-- Only an active monitor makes client calls. -/
theorem active_of_call? {call : ClientCall} (h : w.call? number = some call) :
    ∃ m, w.monitors[number]? = some m ∧ m.ActiveIn w.registry := by
  obtain ⟨m, hm, hcall⟩ := call?_eq_some h
  refine ⟨m, hm, ?_, ?_⟩
  · cases hphase : m.phase with
    | ended e => simp [Monitor.call?, hphase] at hcall
    | _ => simp [Monitor.isOver, Monitor.exit?, hphase]
  · cases hcancelled : w.registry.isCancelled m.lease.id with
    | false => rfl
    | true => simp [Monitor.call?, hcancelled] at hcall

/-- A monitor that has retired makes no client call. -/
theorem Retired.call?_eq_none (h : w.Retired number) : w.call? number = none := by
  cases hcall : w.call? number with
  | none => rfl
  | some call =>
    obtain ⟨m, hm, hidle⟩ := h
    obtain ⟨m', hm', hactive⟩ := active_of_call? hcall
    obtain rfl := Option.some.inj (hm.symm.trans hm')
    exact absurd hactive hidle

end World

end RunOperator
