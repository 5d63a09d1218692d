import RunOperator.Proofs.History
import RunOperator.Proofs.MonitorStep

/-!
# What an action does to the world

Monitors are only ever added, and none changes but by its own moves and by being aborted
(`fate_of_act`). The dispatcher and the loops leave the store alone, except that a loop takes the
events of its watch, and a move of a monitor does to the store what its client call does
(`store_act_monitor`).
-/

namespace RunOperator

namespace Monitor

variable {ms : List Monitor} {m m' : Monitor} {i n : Nat}

/-- The monitors of a list in which one was changed. -/
theorem getElem?_set_cases (h : (ms.set n m)[i]? = some m') :
    n = i ∧ m = m' ∨ n ≠ i ∧ ms[i]? = some m' := by
  rw [List.getElem?_set] at h
  split at h
  · next heq =>
    split at h
    · exact Or.inl ⟨heq, Option.some.inj h⟩
    · cases h
  · next hne => exact Or.inr ⟨hne, h⟩

/-- The monitors of a list to which one was added. -/
theorem getElem?_concat_cases (h : (ms ++ [m])[i]? = some m') :
    i < ms.length ∧ ms[i]? = some m' ∨ i = ms.length ∧ m' = m := by
  rw [List.getElem?_append] at h
  split at h
  · next hlt => exact Or.inl ⟨hlt, h⟩
  · rw [List.getElem?_singleton] at h
    split at h
    · exact Or.inr ⟨by omega, (Option.some.inj h).symm⟩
    · cases h

end Monitor

namespace World

/-! ### Moves of monitors -/

/-- The client call that takes effect with the next move of a monitor. -/
def call? (w : World) (number : Nat) : Option ClientCall :=
  (w.monitors[number]?).bind fun m => m.call? w.clock (w.registry.isCancelled m.lease.id)

/-- A call that is made at the next move is that of a monitor that was started. -/
theorem call?_eq_some {w : World} {number : Nat} {call : ClientCall}
    (h : w.call? number = some call) :
    ∃ m, w.monitors[number]? = some m ∧
      m.call? w.clock (w.registry.isCancelled m.lease.id) = some call :=
  Option.bind_eq_some_iff.1 h

/-- A move of a monitor is a step of it, with what the step leaves of the monitor and the store. -/
theorem moveMonitor?_eq_some {w w' : World} {number : Nat} (h : w.moveMonitor? number = some w') :
    ∃ m m' s', w.monitors[number]? = some m ∧
      m.step? w.settings w.wall w.clock (w.registry.isCancelled m.lease.id) w.store =
        some (m', s') ∧
      w' = { w with store := s' }.putMonitor number m' := by
  simp only [moveMonitor?, Option.bind_eq_bind, Option.bind_eq_some_iff, Option.pure_def,
    Option.some.injEq] at h
  obtain ⟨m, hm, ⟨m', s'⟩, hstep, rfl⟩ := h
  exact ⟨m, m', s', hm, hstep, rfl⟩

/-- A monitor that can make a step moves the world by it. -/
theorem moveMonitor?_of_step? {w : World} {number : Nat} {m m' : Monitor} {s' : Store}
    (hm : w.monitors[number]? = some m)
    (hstep : m.step? w.settings w.wall w.clock (w.registry.isCancelled m.lease.id) w.store =
      some (m', s')) :
    w.moveMonitor? number = some ({ w with store := s' }.putMonitor number m') := by
  simp [moveMonitor?, hm, hstep]

/-- Making the move of a monitor either changes nothing or is a step of the monitor. -/
theorem act_monitor_cases (w : World) (number : Nat) :
    w.act (.monitor number) = w ∨
    ∃ m m' s', w.monitors[number]? = some m ∧
      m.step? w.settings w.wall w.clock (w.registry.isCancelled m.lease.id) w.store =
        some (m', s') ∧
      w.act (.monitor number) = { w with store := s' }.putMonitor number m' := by
  cases hmove : w.moveMonitor? number with
  | none =>
    left
    simp only [act, nudgeMonitor, hmove, Option.getD_none]
  | some w' =>
    right
    obtain ⟨m, m', s', hm, hstep, hw'⟩ := moveMonitor?_eq_some hmove
    refine ⟨m, m', s', hm, hstep, ?_⟩
    simp only [act, nudgeMonitor, hmove, Option.getD_some, hw']

/-- A move of a monitor does to the store what its client call does, and nothing else. -/
theorem store_act_monitor (w : World) (number : Nat) :
    (w.act (.monitor number)).store =
      ((w.call? number).map (ClientCall.effect w.store)).getD w.store := by
  cases hmove : w.moveMonitor? number with
  | none =>
    have hcall : w.call? number = none := by
      cases hcall : w.call? number with
      | none => rfl
      | some call =>
        obtain ⟨m, hm, hmcall⟩ := call?_eq_some hcall
        obtain ⟨m', s', hstep⟩ := Monitor.exists_step_of_call? hmcall
        rw [moveMonitor?_of_step? hm hstep] at hmove
        cases hmove
    simp only [act, nudgeMonitor, hmove, hcall, Option.getD_none, Option.map_none]
  | some w' =>
    obtain ⟨m, m', s', hm, hstep, rfl⟩ := moveMonitor?_eq_some hmove
    simp only [act, nudgeMonitor, hmove, Option.getD_some, putMonitor, call?, hm, Option.bind_some]
    exact Monitor.store_of_step? hstep

/-- Aborting a monitor either changes nothing or ends a monitor that has not ended. -/
theorem act_abort_cases (w : World) (number : Nat) :
    w.act (.abort number) = w ∨
    ∃ m, w.monitors[number]? = some m ∧ m.isOver = false ∧
      w.act (.abort number) = w.putMonitor number (m.exitWith .aborted) := by
  rw [act, abort]
  split
  · next m hm =>
    cases hover : m.isOver with
    | true => exact Or.inl (if_pos rfl)
    | false => exact Or.inr ⟨m, hm, hover, if_neg Bool.false_ne_true⟩
  · exact Or.inl rfl

/-! ### Reactions -/

/-- A reaction of the dispatcher changes the registry and may start monitors. It does nothing
else. -/
theorem handle_eq (w : World) (e : RunEvent) :
    ∃ registry, ∃ new : List Lease, w.handle e =
      { w with
        registry
        monitors := w.monitors ++ new.map (Monitor.start w.settings w.clock) } := by
  cases e with
  | create k => exact ⟨_, [(w.registry.registerReplacing k).1], rfl⟩
  | delete k => exact ⟨(w.registry.cancel k).2, [], by simp [handle, onDelete]⟩
  | resume r =>
    simp only [handle, onResume]
    split
    · exact ⟨w.registry, [], by simp⟩
    · split
      · exact ⟨(w.registry.evict r.key).2, [], by simp⟩
      · simp only [attach]
        split
        · next lease registry _ => exact ⟨registry, [lease], rfl⟩
        · next registry _ => exact ⟨registry, [], by simp⟩

/-- Reactions to events change the registry and start monitors, and nothing else. -/
theorem foldl_handle_eq (events : List RunEvent) (w : World) :
    ∃ registry, ∃ new : List Lease, events.foldl handle w =
      { w with
        registry
        monitors := w.monitors ++ new.map (Monitor.start w.settings w.clock) } := by
  induction events generalizing w with
  | nil => exact ⟨w.registry, [], by simp⟩
  | cons e events ih =>
    obtain ⟨_, first, hfirst⟩ := handle_eq w e
    obtain ⟨registry, rest, hrest⟩ := ih (w.handle e)
    refine ⟨registry, first ++ rest, ?_⟩
    rw [List.foldl_cons, hrest, hfirst, List.map_append, List.append_assoc]

/-- Reactions to events leave the store as it is. -/
theorem store_foldl_handle (events : List RunEvent) (w : World) :
    (events.foldl handle w).store = w.store := by
  obtain ⟨_, _, heq⟩ := foldl_handle_eq events w
  rw [heq]

/-! ### Moves of loops -/

/-- What a move of a loop can be, and the world after each. -/
inductive LoopMove (w : World) (number : Nat) : World → Prop where
  /-- There is nothing to do. -/
  | idle : LoopMove w number w
  /-- It ends, because it was told to or because its input has ended. -/
  | ends {l : Loop} : w.loops[number]? = some l → l.ended = false →
      (l.stopping = true ∨ (∃ watch, l.input = .watch watch ∧ w.store.isExhausted watch = true) ∨
        l.input = .script [] true) →
      LoopMove w number (w.endLoop number l)
  /-- It takes in the next event of its watch. -/
  | watches {l : Loop} {watch : Nat} {e : WatchEvent} {rest : List WatchEvent} :
      w.loops[number]? = some l → l.ended = false → l.stopping = false →
      l.input = .watch watch → w.store.pendingOf watch = e :: rest →
      LoopMove w number ({ w with store := w.store.takeEvent watch }.takeIn number l e)
  /-- It takes in the next event of its script. -/
  | reads {l : Loop} {e : WatchEvent} {rest : List (Except ClientError WatchEvent)}
      {closed : Bool} :
      w.loops[number]? = some l → l.ended = false → l.stopping = false →
      l.input = .script (.ok e :: rest) closed →
      LoopMove w number (w.takeIn number { l with input := .script rest closed } e)
  /-- It passes over an error in its script. -/
  | passes {l : Loop} {e : ClientError} {rest : List (Except ClientError WatchEvent)}
      {closed : Bool} :
      w.loops[number]? = some l → l.ended = false → l.stopping = false →
      l.input = .script (.error e :: rest) closed →
      LoopMove w number (w.putLoop number { l with input := .script rest closed })

/-- Every move of a loop is one of those that `LoopMove` lists. -/
theorem loopMove_act (w : World) (number : Nat) : LoopMove w number (w.act (.loop number)) := by
  simp only [act, nudgeLoop, moveLoop?]
  cases hl : w.loops[number]? with
  | none => exact .idle
  | some l =>
    simp only [Option.bind_eq_bind, Option.bind_some]
    cases hended : l.ended with
    | true => exact .idle
    | false =>
      simp only [Bool.false_eq_true, if_false]
      cases hstopping : l.stopping with
      | true => exact .ends hl hended (Or.inl hstopping)
      | false =>
        simp only [Bool.false_eq_true, if_false]
        split
        · next watch hinput =>
          split
          · next e rest hpending => exact .watches hl hended hstopping hinput hpending
          · split
            · next hexhausted =>
              exact .ends hl hended (Or.inr (Or.inl ⟨watch, hinput, hexhausted⟩))
            · exact .idle
        · next e rest closed hinput =>
          have hmove := LoopMove.reads hl hended hstopping hinput
          rwa [hended, hstopping] at hmove
        · next e rest closed hinput =>
          have hmove := LoopMove.passes hl hended hstopping hinput
          rwa [hended, hstopping] at hmove
        · next closed hinput =>
          cases closed with
          | true => exact .ends hl hended (Or.inr (Or.inr hinput))
          | false => exact .idle

/-- A move of a loop is a sequence of reactions of the dispatcher, after a change that concerns
neither the registry nor the monitors. -/
theorem act_loop_eq (w : World) (number : Nat) :
    ∃ store loops, ∃ events : List RunEvent, w.act (.loop number) =
      events.foldl handle { w with store, loops } := by
  have hmove := loopMove_act w number
  generalize w.act (.loop number) = w' at hmove ⊢
  cases hmove with
  | idle => exact ⟨w.store, w.loops, [], rfl⟩
  | ends _ _ _ | passes _ _ _ _ => exact ⟨w.store, _, [], rfl⟩
  | watches _ _ _ _ _ => exact ⟨_, _, _, rfl⟩
  | reads _ _ _ _ => exact ⟨w.store, _, _, rfl⟩

/-- What is sent to a loop concerns the loops alone. -/
theorem act_emit_eq (w : World) (number : Nat) (item : Except ClientError WatchEvent) :
    ∃ loops, w.act (.emit number item) = { w with loops } := by
  rw [act, emit]
  split
  · split
    · split
      · exact ⟨w.loops, rfl⟩
      · exact ⟨_, rfl⟩
    · exact ⟨w.loops, rfl⟩
  · exact ⟨w.loops, rfl⟩

/-- A loop leaves the store alone, except that it takes an event of its watch. -/
theorem store_act_loop (w : World) (number : Nat) :
    (w.act (.loop number)).store = w.store ∨
      ∃ watch, (w.act (.loop number)).store = w.store.takeEvent watch := by
  have hmove := loopMove_act w number
  generalize w.act (.loop number) = w' at hmove ⊢
  cases hmove with
  | watches _ _ _ _ _ => exact Or.inr ⟨_, store_foldl_handle _ _⟩
  | reads _ _ _ _ => exact Or.inl (store_foldl_handle _ _)
  | _ => exact Or.inl rfl

/-- The settings and both clocks change only by the actions that are there for it. -/
theorem surroundings_act (w : World) (a : Action) :
    (w.act a).settings = (match a with | .configure settings => settings | _ => w.settings) ∧
      (w.act a).clock = (match a with | .pass time => w.clock + time | _ => w.clock) ∧
      (w.act a).wall = (match a with | .setWall wall => wall | _ => w.wall) := by
  cases a with
  | monitor number =>
    rcases act_monitor_cases w number with heq | ⟨_, _, _, -, -, heq⟩ <;> rw [heq] <;>
      exact ⟨rfl, rfl, rfl⟩
  | abort number =>
    rcases act_abort_cases w number with heq | ⟨_, -, -, heq⟩ <;> rw [heq] <;>
      exact ⟨rfl, rfl, rfl⟩
  | react e =>
    obtain ⟨_, _, heq⟩ := handle_eq w e
    rw [act, heq]
    exact ⟨rfl, rfl, rfl⟩
  | loop number =>
    obtain ⟨store, loops, events, hact⟩ := act_loop_eq w number
    obtain ⟨_, _, heq⟩ := foldl_handle_eq events { w with store, loops }
    rw [hact, heq]
    exact ⟨rfl, rfl, rfl⟩
  | emit number item =>
    obtain ⟨_, heq⟩ := act_emit_eq w number item
    rw [heq]
    exact ⟨rfl, rfl, rfl⟩
  | _ => exact ⟨rfl, rfl, rfl⟩

/-! ### The fate of a monitor -/

/-- What an action has made of a monitor. -/
inductive Fate (w : World) (a : Action) (number : Nat) (m' : Monitor) : Prop where
  | kept : w.monitors[number]? = some m' → Fate w a number m'
  | moved (m : Monitor) : a = .monitor number → w.monitors[number]? = some m →
      m.step? w.settings w.wall w.clock (w.registry.isCancelled m.lease.id) w.store =
        some (m', (w.act a).store) → Fate w a number m'
  | aborted (m : Monitor) : a = .abort number → w.monitors[number]? = some m →
      m' = m.exitWith .aborted → Fate w a number m'
  | started (lease : Lease) : w.monitors.length ≤ number →
      m' = Monitor.start w.settings w.clock lease → Fate w a number m'

/-- Actions other than those of monitors change no monitor, though they may start some. -/
theorem monitors_act (w : World) {a : Action} (hmonitor : ∀ number, a ≠ .monitor number)
    (habort : ∀ number, a ≠ .abort number) :
    ∃ new : List Lease,
      (w.act a).monitors = w.monitors ++ new.map (Monitor.start w.settings w.clock) := by
  cases a with
  | monitor number => exact absurd rfl (hmonitor number)
  | abort number => exact absurd rfl (habort number)
  | react e =>
    obtain ⟨_, new, heq⟩ := handle_eq w e
    exact ⟨new, by rw [act, heq]⟩
  | loop number =>
    obtain ⟨store, loops, events, hact⟩ := act_loop_eq w number
    obtain ⟨_, new, heq⟩ := foldl_handle_eq events { w with store, loops }
    exact ⟨new, by rw [hact, heq]⟩
  | start lease => exact ⟨[lease], rfl⟩
  | emit number item =>
    obtain ⟨loops, hact⟩ := act_emit_eq w number item
    exact ⟨[], by rw [hact, List.map_nil, List.append_nil]⟩
  | _ => exact ⟨[], by simp [act, shutdown, dispatchWatch, startLoop, endScript, stopLoop]⟩

private theorem Fate.of_monitors_act {w : World} {a : Action} {number : Nat} {m' : Monitor}
    (hmonitor : ∀ number, a ≠ .monitor number) (habort : ∀ number, a ≠ .abort number)
    (hm' : (w.act a).monitors[number]? = some m') : Fate w a number m' := by
  obtain ⟨new, hnew⟩ := monitors_act w hmonitor habort
  rw [hnew, List.getElem?_append] at hm'
  split at hm'
  · exact .kept hm'
  · next hlength =>
    rw [List.getElem?_map, Option.map_eq_some_iff] at hm'
    obtain ⟨lease, -, rfl⟩ := hm'
    exact .started lease (Nat.le_of_not_lt hlength) rfl

/-- No monitor changes but by its own moves and by being aborted. -/
theorem fate_of_act {w : World} {a : Action} {number : Nat} {m' : Monitor}
    (hm' : (w.act a).monitors[number]? = some m') : Fate w a number m' := by
  cases a with
  | monitor n =>
    rcases act_monitor_cases w n with hact | ⟨m, after, s', hm, hstep, hact⟩
    · rw [hact] at hm'
      exact .kept hm'
    · rw [hact] at hm'
      rcases Monitor.getElem?_set_cases hm' with ⟨rfl, rfl⟩ | ⟨-, hkept⟩
      · refine .moved m rfl hm ?_
        rw [hact]
        exact hstep
      · exact .kept hkept
  | abort n =>
    rcases act_abort_cases w n with hact | ⟨m, hm, -, hact⟩
    · rw [hact] at hm'
      exact .kept hm'
    · rw [hact] at hm'
      rcases Monitor.getElem?_set_cases hm' with ⟨rfl, rfl⟩ | ⟨-, hkept⟩
      · exact .aborted m rfl hm rfl
      · exact .kept hkept
  | _ => exact Fate.of_monitors_act (by simp) (by simp) hm'

/-- Monitors are never forgotten. -/
theorem length_monitors_act (w : World) (a : Action) :
    w.monitors.length ≤ (w.act a).monitors.length := by
  have hother {a : Action} (hmonitor : ∀ number, a ≠ .monitor number)
      (habort : ∀ number, a ≠ .abort number) :
      w.monitors.length ≤ (w.act a).monitors.length := by
    obtain ⟨new, hnew⟩ := monitors_act w hmonitor habort
    rw [hnew, List.length_append]
    exact Nat.le_add_right _ _
  cases a with
  | monitor n =>
    rcases act_monitor_cases w n with hact | ⟨m, m', s', -, -, hact⟩
    · exact Nat.le_of_eq (congrArg (List.length ∘ monitors) hact.symm)
    · rw [hact]
      simp [putMonitor]
  | abort n =>
    rcases act_abort_cases w n with hact | ⟨m, -, -, hact⟩
    · exact Nat.le_of_eq (congrArg (List.length ∘ monitors) hact.symm)
    · rw [hact]
      simp [putMonitor]
  | _ => exact hother (by simp) (by simp)

/-- No monitor is lost: it keeps its number and its lease, and it does not come back from its
end. -/
theorem exists_monitor_act {w : World} {number : Nat} {m : Monitor}
    (hm : w.monitors[number]? = some m) (a : Action) :
    ∃ m', (w.act a).monitors[number]? = some m' ∧ m'.lease = m.lease ∧
      (m.isOver = true → m'.isOver = true) := by
  have hlt := (List.getElem?_eq_some_iff.1 hm).1
  have hlength := length_monitors_act w a
  obtain ⟨m', hm'⟩ : ∃ m', (w.act a).monitors[number]? = some m' :=
    ⟨_, List.getElem?_eq_getElem (Nat.lt_of_lt_of_le hlt hlength)⟩
  refine ⟨m', hm', ?_⟩
  cases fate_of_act hm' with
  | kept hkept =>
    obtain rfl := Option.some.inj (hm.symm.trans hkept)
    exact ⟨rfl, id⟩
  | moved m₀ _ hm₀ hstep =>
    obtain rfl := Option.some.inj (hm.symm.trans hm₀)
    refine ⟨(Monitor.step_of_step? hstep).lease_eq, ?_⟩
    intro hover
    rw [Monitor.isOver_of_step? hstep] at hover
    cases hover
  | aborted m₀ _ hm₀ heq =>
    obtain rfl := Option.some.inj (hm.symm.trans hm₀)
    rw [heq]
    exact ⟨rfl, fun _ => rfl⟩
  | started lease hle _ => omega

/-! ### The registry and the monitors -/

/-- What an action can do to the registry and the monitors, and the world after each. -/
inductive Staffs (w : World) : Action → World → Prop where
  | keeps {a : Action} {w' : World} : w'.registry = w.registry → w'.monitors = w.monitors →
      Staffs w a w'
  /-- A monitor that has not ended moves or is aborted, and keeps its lease. -/
  | moves {a : Action} {number : Nat} {m m' : Monitor} (store : Store) :
      w.monitors[number]? = some m → m'.lease = m.lease → m.isOver = false →
      Staffs w a ({ w with store }.putMonitor number m')
  /-- The dispatcher reacts to some events. -/
  | reacts {a : Action} (store : Store) (loops : List Loop) (events : List RunEvent) :
      Staffs w a (events.foldl handle { w with store, loops })
  | dismisses : Staffs w .shutdown { w with registry := w.registry.cancelAll.2 }
  | changes (c : RegistryChange) :
      Staffs w (.registry c) { w with registry := w.registry.change c }
  | starts (lease : Lease) : Staffs w (.start lease) (w.spawn lease)

/-- Every action does one of these things. -/
theorem staffs_act (w : World) (a : Action) : w.Staffs a (w.act a) := by
  cases a with
  | monitor n =>
    rcases act_monitor_cases w n with heq | ⟨m, m', s', hm, hstep, heq⟩ <;> rw [heq]
    · exact .keeps rfl rfl
    · exact .moves s' hm (Monitor.step_of_step? hstep).lease_eq (Monitor.isOver_of_step? hstep)
  | abort n =>
    rcases act_abort_cases w n with heq | ⟨m, hm, hover, heq⟩ <;> rw [heq]
    · exact .keeps rfl rfl
    · exact .moves w.store hm rfl hover
  | react e => exact .reacts w.store w.loops [e]
  | loop n =>
    obtain ⟨store, loops, events, heq⟩ := act_loop_eq w n
    rw [heq]
    exact .reacts store loops events
  | shutdown => exact .dismisses
  | registry c => exact .changes c
  | start lease => exact .starts lease
  | emit n item =>
    obtain ⟨loops, heq⟩ := act_emit_eq w n item
    rw [heq]
    exact .keeps rfl rfl
  | _ => exact .keeps rfl rfl

end World

end RunOperator
