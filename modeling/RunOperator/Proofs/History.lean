import RunOperator.World.Clock

/-!
# Histories of the operator

A history is a sequence of actions: what others do to the store and to the registry, what the
dispatcher is told, the passing of time, and the moves of monitors and loops. The actions of a
history are made one after the other, in any order whatsoever. A move that cannot be made leaves
the world as it is, so that every sequence of actions is a history.

Monitors may also be started on leases that this registry has not issued. Such a monitor belongs
to another operator that works on the same store.

The simulation of `World.Clock` follows one history among the many (`exists_history_advance`).
-/

namespace RunOperator

/-- What someone other than a monitor does to the store. -/
inductive StoreChange where
  | insert (run : Run)
  | delete (key : RunKey)
  | modify (key : RunKey) (edit : Run → Run)
  | setPods (key : RunKey) (pods : List PodPhase)
  | failGets (key : RunKey) (errors : List ClientError)
  | failUpdates (key : RunKey) (errors : List ClientError)
  | setLatency (latency : Nat)
  /-- A client other than the monitors reads a run. -/
  | get (key : RunKey)
  /-- A client other than the monitors replaces a run. -/
  | replace (run : Run)
  | openWatch (scope : Option String)
  | drain (number : Nat)
  | closeWatches

/-- The store after a change. -/
def Store.change (s : Store) : StoreChange → Store
  | .insert r => (s.insert r).2
  | .delete k => (s.delete k).2
  | .modify k edit => (s.modify k edit).2
  | .setPods k pods => s.setPods k pods
  | .failGets k errors => s.failGets k errors
  | .failUpdates k errors => s.failUpdates k errors
  | .setLatency latency => s.setLatency latency
  | .get k => (s.get k).2
  | .replace r => (s.replace r).2
  | .openWatch scope => (s.openWatch scope).2
  | .drain number => s.drain number
  | .closeWatches => s.closeWatches

/-- What someone other than the dispatcher does to the registry. -/
inductive RegistryChange where
  | register (key : RunKey)
  | registerReplacing (key : RunKey)
  | cancel (key : RunKey)
  | evict (key : RunKey)
  | cancelAll
  /-- The token of a lease is cancelled directly. -/
  | cancelToken (id : Nat)
  | release (lease : Lease)

/-- The registry after a change. -/
def Registry.change (r : Registry) : RegistryChange → Registry
  | .register k => (r.registerIfAbsent k).2
  | .registerReplacing k => (r.registerReplacing k).2
  | .cancel k => (r.cancel k).2
  | .evict k => (r.evict k).2
  | .cancelAll => r.cancelAll.2
  | .cancelToken id => r.cancelId id
  | .release lease => r.release lease

/-- One thing that happens in a world. -/
inductive Action where
  | store (change : StoreChange)
  | registry (change : RegistryChange)
  /-- A monitor is started on a lease from elsewhere. -/
  | start (lease : Lease)
  /-- Later moves are made under other settings. -/
  | configure (settings : Settings)
  | pass (time : Nat)
  | setWall (wall : Instant)
  /-- A monitor makes its next move. -/
  | monitor (number : Nat)
  /-- The task of a monitor is aborted. -/
  | abort (number : Nat)
  /-- The dispatcher reacts to an event. -/
  | react (event : RunEvent)
  | shutdown
  | dispatchWatch (scope : Option String)
  | dispatchScript
  | emit (number : Nat) (item : Except ClientError WatchEvent)
  | endScript (number : Nat)
  | stopLoop (number : Nat)
  /-- A loop makes its next move. -/
  | loop (number : Nat)

namespace World

/-- The world after an action. -/
def act (w : World) : Action → World
  | .store c => { w with store := w.store.change c }
  | .registry c => { w with registry := w.registry.change c }
  | .start lease => w.spawn lease
  | .configure settings => { w with settings }
  | .pass time => { w with clock := w.clock + time }
  | .setWall wall => { w with wall }
  | .monitor number => nudgeMonitor number w
  | .abort number => w.abort number
  | .react e => w.handle e
  | .shutdown => w.shutdown
  | .dispatchWatch scope => (w.dispatchWatch scope).2
  | .dispatchScript => (w.startLoop (.script [] false)).2
  | .emit number item => (w.emit number item).2
  | .endScript number => w.endScript number
  | .stopLoop number => w.stopLoop number
  | .loop number => nudgeLoop number w

/-- The world after a history. -/
def after (w : World) (h : List Action) : World := h.foldl act w

/-- The world after the first actions of a history. -/
def afterFirst (w : World) (h : List Action) (count : Nat) : World := w.after (h.take count)

/-- Nothing happens in an empty history. -/
@[simp] theorem after_nil (w : World) : w.after [] = w := rfl

/-- A history begins with its first action. -/
@[simp] theorem after_cons (w : World) (a : Action) (h : List Action) :
    w.after (a :: h) = (w.act a).after h := rfl

/-- A history goes on where its first part has ended. -/
theorem after_append (w : World) (first second : List Action) :
    w.after (first ++ second) = (w.after first).after second := List.foldl_append

/-- A history ends with its last action. -/
theorem after_concat (w : World) (h : List Action) (a : Action) :
    w.after (h ++ [a]) = (w.after h).act a := by
  rw [after_append, after_cons, after_nil]

/-- After as many actions as a history has all of it has happened. -/
theorem afterFirst_of_length_le (w : World) {h : List Action} {count : Nat}
    (hcount : h.length ≤ count) : w.afterFirst h count = w.after h := by
  rw [afterFirst, List.take_of_length_le hcount]

/-- Later actions do not change what came before them. -/
theorem afterFirst_append (w : World) {h : List Action} {count : Nat} (more : List Action)
    (hcount : count ≤ h.length) : w.afterFirst (h ++ more) count = w.afterFirst h count := by
  rw [afterFirst, List.take_append_of_le_length hcount, afterFirst]

/-- A longer history has first done what the shorter one has done. -/
theorem afterFirst_length_append (w : World) (h more : List Action) :
    w.afterFirst (h ++ more) h.length = w.after h := by
  rw [afterFirst, List.take_left]

/-- The first actions of a longer beginning are the first actions of the history. -/
theorem afterFirst_take (w : World) (h : List Action) {count more : Nat} (hle : count ≤ more) :
    w.afterFirst (h.take more) count = w.afterFirst h count := by
  rw [afterFirst, List.take_take, Nat.min_eq_left hle, afterFirst]

/-- Each action of a history is made in the world that the earlier ones have left. -/
theorem afterFirst_succ (w : World) {h : List Action} {count : Nat} {a : Action}
    (ha : h[count]? = some a) : w.afterFirst h (count + 1) = (w.afterFirst h count).act a := by
  rw [afterFirst, List.take_add_one, ha, Option.toList_some, after_concat, afterFirst]

/-- A history goes on from what its first actions have left. -/
theorem after_eq_after_drop (w : World) (h : List Action) (count : Nat) :
    w.after h = (w.afterFirst h count).after (h.drop count) := by
  rw [afterFirst, ← after_append, List.take_append_drop]

/-- What is later comes after what is earlier. -/
theorem afterFirst_eq_after (w : World) (h : List Action) {early late : Nat}
    (hle : early ≤ late) :
    w.afterFirst h late = (w.afterFirst h early).after ((h.take late).drop early) := by
  have htake : (h.take late).take early = h.take early := by
    rw [List.take_take, Nat.min_eq_left hle]
  rw [afterFirst, after_eq_after_drop w (h.take late) early, afterFirst, htake, afterFirst]

/-- Every action of the history satisfies a condition in the world that it is made in. -/
def Along (allowed : World → Action → Prop) : World → List Action → Prop
  | _, [] => True
  | w, a :: h => allowed w a ∧ Along allowed (w.act a) h

/-- What holds at first, and is kept by each allowed action, holds after every history of allowed
actions. -/
theorem Along.invariant {allowed : World → Action → Prop} (holds : World → Prop)
    (hkeeps : ∀ w a, allowed w a → holds w → holds (w.act a)) {w : World} {h : List Action}
    (halong : Along allowed w h) (hw : holds w) : holds (w.after h) := by
  induction h generalizing w with
  | nil => exact hw
  | cons a h ih => exact ih halong.2 (hkeeps w a halong.1 hw)

/-- A history is allowed if its first part is, and what comes after that. -/
theorem along_append {allowed : World → Action → Prop} {w : World} {first second : List Action} :
    w.Along allowed (first ++ second) ↔
      w.Along allowed first ∧ (w.after first).Along allowed second := by
  induction first generalizing w with
  | nil => simp [Along]
  | cons a first ih => rw [List.cons_append, Along, Along, ih, after_cons, and_assoc]

/-- The first actions of an allowed history are an allowed history. -/
theorem Along.take {allowed : World → Action → Prop} {w : World} {h : List Action}
    (hall : w.Along allowed h) (count : Nat) : w.Along allowed (h.take count) := by
  rw [← List.take_append_drop count h] at hall
  exact (along_append.1 hall).1

/-- Each action of an allowed history is allowed when it is made. -/
theorem Along.of_getElem? {allowed : World → Action → Prop} {w : World} {h : List Action}
    (hall : w.Along allowed h) {t : Nat} {a : Action} (ha : h[t]? = some a) :
    allowed (w.afterFirst h t) a := by
  have hfirst := hall.take (t + 1)
  rw [List.take_add_one, ha] at hfirst
  exact (along_append.1 hfirst).2.1

/-- Actions that are allowed everywhere are allowed along a history. -/
theorem along_of_forall {allowed : Action → Prop} {w : World} {h : List Action}
    (hall : ∀ a ∈ h, allowed a) : w.Along (fun _ => allowed) h := by
  induction h generalizing w with
  | nil => trivial
  | cons a h ih =>
    exact ⟨hall a List.mem_cons_self, ih fun b hb => hall b (List.mem_cons_of_mem a hb)⟩

/-- What holds at first and is kept by every action holds after every history. -/
theorem after_invariant (holds : World → Prop) (hkeeps : ∀ w a, holds w → holds (w.act a))
    {w : World} (h : List Action) (hw : holds w) : holds (w.after h) := by
  induction h generalizing w with
  | nil => exact hw
  | cons a h ih => exact ih (hkeeps w a hw)

/-! ### The simulation makes a history -/

private theorem exists_history_repeat {f : World → World} (hf : ∀ w, ∃ a, f w = w.act a) (n : Nat)
    (w : World) : ∃ h, Nat.repeat f n w = w.after h := by
  induction n with
  | zero => exact ⟨[], rfl⟩
  | succ n ih =>
    obtain ⟨h, hh⟩ := ih
    obtain ⟨a, ha⟩ := hf (w.after h)
    exact ⟨h ++ [a], by rw [Nat.repeat, hh, ha, after_concat]⟩

private theorem exists_history_foldl {α : Type} {f : World → α → World}
    (hf : ∀ w x, ∃ h, f w x = w.after h) (l : List α) (w : World) :
    ∃ h, l.foldl f w = w.after h := by
  induction l generalizing w with
  | nil => exact ⟨[], rfl⟩
  | cons x l ih =>
    obtain ⟨first, hfirst⟩ := hf w x
    obtain ⟨rest, hrest⟩ := ih (f w x)
    exact ⟨first ++ rest, by rw [List.foldl_cons, hrest, hfirst, after_append]⟩

private theorem exists_history_round (w : World) : ∃ h, w.round = w.after h := by
  obtain ⟨loops, hloops⟩ := exists_history_foldl (fun w number =>
    exists_history_repeat (fun w => ⟨.loop number, rfl⟩) (w.backlog number + 1) w)
    (List.range w.loops.length) w
  obtain ⟨monitors, hmonitors⟩ := exists_history_foldl (fun w number =>
    exists_history_repeat (fun w => ⟨.monitor number, rfl⟩) movesPerPoll w)
    (List.range w.runLoops.monitors.length) w.runLoops
  refine ⟨loops ++ monitors, ?_⟩
  rw [after_append, ← hloops]
  exact hmonitors

/-- All moves of an instant make a history. -/
theorem exists_history_settle (w : World) : ∃ h, w.settle = w.after h := by
  obtain ⟨first, hfirst⟩ := exists_history_round w
  obtain ⟨second, hsecond⟩ := exists_history_round w.round
  exact ⟨first ++ second, by rw [settle, hsecond, hfirst, after_append]⟩

private theorem exists_history_runUntil (w : World) (target : Nat) :
    ∃ h, w.runUntil target = w.after h := by
  fun_induction runUntil w target with
  | case1 w t hnext hlt ih =>
    obtain ⟨moves, hmoves⟩ := exists_history_settle { w with clock := t }
    obtain ⟨rest, hrest⟩ := ih
    have hclock : { w with clock := t } = w.act (.pass (t - w.clock)) := by
      simp only [act, Nat.add_sub_cancel' (Nat.le_of_lt hlt.1)]
    refine ⟨.pass (t - w.clock) :: moves ++ rest, ?_⟩
    rw [hrest, hmoves, hclock, List.cons_append, after_cons, after_append]
  | case2 w t hnext hlt | case3 w hnext =>
    refine ⟨[.pass (target - w.clock)], ?_⟩
    simp only [after_cons, after_nil, act]
    congr 1
    omega

/-- Letting time pass in the simulation makes a history, so that what holds of all histories holds
of every simulation. -/
theorem exists_history_advance (w : World) (time : Nat) : ∃ h, w.advance time = w.after h := by
  obtain ⟨first, hfirst⟩ := exists_history_runUntil w (w.clock + time)
  obtain ⟨second, hsecond⟩ := exists_history_settle (w.runUntil (w.clock + time))
  exact ⟨first ++ second, by rw [advance, hsecond, hfirst, after_append]⟩

end World

end RunOperator
