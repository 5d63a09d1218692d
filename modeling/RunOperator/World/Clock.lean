import RunOperator.World.Basic

/-!
# The passing of time

The clock moves only when no move is left to make. `settle` makes all moves of an instant: the
loops take in what is there, the monitors make the moves that are due, and what these have caused
is made again. A poll takes four moves at most, and a second round leaves nothing, as long as the
poll interval is positive: the first round takes every monitor to an instant that lies ahead, and
the second only ends monitors that a loop has cancelled in between.
-/

namespace RunOperator

namespace World

/-- A move of a monitor, if it has one to make. -/
def nudgeMonitor (number : Nat) (w : World) : World := (w.moveMonitor? number).getD w

/-- The largest number of moves that a monitor makes at one instant. -/
def movesPerPoll : Nat := 4

/-- All moves of all monitors, each of which makes its own before the next begins. -/
def runMonitors (w : World) : World :=
  (List.range w.monitors.length).foldl
    (fun w number => Nat.repeat (nudgeMonitor number) movesPerPoll w) w

/-- A move of a loop, if it has one to make. -/
def nudgeLoop (number : Nat) (w : World) : World := (w.moveLoop? number).getD w

/-- The number of events and errors that wait for a loop. -/
def backlog (w : World) (number : Nat) : Nat :=
  match w.loops[number]? with
  | some l =>
    match l.input with
    | .watch watch => (w.store.pendingOf watch).length
    | .script pending _ => pending.length
  | none => 0

/-- All moves of all loops. -/
def runLoops (w : World) : World :=
  (List.range w.loops.length).foldl
    (fun w number => Nat.repeat (nudgeLoop number) (w.backlog number + 1) w) w

/-- All loops and then all monitors. -/
def round (w : World) : World := w.runLoops.runMonitors

/-- Makes all moves of the instant. -/
def settle (w : World) : World := w.round.round

/-! ### Moves take no time -/

/-- Steps that take no time take none one after the other. -/
theorem clock_foldl {α : Type} (f : World → α → World) (h : ∀ w a, (f w a).clock = w.clock)
    (w : World) (l : List α) : (l.foldl f w).clock = w.clock := by
  induction l generalizing w with
  | nil => rfl
  | cons a l ih => rw [List.foldl_cons, ih, h]

/-- A step that takes no time takes none when it is repeated. -/
theorem clock_repeat (f : World → World) (h : ∀ w, (f w).clock = w.clock) (n : Nat) (w : World) :
    (Nat.repeat f n w).clock = w.clock := by
  induction n with
  | zero => rfl
  | succ n ih => rw [Nat.repeat, h, ih]

/-- Attaching a monitor takes no time. -/
@[simp] theorem clock_attach (w : World) (k : RunKey) : (w.attach k).clock = w.clock := by
  rw [attach]
  split <;> rfl

/-- Resuming a run takes no time. -/
@[simp] theorem clock_onResume (w : World) (r : Run) : (w.onResume r).clock = w.clock := by
  rw [onResume]
  split
  · rfl
  · split
    · rfl
    · exact clock_attach w r.key

/-- Reacting to an event takes no time. -/
@[simp] theorem clock_handle (w : World) (e : RunEvent) : (w.handle e).clock = w.clock := by
  cases e with
  | create k => rfl
  | resume r => exact clock_onResume w r
  | delete k => rfl

/-- Taking in an event takes no time. -/
@[simp] theorem clock_takeIn (w : World) (number : Nat) (l : Loop) (e : WatchEvent) :
    (w.takeIn number l e).clock = w.clock := clock_foldl handle clock_handle _ _

/-- A move of a monitor takes no time. -/
theorem clock_nudgeMonitor (number : Nat) (w : World) :
    (nudgeMonitor number w).clock = w.clock := by
  rw [nudgeMonitor, moveMonitor?]
  cases w.monitors[number]? with
  | none => rfl
  | some m =>
    simp only [Option.bind_eq_bind, Option.bind_some]
    cases m.step? w.settings w.wall w.clock (w.registry.isCancelled m.lease.id) w.store <;> rfl

/-- A move of a loop takes no time. -/
theorem clock_nudgeLoop (number : Nat) (w : World) : (nudgeLoop number w).clock = w.clock := by
  rw [nudgeLoop, moveLoop?]
  cases w.loops[number]? with
  | none => rfl
  | some l =>
    simp only [Option.bind_eq_bind, Option.bind_some]
    repeat' split
    all_goals first | rfl | exact clock_takeIn _ _ _ _

/-- A round of moves takes no time. -/
theorem clock_round (w : World) : w.round.clock = w.clock := by
  rw [round, runMonitors, clock_foldl, runLoops, clock_foldl]
  · exact fun w n => clock_repeat _ (clock_nudgeLoop n) _ w
  · exact fun w n => clock_repeat _ (clock_nudgeMonitor n) _ w

/-- The clock stands still while the moves of an instant are made. -/
@[simp] theorem clock_settle (w : World) : w.settle.clock = w.clock := by
  rw [settle, clock_round, clock_round]

/-! ### The clock -/

/-- The instants ahead to which monitors wait. -/
def instantsAhead (w : World) : List Nat :=
  (w.monitors.filterMap fun m => m.phase.due?).filter (w.clock < ·)

/-- The next instant at which a monitor has a move to make. -/
def nextInstant? (w : World) : Option Nat := w.instantsAhead.min?

/-- The world at an instant that lies ahead, with all that happens before it. -/
def runUntil (w : World) (target : Nat) : World :=
  match w.nextInstant? with
  | some t =>
    if w.clock < t ∧ t < target then runUntil { w with clock := t }.settle target
    else { w with clock := max w.clock target }
  | none => { w with clock := max w.clock target }
termination_by target - w.clock
decreasing_by simp; omega

/-- Lets time pass, with all that happens until its end. -/
def advance (w : World) (time : Nat) : World := (w.runUntil (w.clock + time)).settle

end World

end RunOperator
