import RunOperator.Monitor.Basic
import RunOperator.Watch.Roster

/-!
# The operator at work

The operator with everything it deals with: the store of runs, the registry, the monitors that were
started, and the loops that take in watch events. All of them share one clock. What happens next is
a move of one monitor or one loop; moves that are possible at the same instant may be made in any
order.

The operator reacts to the events of a run's life: a run that appears gets a new monitor in place
of any older one, a run that was there already gets one unless it is finished or has one, and a run
that was deleted has its monitor cancelled.
-/

namespace RunOperator

/-- Where a loop takes its events from: a watch of the store, or a script of events and errors. -/
inductive LoopInput where
  | watch (number : Nat)
  | script (pending : List (Except ClientError WatchEvent)) (closed : Bool)
  deriving Inhabited

/-- A loop that takes in events until its input ends or it is told to stop. -/
structure Loop where
  input : LoopInput
  roster : Roster
  stopping : Bool
  ended : Bool
  deriving Inhabited

/-- The operator, the store and the time. -/
structure World where
  settings : Settings
  /-- Milliseconds since the start. -/
  clock : Nat
  /-- What the wall clock shows. -/
  wall : Instant
  store : Store
  registry : Registry
  /-- All monitors that were ever started, known by their numbers. -/
  monitors : List Monitor
  /-- All loops that were ever started, known by their numbers. -/
  loops : List Loop
  deriving Inhabited

namespace World

/-- A world in which nothing has happened. -/
def initial (settings : Settings) (wall : Instant) : World where
  settings := settings
  clock := 0
  wall := wall
  store := Store.empty
  registry := Registry.empty
  monitors := []
  loops := []

/-! ### Reactions to events -/

/-- Starts a monitor that holds a lease. -/
def spawn (w : World) (lease : Lease) : World :=
  { w with monitors := w.monitors ++ [Monitor.start w.settings w.clock lease] }

/-- A run appeared: it always gets a new monitor. -/
def onCreate (w : World) (k : RunKey) : World :=
  let (lease, registry) := w.registry.registerReplacing k
  { w with registry }.spawn lease

/-- A run that is not finished gets a monitor, unless one is registered for it. -/
def attach (w : World) (k : RunKey) : World :=
  match w.registry.registerIfAbsent k with
  | (some lease, registry) => { w with registry }.spawn lease
  | (none, registry) => { w with registry }

/-- A run existed before the watch began: nothing happens for an invalid state, and a finished run
loses the monitor that is registered for it. -/
def onResume (w : World) (r : Run) : World :=
  match r.state with
  | .error _ => w
  | .ok s => if s.isFinal then { w with registry := (w.registry.evict r.key).2 } else w.attach r.key

/-- A run was deleted: its monitor is told to stop. The answer says whether one was registered. -/
def onDelete (w : World) (k : RunKey) : Bool × World :=
  let (known, registry) := w.registry.cancel k
  (known, { w with registry })

/-- Reacts to an event. -/
def handle (w : World) : RunEvent → World
  | .create k => w.onCreate k
  | .resume r => w.onResume r
  | .delete k => (w.onDelete k).2

/-- Tells every registered monitor to stop. -/
def shutdown (w : World) : World := { w with registry := w.registry.cancelAll.2 }

/-! ### Moves -/

/-- The world after a monitor has changed: a monitor that has ended releases its lease. -/
def putMonitor (w : World) (number : Nat) (m : Monitor) : World :=
  { w with
    monitors := w.monitors.set number m
    registry := if m.isOver then w.registry.release m.lease else w.registry }

/-- A move of a monitor; `none` when it has none to make. -/
def moveMonitor? (w : World) (number : Nat) : Option World := do
  let m ← w.monitors[number]?
  let (m, store) ← m.step? w.settings w.wall w.clock (w.registry.isCancelled m.lease.id) w.store
  return { w with store }.putMonitor number m

/-- Aborts the task of a monitor. -/
def abort (w : World) (number : Nat) : World :=
  match w.monitors[number]? with
  | some m => if m.isOver then w else w.putMonitor number (m.exitWith .aborted)
  | none => w

/-- The world with another state of a loop. -/
def putLoop (w : World) (number : Nat) (l : Loop) : World :=
  { w with loops := w.loops.set number l }

/-- Ends a loop. -/
def endLoop (w : World) (number : Nat) (l : Loop) : World :=
  w.putLoop number { l with ended := true }

/-- Takes in a watch event: the loop's roster tells what happened, and that is reacted to. -/
def takeIn (w : World) (number : Nat) (l : Loop) (e : WatchEvent) : World :=
  let (events, roster) := l.roster.observe e
  events.foldl handle (w.putLoop number { l with roster })

/-- A move of a loop: it stops when told to, takes in the next event, passes over an error, or ends
with its input. -/
def moveLoop? (w : World) (number : Nat) : Option World := do
  let l ← w.loops[number]?
  if l.ended then none
  else if l.stopping then return w.endLoop number l
  else match l.input with
    | .watch watch =>
      match w.store.pendingOf watch with
      | e :: _ => return { w with store := w.store.takeEvent watch }.takeIn number l e
      | [] => if w.store.isExhausted watch then return w.endLoop number l else none
    | .script (.ok e :: rest) closed =>
      return w.takeIn number { l with input := .script rest closed } e
    | .script (.error _ :: rest) closed =>
      return w.putLoop number { l with input := .script rest closed }
    | .script [] closed => if closed then return w.endLoop number l else none

/-! ### Loops from outside -/

/-- Starts a loop; the answer is its number. -/
def startLoop (w : World) (input : LoopInput) : Nat × World :=
  (w.loops.length, { w with loops := w.loops ++ [⟨input, .initial, false, false⟩] })

/-- Starts a loop on a new watch of the store. -/
def dispatchWatch (w : World) (scope : Option String) : Nat × World :=
  let (watch, store) := w.store.openWatch scope
  { w with store }.startLoop (.watch watch)

/-- Tells a loop to stop. -/
def stopLoop (w : World) (number : Nat) : World :=
  { w with loops := w.loops.modify number fun l => { l with stopping := true } }

/-- Adds an event or an error to the script of a loop that has not ended. The answer says whether
it was accepted. -/
def emit (w : World) (number : Nat) (e : Except ClientError WatchEvent) : Bool × World :=
  match w.loops[number]? with
  | some l =>
    match l.input with
    | .script pending false =>
      if l.ended then (false, w)
      else (true, w.putLoop number { l with input := .script (pending ++ [e]) false })
    | _ => (false, w)
  | none => (false, w)

/-- Ends the script of a loop. -/
def endScript (w : World) (number : Nat) : World :=
  { w with loops := w.loops.modify number fun l =>
      match l.input with
      | .script pending _ => { l with input := .script pending true }
      | .watch _ => l }

end World

end RunOperator
