import RunOperator.Monitor.Poll
import RunOperator.Registry.Basic
import RunOperator.Store.Basic

/-!
# Monitors

A monitor drives one run to a final state. It sleeps for the poll interval, polls, and begins
again, until the run is in a final state, the run is gone, its state cannot be understood, too many
polls in a row have failed, or the monitor is cancelled. A client call takes the latency that the
store has when the call begins, and has its effect at the end of that time; a call that would take
longer than the request timeout fails at the limit without an effect. Cancellation comes before
everything else that could happen at the same instant.

Times are milliseconds on a clock that only moves when every monitor waits.
-/

namespace RunOperator

/-- How monitors work. -/
structure Settings where
  /-- The sleep before each poll. -/
  pollInterval : Nat
  /-- The number of failed polls in a row after which a monitor gives up. -/
  retryLimit : Nat
  /-- The upper bound on each client call. -/
  requestTimeout : Nat
  deriving DecidableEq, Inhabited

/-- The usual settings. -/
def Settings.standard : Settings := ⟨1000, 5, 30000⟩

/-- How a monitor ended. -/
inductive MonitorExit where
  /-- The run is in this final state. -/
  | finished (state : RunState)
  /-- Cancellation was signalled. -/
  | cancelled
  /-- The run no longer exists. -/
  | vanished
  /-- The stored state is no state. -/
  | invalidState
  /-- Too many polls in a row failed. -/
  | retriesExhausted
  /-- The task of the monitor was aborted. -/
  | aborted
  deriving DecidableEq, Inhabited

/-- A client call under way: when it would be complete, and when it is given up. -/
structure Call where
  completion : Nat
  limit : Nat
  deriving DecidableEq, Inhabited

namespace Call

/-- A call that begins now. -/
def begin (settings : Settings) (now latency : Nat) : Call :=
  ⟨now + latency, now + settings.requestTimeout⟩

/-- The instant at which the call ends. -/
def due (c : Call) : Nat := min c.completion c.limit

/-- The call ends without an effect. -/
def timesOut (c : Call) : Bool := c.limit < c.completion

end Call

/-- What a monitor is doing. -/
inductive Phase where
  | sleeping (wake : Nat)
  | reading (call : Call)
  | listing (call : Call) (run : Run) (current : RunState)
  | writing (call : Call) (run : Run) (target : RunState)
  | ended (exit : MonitorExit)
  deriving Inhabited

namespace Phase

/-- The instant that the phase lasts to. -/
def due? : Phase → Option Nat
  | sleeping t => some t
  | reading c | listing c _ _ | writing c _ _ => some c.due
  | ended _ => none

end Phase

/-- A monitor: its lease, the failed polls in a row, and what it is doing. -/
structure Monitor where
  lease : Lease
  failures : Nat
  phase : Phase
  deriving Inhabited

namespace Monitor

/-- A monitor that begins now. -/
def start (settings : Settings) (now : Nat) (lease : Lease) : Monitor :=
  ⟨lease, 0, .sleeping (now + settings.pollInterval)⟩

/-- How the monitor ended. -/
def exit? (m : Monitor) : Option MonitorExit :=
  match m.phase with
  | .ended e => some e
  | _ => none

/-- The monitor has ended. -/
def isOver (m : Monitor) : Bool := m.exit?.isSome

/-- The monitor after its end. -/
def exitWith (m : Monitor) (e : MonitorExit) : Monitor := { m with phase := .ended e }

/-- The monitor asleep until the next poll. -/
def sleep (settings : Settings) (now : Nat) (m : Monitor) (failures : Nat) : Monitor :=
  { m with failures, phase := .sleeping (now + settings.pollInterval) }

/-- The monitor after a poll. -/
def afterPoll (settings : Settings) (now : Nat) (m : Monitor) : PollResult → Monitor
  | .ok .pending => m.sleep settings now 0
  | .ok (.done s) => m.exitWith (.finished s)
  | .error .cancelled => m.exitWith .cancelled
  | .error (.invalidState _) => m.exitWith .invalidState
  | .error (.client e) =>
    if e.isNotFound then m.exitWith .vanished
    else if settings.retryLimit ≤ m.failures + 1 then
      { m.exitWith .retriesExhausted with failures := m.failures + 1 }
    else m.sleep settings now (m.failures + 1)

/-- The monitor after an answer: it goes on with its poll, or the poll has ended. -/
def proceed {α : Type} (settings : Settings) (now : Nat) (m : Monitor) (phase : α → Phase) :
    PollStep α → Monitor
  | .next a => { m with phase := phase a }
  | .finish result => m.afterPoll settings now result

/-- The answer of a call and its effect on the store: a call that timed out has none. -/
def answerOf {α : Type} (c : Call) (s : Store) (effect : Except ClientError α × Store) :
    Except ClientError α × Store :=
  if c.timesOut then (.error .timeout, s) else effect

/-- What the monitor does at the end of its phase, at an instant with a reading of the wall
clock. -/
def act (settings : Settings) (wall : Instant) (now : Nat) (m : Monitor) (s : Store) :
    Monitor × Store :=
  match m.phase with
  | .sleeping _ => ({ m with phase := .reading (.begin settings now s.latency) }, s)
  | .reading c =>
    let (answer, s) := answerOf c s (s.get m.lease.key)
    let listing (run : Run × RunState) : Phase :=
      .listing (.begin settings now s.latency) run.1 run.2
    (m.proceed settings now listing (Poll.afterRead answer), s)
  | .listing c r current =>
    let (answer, s) := answerOf c s (.ok (s.podsOf m.lease.key), s)
    let writing (run : Run × RunState) : Phase :=
      .writing (.begin settings now s.latency) run.1 run.2
    (m.proceed settings now writing (Poll.afterList r current wall answer), s)
  | .writing c r target =>
    let (answer, s) := answerOf c s (s.replace r)
    (m.afterPoll settings now (Poll.afterWrite target answer), s)
  | .ended _ => (m, s)

/-- One step of a monitor; `none` while it waits and after its end. -/
def step? (settings : Settings) (wall : Instant) (now : Nat) (cancelled : Bool) (m : Monitor)
    (s : Store) : Option (Monitor × Store) :=
  match m.phase.due? with
  | none => none
  | some due =>
    if cancelled then some (m.exitWith .cancelled, s)
    else if due ≤ now then some (m.act settings wall now s)
    else none

end Monitor

end RunOperator
