import RunOperator.Instant.Format
import RunOperator.Lifecycle.State

/-!
# Start and end stamps

A run carries the time at which it left the queue and the time at which it reached a final state,
both as text. A transition writes each of them at most once: a stamp that is present is never
overwritten.
-/

namespace RunOperator

/-- The two times that a run carries, as stored. -/
structure Stamps where
  started : Option String
  ended : Option String
  deriving DecidableEq, Inhabited

/-- A stamp as it is written. -/
def formatTimestamp (t : Instant) : String := t.format

/-- The instant that a stamp stands for. -/
def parseTimestamp (text : String) : Except LifecycleError Instant :=
  (Instant.parse text).mapError (.invalidTimestamp text)

namespace Stamps

/-- No stamps. -/
def none : Stamps := ⟨Option.none, Option.none⟩

/-- The transition stamps the start: it leads out of the queue and no start is present. -/
def needsStart (s : Stamps) (source target : RunState) : Bool :=
  source != target && source == .queued && s.started.isNone

/-- The transition stamps the end: it leads into a final state and no end is present. -/
def needsEnd (s : Stamps) (source target : RunState) : Bool :=
  source != target && !source.isFinal && target.isFinal && s.ended.isNone

/-- The stamps after a transition at the given time. -/
def afterTransition (s : Stamps) (source target : RunState) (now : Instant) : Stamps where
  started := if s.needsStart source target then some (formatTimestamp now) else s.started
  ended := if s.needsEnd source target then some (formatTimestamp now) else s.ended

/-- The transition writes a stamp. -/
def changesAt (s : Stamps) (source target : RunState) : Bool :=
  s.needsStart source target || s.needsEnd source target

end Stamps

end RunOperator
