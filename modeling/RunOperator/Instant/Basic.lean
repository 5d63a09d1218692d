/-!
# Instants of Coordinated Universal Time

An instant is a count of seconds from the start of 1970 and a part of a second in nanoseconds.
A part of `10⁹` nanoseconds or more lies inside the leap second that follows the counted second.
The difference of two instants counts a leap second only when the clock reading of the other
instant lies on its far side.
-/

namespace RunOperator

/-- A point of time: whole seconds since 1970-01-01T00:00:00Z and nanoseconds after them. A
nanosecond part from `10⁹` on stands for the leap second after the counted one. -/
structure Instant where
  secs : Int
  nanos : Nat
  deriving DecidableEq, Inhabited

namespace Instant

/-- Seconds of a day without a leap second. -/
def secondsPerDay : Int := 86400

/-- Nanoseconds of a second. -/
def nanosPerSecond : Nat := 1000000000

/-- The instant lies inside a leap second. -/
def isLeap (t : Instant) : Bool := nanosPerSecond ≤ t.nanos

/-- The number of the day that holds the instant, counted from 1970-01-01. -/
def day (t : Instant) : Int := t.secs / secondsPerDay

/-- Seconds that have passed since the day began. -/
def secondOfDay (t : Instant) : Int := t.secs % secondsPerDay

/-- The instant with the part of its second dropped; a leap second stays a leap second. -/
def truncate (t : Instant) : Instant :=
  { t with nanos := if t.isLeap then nanosPerSecond else 0 }

/-- Instants in order of time. -/
protected def le (a b : Instant) : Prop := a.secs < b.secs ∨ (a.secs = b.secs ∧ a.nanos ≤ b.nanos)

instance : LE Instant := ⟨Instant.le⟩

instance (a b : Instant) : Decidable (a ≤ b) :=
  inferInstanceAs (Decidable (a.secs < b.secs ∨ (a.secs = b.secs ∧ a.nanos ≤ b.nanos)))

/-- Leap seconds between two clock readings of a day, as a correction to the difference of their
seconds: the earlier reading's own leap second has passed when the later reading is a later
second. -/
def leapCorrection (a b : Instant) : Int :=
  if b.secondOfDay < a.secondOfDay ∧ b.isLeap then 1
  else if a.secondOfDay < b.secondOfDay ∧ a.isLeap then -1
  else 0

/-- The time from `b` to `a` in nanoseconds, negative when `a` is the earlier. -/
def since (a b : Instant) : Int :=
  (a.secs - b.secs + leapCorrection a b) * nanosPerSecond + (a.nanos - b.nanos)

end Instant

/-- A span of time in nanoseconds, of either sign. -/
abbrev Span := Int

namespace Span

/-- Whole seconds of the span, cut toward zero. -/
def wholeSeconds (d : Span) : Int := Int.tdiv d Instant.nanosPerSecond

/-- What `wholeSeconds` leaves, with the sign of the span. -/
def subsecNanos (d : Span) : Int := Int.tmod d Instant.nanosPerSecond

end Span

end RunOperator
