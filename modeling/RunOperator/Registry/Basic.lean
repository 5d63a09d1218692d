import RunOperator.Run.Key

/-!
# The registry of monitors

At most one monitor is registered for a run. Who registers gets a lease, which is known by its
number; the number stands for the cancellation token of the lease too. An entry stays until its
own lease is released, also when the token was cancelled, so that a lease that was replaced or
evicted cannot take the entry of another with it.
-/

namespace RunOperator

/-- A registration for a run. -/
structure Lease where
  key : RunKey
  id : Nat
  deriving DecidableEq, Inhabited

/-- The registered leases by their runs, and the leases whose tokens were cancelled. -/
structure Registry where
  entries : KeyMap Nat
  cancelled : List Nat
  nextId : Nat
  deriving Inhabited

namespace Registry

/-- The registry without entries. -/
def empty : Registry := ⟨KeyMap.empty, [], 0⟩

/-- The run is registered. -/
def contains (r : Registry) (k : RunKey) : Bool := r.entries.contains k

/-- The registered runs in order. -/
def keys (r : Registry) : List RunKey := r.entries.keys

/-- The token of a lease was cancelled. -/
def isCancelled (r : Registry) (id : Nat) : Bool := r.cancelled.contains id

/-- Cancels the token of a lease. -/
def cancelId (r : Registry) (id : Nat) : Registry := { r with cancelled := id :: r.cancelled }

/-- Issues the next lease and enters it. -/
def issue (r : Registry) (k : RunKey) : Lease × Registry :=
  (⟨k, r.nextId⟩, { r with entries := r.entries.insert k r.nextId, nextId := r.nextId + 1 })

/-- Registers a run unless it is registered. -/
def registerIfAbsent (r : Registry) (k : RunKey) : Option Lease × Registry :=
  if r.contains k then (none, r)
  else
    let (lease, r) := r.issue k
    (some lease, r)

/-- Registers a run and cancels the lease that was registered for it before. -/
def registerReplacing (r : Registry) (k : RunKey) : Lease × Registry :=
  match r.entries.get? k with
  | some id => (r.cancelId id).issue k
  | none => r.issue k

/-- Cancels the lease that is registered for a run; its entry stays. The answer says whether there
was one. -/
def cancel (r : Registry) (k : RunKey) : Bool × Registry :=
  match r.entries.get? k with
  | some id => (true, r.cancelId id)
  | none => (false, r)

/-- Cancels the lease that is registered for a run and removes its entry. -/
def evict (r : Registry) (k : RunKey) : Bool × Registry :=
  match r.entries.get? k with
  | some id => (true, { r.cancelId id with entries := r.entries.erase k })
  | none => (false, r)

/-- Cancels every registered lease. The answer is their number. -/
def cancelAll (r : Registry) : Nat × Registry :=
  (r.entries.values.length, { r with cancelled := r.entries.values ++ r.cancelled })

/-- Releases a lease: its entry goes, if it is still its own. -/
def release (r : Registry) (lease : Lease) : Registry :=
  if r.entries.get? lease.key = some lease.id then
    { r with entries := r.entries.erase lease.key }
  else r

end Registry

end RunOperator
