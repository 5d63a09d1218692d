import RunOperator.Client.Error
import RunOperator.Run.Filter
import RunOperator.Watch.Event

/-!
# The store of runs

The store keeps the current object of every run. Each write gives the object the next version, and
a replacement applies only to the version that it was made from, so that of two writers that read
the same object the second is refused. Every change is passed on to the watches in whose scope it
lies.

Errors can be put in the way of the next reads or replacements of a run. A call that fails counts
as a call but changes nothing else.
-/

namespace RunOperator

/-- A stream of watch events: its scope and the events that were not taken yet. -/
structure Watch where
  scope : Option String
  pending : List WatchEvent
  /-- No events will come any more. -/
  closed : Bool
  deriving Inhabited

/-- The runs of a cluster, with what is told about them. -/
structure Store where
  runs : KeyMap Run
  pods : KeyMap (List PodPhase)
  lastVersion : Nat
  gets : KeyMap Nat
  updates : KeyMap Nat
  getFailures : KeyMap (List ClientError)
  updateFailures : KeyMap (List ClientError)
  /-- How long each client call takes, in milliseconds. -/
  latency : Nat
  watches : List Watch
  deriving Inhabited

namespace Store

/-- The store without runs. -/
def empty : Store where
  runs := KeyMap.empty
  pods := KeyMap.empty
  lastVersion := 0
  gets := KeyMap.empty
  updates := KeyMap.empty
  getFailures := KeyMap.empty
  updateFailures := KeyMap.empty
  latency := 0
  watches := []

/-! ### Changes -/

/-- Passes an event about a run on to a watch. -/
def notify (k : RunKey) (e : WatchEvent) (w : Watch) : Watch :=
  if k.inScope w.scope && !w.closed then { w with pending := w.pending ++ [e] } else w

/-- Passes an event about a run on to all watches. -/
def broadcast (s : Store) (k : RunKey) (e : WatchEvent) : Store :=
  { s with watches := s.watches.map (notify k e) }

/-- The run with the next version. -/
def stampVersion (s : Store) (r : Run) : Run := r.setVersion (some (toString (s.lastVersion + 1)))

/-- Writes a run under a key with the next version. -/
def write (s : Store) (k : RunKey) (r : Run) : Run × Store :=
  let r := s.stampVersion r
  (r, broadcast { s with runs := s.runs.insert k r, lastVersion := s.lastVersion + 1 } k (.apply r))

/-- Creates or overwrites a run, as its submitter does. -/
def insert (s : Store) (r : Run) : Run × Store := s.write r.key r

/-- Deletes a run; the answer is the run that was deleted. -/
def delete (s : Store) (k : RunKey) : Option Run × Store :=
  match s.runs.get? k with
  | some r => (some r, broadcast { s with runs := s.runs.erase k } k (.delete r))
  | none => (none, s)

/-- Changes a stored run, as another writer does. -/
def modify (s : Store) (k : RunKey) (f : Run → Run) : Option Run × Store :=
  match s.runs.get? k with
  | some r =>
    let (r, s) := s.write k (f r)
    (some r, s)
  | none => (none, s)

/-- Sets the pods of a run. -/
def setPods (s : Store) (k : RunKey) (pods : List PodPhase) : Store :=
  { s with pods := s.pods.insert k pods }

/-- Puts errors in the way of the next reads of a run, after those that are there. -/
def failGets (s : Store) (k : RunKey) (errors : List ClientError) : Store :=
  { s with getFailures := s.getFailures.insert k (s.getFailures.getD k [] ++ errors) }

/-- Puts errors in the way of the next replacements of a run, after those that are there. -/
def failUpdates (s : Store) (k : RunKey) (errors : List ClientError) : Store :=
  { s with updateFailures := s.updateFailures.insert k (s.updateFailures.getD k [] ++ errors) }

/-- Sets how long each client call takes. -/
def setLatency (s : Store) (latency : Nat) : Store := { s with latency }

/-! ### Client calls -/

/-- Reads a run. -/
def get (s : Store) (k : RunKey) : Except ClientError Run × Store :=
  let s := { s with gets := s.gets.insert k (s.gets.getD k 0 + 1) }
  match s.getFailures.getD k [] with
  | e :: rest => (.error e, { s with getFailures := s.getFailures.insert k rest })
  | [] =>
    match s.runs.get? k with
    | some r => (.ok r, s)
    | none => (.error (.runNotFound k), s)

/-- Replaces a run by an object that was made from the stored version. -/
def replace (s : Store) (r : Run) : Except ClientError Run × Store :=
  let k := r.key
  let s := { s with updates := s.updates.insert k (s.updates.getD k 0 + 1) }
  match s.updateFailures.getD k [] with
  | e :: rest => (.error e, { s with updateFailures := s.updateFailures.insert k rest })
  | [] =>
    match s.runs.get? k with
    | none => (.error (.runNotFound k), s)
    | some stored =>
      if r.metadata.resourceVersion = stored.metadata.resourceVersion then
        let (r, s) := s.write k r
        (.ok r, s)
      else (.error (.conflict k), s)

/-- The runs in a scope that pass a filter, in the order of their keys. -/
def list (s : Store) (scope : Option String) (f : RunFilter) : List Run :=
  f.apply (s.runs.restrict (·.inScope scope)).values

/-- The pods of a run. -/
def podsOf (s : Store) (k : RunKey) : List PodPhase := s.pods.getD k []

/-! ### Watches -/

/-- The events of a listing of the runs in a scope. -/
def listing (s : Store) (scope : Option String) : List WatchEvent :=
  .init :: (s.list scope .all).map .initApply ++ [.initDone]

/-- Opens a watch, which is known by its number among all watches. -/
def openWatch (s : Store) (scope : Option String) : Nat × Store :=
  (s.watches.length, { s with watches := s.watches ++ [⟨scope, s.listing scope, false⟩] })

/-- The events of a watch that were not taken yet. -/
def pendingOf (s : Store) (number : Nat) : List WatchEvent :=
  ((s.watches[number]?).map Watch.pending).getD []

/-- The watch has ended and all its events were taken. -/
def isExhausted (s : Store) (number : Nat) : Bool :=
  match s.watches[number]? with
  | some w => w.closed && w.pending.isEmpty
  | none => true

/-- Takes all events of a watch. -/
def drain (s : Store) (number : Nat) : Store :=
  { s with watches := s.watches.modify number fun w => { w with pending := [] } }

/-- Takes the next event of a watch. -/
def takeEvent (s : Store) (number : Nat) : Store :=
  { s with watches := s.watches.modify number fun w => { w with pending := w.pending.tail } }

/-- Ends every watch; the events that were not taken stay. -/
def closeWatches (s : Store) : Store :=
  { s with watches := s.watches.map fun w => { w with closed := true } }

end Store

end RunOperator
