import RunOperator.Proofs.ActionEffects

/-!
# What the world shows of one run

The view of a run holds all that can ever matter to it: its object, its pods, counters and errors
in the store, what watches and loops still have to tell of it, and its monitors. The numbers that
runs share are left out of it. Of a version the view tells only whether a monitor carries the one
that is stored, and of a lease whether it is registered and whether it was cancelled.

Not every action concerns the run. Those that do make up its trace (`World.trace`), in which the
monitors of the run are numbered among themselves.
-/

namespace RunOperator

/-! ### Objects and events -/

/-- What is told of one run only is told of the run if it is that one. -/
theorem eq_of_ite_eq_some {α : Type} {k' k : RunKey} {a b : α}
    (h : (if k' = k then some a else none) = some b) : k' = k ∧ b = a := by
  obtain ⟨heq, hab⟩ := Option.ite_none_right_eq_some.1 h
  exact ⟨heq, (Option.some.inj hab).symm⟩

/-- A test of two keys that gives nothing tells them apart. -/
theorem ne_of_ite_eq_none {α : Type} {k' k : RunKey} {a : α}
    (h : (if k' = k then some a else none) = none) : k' ≠ k := by
  intro heq
  rw [if_pos heq] at h
  cases h

/-- The run without its version. -/
def Run.bare (r : Run) : Run := r.setVersion none

/-- The bare object has the key of the run. -/
@[simp] theorem Run.key_bare (r : Run) : r.bare.key = r.key := rfl

/-- The bare object has the state of the run. -/
@[simp] theorem Run.state_bare (r : Run) : r.bare.state = r.state := rfl

/-- What a watch event tells of a run: nothing, if it is about another. -/
def WatchEvent.about (k : RunKey) : WatchEvent → Option WatchEvent
  | .init => some .init
  | .initApply r => if r.key = k then some (.initApply r.bare) else none
  | .initDone => some .initDone
  | .apply r => if r.key = k then some (.apply r.bare) else none
  | .delete r => if r.key = k then some (.delete r.bare) else none

/-- What an item of a script tells of a run. Errors are about all runs. -/
def WatchEvent.itemAbout (k : RunKey) :
    Except ClientError WatchEvent → Option (Except ClientError WatchEvent)
  | .ok e => (e.about k).map .ok
  | .error e => some (.error e)

/-- What an event of some run's life tells of a run. -/
def RunEvent.about (k : RunKey) : RunEvent → Option RunEvent
  | .create k' => if k' = k then some (.create k') else none
  | .resume r => if r.key = k then some (.resume r.bare) else none
  | .delete k' => if k' = k then some (.delete k') else none

/-- What a watch still has to tell of a run. -/
def Watch.about (k : RunKey) (w : Watch) : Watch :=
  { w with pending := w.pending.filterMap (WatchEvent.about k) }

/-- The set without any other key. -/
def KeySet.only (k : RunKey) (s : KeySet) : KeySet := s.restrict (· = k)

/-- What a roster holds of a run. A listing that has not begun is as good as an empty one. -/
def Roster.about (k : RunKey) (t : Roster) : Roster where
  known := t.known.only k
  listing := some ((t.listing.getD KeySet.empty).only k)
  listed := t.listed

/-- What the input of a loop still has to tell of a run. -/
def LoopInput.about (k : RunKey) : LoopInput → LoopInput
  | .watch number => .watch number
  | .script pending closed => .script (pending.filterMap (WatchEvent.itemAbout k)) closed

/-- What a loop holds and still has to tell of a run. -/
def Loop.about (k : RunKey) (l : Loop) : Loop :=
  { l with input := l.input.about k, roster := l.roster.about k }

/-! ### The store -/

/-- What the store shows of a run. -/
@[ext]
structure StoreView where
  run : Option Run
  pods : List PodPhase
  gets : Nat
  updates : Nat
  getFailures : List ClientError
  updateFailures : List ClientError
  latency : Nat
  watches : List Watch

/-- What a store shows of a run. -/
def Store.view (k : RunKey) (s : Store) : StoreView where
  run := (s.runs.get? k).map Run.bare
  pods := s.podsOf k
  gets := s.gets.getD k 0
  updates := s.updates.getD k 0
  getFailures := s.getFailures.getD k []
  updateFailures := s.updateFailures.getD k []
  latency := s.latency
  watches := s.watches.map (Watch.about k)

/-- The object carries the version of the one that is stored under its key. -/
def Store.isCurrent (s : Store) (r : Run) : Bool :=
  (s.runs.get? r.key).any fun stored =>
    r.metadata.resourceVersion == stored.metadata.resourceVersion

/-! ### Monitors -/

/-- The object that a monitor carries in a phase. -/
def Phase.run? : Phase → Option Run
  | .listing _ r _ | .writing _ r _ => some r
  | .sleeping _ | .reading _ | .ended _ => none

/-- The phase without the version of the object that is carried. -/
def Phase.bare : Phase → Phase
  | .listing c r current => .listing c r.bare current
  | .writing c r target => .writing c r.bare target
  | .sleeping t => .sleeping t
  | .reading c => .reading c
  | .ended e => .ended e

/-- The monitor without the number of its lease and the version of the object that it carries. -/
def Monitor.bare (m : Monitor) : Monitor :=
  { m with lease := ⟨m.lease.key, 0⟩, phase := m.phase.bare }

/-- What the world shows of a monitor. -/
@[ext]
structure MonitorView where
  monitor : Monitor
  cancelled : Bool
  registered : Bool
  /-- The object that it carries has the version of the stored one. -/
  current : Bool

/-- What the registry and the store show of a monitor. -/
def Monitor.view (r : Registry) (s : Store) (m : Monitor) : MonitorView where
  monitor := m.bare
  cancelled := r.isCancelled m.lease.id
  registered := r.entries.get? m.lease.key == some m.lease.id
  current := m.phase.run?.any s.isCurrent

/-- The monitor was started for the run. -/
def Monitor.isFor (k : RunKey) (m : Monitor) : Bool := m.lease.key == k

/-! ### The world -/

/-- What the world shows of a run. -/
@[ext]
structure RunView where
  settings : Settings
  clock : Nat
  wall : Instant
  store : StoreView
  /-- Whether the lease that is registered for the run, if one is, was cancelled. -/
  entry : Option Bool
  /-- The monitors of the run, in the order in which they were started. -/
  team : List MonitorView
  loops : List Loop

namespace World

/-- The monitors of a run. -/
def monitorsOf (w : World) (k : RunKey) : List Monitor := w.monitors.filter (Monitor.isFor k)

/-- What the world shows of a run. -/
def view (k : RunKey) (w : World) : RunView where
  settings := w.settings
  clock := w.clock
  wall := w.wall
  store := w.store.view k
  entry := (w.registry.entries.get? k).map w.registry.isCancelled
  team := (w.monitorsOf k).map (Monitor.view w.registry w.store)
  loops := w.loops.map (Loop.about k)

end World

/-! ### Traces -/

/-- The change of the store that a change is to a run. -/
def StoreChange.about (k : RunKey) : StoreChange → Option StoreChange
  | .insert r => if r.key = k then some (.insert r.bare) else none
  | .delete k' => if k' = k then some (.delete k') else none
  | .modify k' edit => if k' = k then some (.modify k' edit) else none
  | .setPods k' pods => if k' = k then some (.setPods k' pods) else none
  | .failGets k' errors => if k' = k then some (.failGets k' errors) else none
  | .failUpdates k' errors => if k' = k then some (.failUpdates k' errors) else none
  | .setLatency latency => some (.setLatency latency)
  | .get k' => if k' = k then some (.get k') else none
  | .replace r => if r.key = k then some (.replace r) else none
  | .openWatch scope => some (.openWatch scope)
  | .drain number => some (.drain number)
  | .closeWatches => some .closeWatches

/-- The change of the registry that a change is to a run. -/
def RegistryChange.about (k : RunKey) : RegistryChange → Option RegistryChange
  | .register k' => if k' = k then some (.register k') else none
  | .registerReplacing k' => if k' = k then some (.registerReplacing k') else none
  | .cancel k' => if k' = k then some (.cancel k') else none
  | .evict k' => if k' = k then some (.evict k') else none
  | .cancelAll => some .cancelAll
  | .cancelToken id => some (.cancelToken id)
  | .release lease => if lease.key = k then some (.release lease) else none

namespace World

/-- The number of a monitor among the monitors of its run. -/
def rank (w : World) (k : RunKey) (number : Nat) : Nat :=
  (w.monitors.take number).countP (Monitor.isFor k)

/-- A loop will end, pass over an error, or take in an event that is about the run. -/
def loopConcerns (w : World) (k : RunKey) (number : Nat) : Bool :=
  match w.loops[number]? with
  | none => false
  | some l => !l.ended && (l.stopping ||
      match l.input with
      | .watch watch =>
        match w.store.pendingOf watch with
        | e :: _ => (e.about k).isSome
        | [] => w.store.isExhausted watch
      | .script (item :: _) _ => (WatchEvent.itemAbout k item).isSome
      | .script [] closed => closed)

/-- What an action is for a run: nothing, if it concerns other runs only. A move of a loop that has
nothing to take in is nothing either. -/
def concern? (k : RunKey) (w : World) : Action → Option Action
  | .store c => (c.about k).map .store
  | .registry c => (c.about k).map .registry
  | .start lease => if lease.key = k then some (.start lease) else none
  | .configure settings => some (.configure settings)
  | .pass time => some (.pass time)
  | .setWall wall => some (.setWall wall)
  | .monitor number =>
    if (w.monitors[number]?).any (Monitor.isFor k) then some (.monitor (w.rank k number)) else none
  | .abort number =>
    if (w.monitors[number]?).any (Monitor.isFor k) then some (.abort (w.rank k number)) else none
  | .react e => (e.about k).map .react
  | .shutdown => some .shutdown
  | .dispatchWatch scope => some (.dispatchWatch scope)
  | .dispatchScript => some .dispatchScript
  | .emit number item => (WatchEvent.itemAbout k item).map (.emit number)
  | .endScript number => some (.endScript number)
  | .stopLoop number => some (.stopLoop number)
  | .loop number => if w.loopConcerns k number then some (.loop number) else none

/-- What a history is for a run: the steps that concern it. -/
def trace (k : RunKey) : World → List Action → List Action
  | _, [] => []
  | w, a :: h => (w.concern? k a).toList ++ trace k (w.act a) h

end World

end RunOperator
