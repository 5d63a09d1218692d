import RunOperator.Watch.Event

/-!
# The roster of known runs

A watch is followed by a roster of the runs that it has shown, which tells what happened to them. A
change of a known run is no event; a run that a listing no longer holds was deleted. The first
listing resumes its runs, whereas a later one, which a watch begins after it was interrupted,
creates the runs that were unknown and leaves the known ones alone: a monitor that gave up stays
down until the operator starts anew.
-/

namespace RunOperator

/-- The runs that a watch has shown. -/
structure Roster where
  known : KeySet
  /-- The runs of the listing that is under way. -/
  listing : Option KeySet
  /-- A listing was completed. -/
  listed : Bool
  deriving Inhabited

namespace Roster

/-- The roster of a watch that has shown nothing. -/
def initial : Roster := ⟨KeySet.empty, none, false⟩

/-- The event of a run that appears: it is created unless it was known. -/
def appearance (known : KeySet) (k : RunKey) : List RunEvent :=
  if known.contains k then [] else [.create k]

/-- The keys of one set that are not in another, as deletions in the order of the keys. -/
def deletions (before after : KeySet) : List RunEvent :=
  (before.keys.filter fun k => !after.contains k).map .delete

/-- What happened to runs by a watch event, and the roster after it. -/
def observe (t : Roster) : WatchEvent → List RunEvent × Roster
  | .init => ([], { t with listing := some KeySet.empty })
  | .initApply r =>
    (if t.listed then appearance t.known r.key else [.resume r],
      { t with
        known := t.known.add r.key
        listing := some ((t.listing.getD KeySet.empty).add r.key) })
  | .initDone =>
    let listing := t.listing.getD KeySet.empty
    (deletions t.known listing, { known := listing, listing := none, listed := true })
  | .apply r => (appearance t.known r.key, { t with known := t.known.add r.key })
  | .delete r => ([.delete r.key], { t with known := t.known.erase r.key })

/-- What happened to runs by a sequence of watch events, and the roster after them. -/
def observeAll (t : Roster) : List WatchEvent → List RunEvent × Roster
  | [] => ([], t)
  | e :: rest =>
    let (first, t) := t.observe e
    let (others, t) := t.observeAll rest
    (first ++ others, t)

/-- The number of known runs. -/
def size (t : Roster) : Nat := t.known.keys.length

end Roster

end RunOperator
