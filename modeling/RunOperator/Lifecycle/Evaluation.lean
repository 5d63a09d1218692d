import RunOperator.Lifecycle.State

/-!
# The state that a run should be in

`evaluate` decides the state of a run from its stored state, whether its cancellation was asked
for, and the phases of its pods. The first rule that applies decides: a final state stays, a
cancellation request cancels, a failed pod fails the run, a run without pods or with a waiting pod
is still queued unless it already runs, pods that all succeeded complete it, and otherwise it runs.
-/

namespace RunOperator

/-- The state of a run that has no pods, or whose pods are not all going: a run that has started
does not fall back. -/
def RunState.whileWaiting : RunState → RunState
  | .running => .running
  | _ => .queued

/-- The state that a run should be in. -/
def evaluate (stored : RunState) (cancelRequested : Bool) (pods : List PodPhase) : RunState :=
  if stored.isFinal then stored
  else if cancelRequested then .cancelled
  else if pods.any (· == .failed) then .failed
  else if pods.isEmpty || pods.any PodPhase.isWaiting then stored.whileWaiting
  else if pods.all (· == .succeeded) then .complete
  else .running

end RunOperator
