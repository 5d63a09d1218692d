import RunOperator.Client.Error
import RunOperator.Run.Basic

/-!
# One poll of a run

A poll reads the run, lists its pods, and replaces the run when its state has to change. Each
answer decides what the poll does next; it never writes more than once, and it writes the state
and both stamps together.
-/

namespace RunOperator

/-- What a poll found out when it succeeded: the run is still on its way, or it is in a final
state. -/
inductive PollAnswer where
  | pending
  | done (state : RunState)
  deriving DecidableEq, Inhabited

/-- How a poll ends. -/
abbrev PollResult := Except PollError PollAnswer

/-- What a poll does after an answer: it goes on with something, or it ends. -/
inductive PollStep (α : Type) where
  | next (what : α)
  | finish (result : PollResult)
  deriving Inhabited

namespace Poll

/-- The poll goes on with a run that it has read and the state of the run, unless that is final or
no state at all. -/
def ofRun (r : Run) : PollStep (Run × RunState) :=
  match r.state with
  | .error e => .finish (.error (.invalidState e))
  | .ok current => if current.isFinal then .finish (.ok (.done current)) else .next (r, current)

/-- The poll goes on after the run was read: it will list the pods of the run. -/
def afterRead : Except ClientError Run → PollStep (Run × RunState)
  | .error e => .finish (.error (.client e))
  | .ok r => ofRun r

/-- The poll goes on after the pods of the run were listed: it will replace the run by one in
another state, unless the state stays. -/
def afterList (r : Run) (current : RunState) (now : Instant) :
    Except ClientError (List PodPhase) → PollStep (Run × RunState)
  | .error e => .finish (.error (.client e))
  | .ok pods =>
    let target := evaluate current r.cancelRequested pods
    if target = current then .finish (.ok .pending)
    else .next (r.transition current target now, target)

/-- The poll ends after the run was replaced by one in the target state. -/
def afterWrite (target : RunState) : Except ClientError Run → PollResult
  | .error e => .error (.client e)
  | .ok _ => .ok (if target.isFinal then .done target else .pending)

end Poll

end RunOperator
