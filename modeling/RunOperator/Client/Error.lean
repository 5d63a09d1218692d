import RunOperator.Lifecycle.State
import RunOperator.Run.Key

/-!
# Errors of client calls

A call to the cluster fails for one of seven causes. A missing run is told apart from all others,
and a cause is transient when the same call may succeed later: a conflict counts, since a fresh
read gives a copy that the write can apply to, and so does a failed connection, which is made anew
by the next call.

A poll of a run fails because one of its client calls failed, because the run's stored state is no
state, or because the monitor was cancelled.
-/

namespace RunOperator

/-- Why a client call failed. -/
inductive ClientError where
  | api (text : String)
  | connection (text : String)
  | runNotFound (key : RunKey)
  | conflict (key : RunKey)
  | timeout
  | watch (text : String)
  | invalidFilter (text : String)
  deriving DecidableEq, Inhabited

namespace ClientError

/-- The wording of each error. -/
def message : ClientError → String
  | api text => "K8s API error: " ++ text
  | connection text => "Cannot connect to cluster: " ++ text
  | runNotFound key => "Run not found: " ++ key.display
  | conflict key => "Run was modified concurrently: " ++ key.display
  | timeout => "Operation timed out"
  | watch text => "Watch error: " ++ text
  | invalidFilter text => "Invalid run filter: " ++ text

/-- The run does not exist. -/
def isNotFound : ClientError → Bool
  | runNotFound _ => true
  | _ => false

/-- The same call may succeed later. -/
def isTransient : ClientError → Bool
  | api _ | connection _ | conflict _ | timeout | watch _ => true
  | runNotFound _ | invalidFilter _ => false

end ClientError

/-- Why a poll of a run failed. -/
inductive PollError where
  | client (cause : ClientError)
  | invalidState (cause : LifecycleError)
  | cancelled
  deriving DecidableEq, Inhabited

namespace PollError

/-- The wording of each error; a client error speaks for itself. -/
def message : PollError → String
  | client cause => cause.message
  | invalidState cause => "Invalid run state: " ++ cause.message
  | cancelled => "Monitor cancelled"

/-- A client call found that the run does not exist. -/
def isNotFound : PollError → Bool
  | client cause => cause.isNotFound
  | _ => false

/-- A client call failed that may succeed later. -/
def isTransient : PollError → Bool
  | client cause => cause.isTransient
  | _ => false

end PollError

end RunOperator
