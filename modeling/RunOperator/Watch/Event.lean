import RunOperator.Run.Basic

/-!
# Watch events

A watch of the cluster first lists the runs in its scope, between `init` and `initDone`, and then
reports each change. What the operator acts on are the three events of a run's life: it appeared,
it was there already when the operator began to watch, and it was deleted.
-/

namespace RunOperator

/-- What a watch reports. -/
inductive WatchEvent where
  /-- A listing begins. -/
  | init
  /-- A run of the listing. -/
  | initApply (run : Run)
  /-- The listing is complete. -/
  | initDone
  /-- A run was created or changed. -/
  | apply (run : Run)
  /-- A run was deleted. -/
  | delete (run : Run)
  deriving Inhabited

/-- An event in the life of a run. -/
inductive RunEvent where
  /-- A run appeared. -/
  | create (key : RunKey)
  /-- A run existed when the watch first started. -/
  | resume (run : Run)
  /-- A run was deleted. -/
  | delete (key : RunKey)
  deriving Inhabited

namespace RunEvent

/-- The run that an event is about. -/
def key : RunEvent → RunKey
  | create k | delete k => k
  | resume r => r.key

end RunEvent

end RunOperator
