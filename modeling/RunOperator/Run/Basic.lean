import RunOperator.Lifecycle.Evaluation
import RunOperator.Lifecycle.Stamps
import RunOperator.Run.Key
import RunOperator.Run.Metadata

/-!
# Runs

A run is an object with metadata and a spec. Its submitter writes the spec; the operator changes
three fields of it, the state and the two stamps, and carries everything else along.
-/

namespace RunOperator

/-- One condition of a label selector. -/
structure SelectorRequirement where
  key : String
  operator : String
  values : Option (List String)
  deriving DecidableEq, Inhabited

/-- A selector of objects by their labels. -/
structure LabelSelector where
  matchExpressions : Option (List SelectorRequirement)
  matchLabels : Option (List (String × String))
  deriving DecidableEq, Inhabited

/-- The spec of a run. State and stamps are kept as they are stored. -/
structure RunSpec where
  name : Option String
  experimentName : Option String
  parameters : Option (List String)
  podCount : Option Int
  podSelector : Option LabelSelector
  metrics : Option (List (String × Json))
  state : Option String
  startTime : Option String
  endTime : Option String
  deriving Inhabited

/-- A spec in which nothing is set. -/
def RunSpec.empty : RunSpec where
  name := none
  experimentName := none
  parameters := none
  podCount := none
  podSelector := none
  metrics := none
  state := none
  startTime := none
  endTime := none

/-- A run. -/
structure Run where
  metadata : Metadata
  spec : RunSpec
  deriving Inhabited

namespace Run

/-- The annotation by which the cancellation of a run is asked for. -/
def cancelAnnotation : String := "aipg.intel.com/cancel-requested"

/-- The label that carries the kind of a run. -/
def kindLabel : String := "runKind"

/-- The label on a pod that names its run. -/
def nameLabel : String := "runName"

/-- A run with a namespace, a name and a spec. -/
def named (ns name : String) (spec : RunSpec) : Run where
  metadata := { Metadata.empty with ns := some ns, name := some name }
  spec := spec

/-- The name of a run: the one it was given, or else the one its name is made from. -/
def displayName (r : Run) : String :=
  match r.metadata.name with
  | some name => name
  | none => r.metadata.generateName.getD ""

/-- The key of a run; a missing namespace counts as the empty one. -/
def key (r : Run) : RunKey := ⟨r.metadata.ns.getD "", r.displayName⟩

/-- The state of a run. -/
def state (r : Run) : Except LifecycleError RunState := RunState.ofStored r.spec.state

/-- The run with a state stored. -/
def setState (r : Run) (s : RunState) : Run :=
  { r with spec := { r.spec with state := some s.word } }

/-- The stamps of a run. -/
def stamps (r : Run) : Stamps := ⟨r.spec.startTime, r.spec.endTime⟩

/-- The run with both stamps replaced. -/
def setStamps (r : Run) (s : Stamps) : Run :=
  { r with spec := { r.spec with startTime := s.started, endTime := s.ended } }

/-- The run with another version. -/
def setVersion (r : Run) (version : Option String) : Run :=
  { r with metadata := { r.metadata with resourceVersion := version } }

/-- A flag's text counts as set: `1`, or `true` in any case. -/
def isSetFlag (text : String) : Bool := text.toLower == "true" || text == "1"

/-- The cancellation of the run was asked for. -/
def cancelRequested (r : Run) : Bool :=
  ((r.metadata.annotation? cancelAnnotation).map isSetFlag).getD false

/-- The kind of a run, when its label is a known kind. -/
def kind (r : Run) : Option RunKind := (r.metadata.label? kindLabel).bind RunKind.ofWord?

/-- The template that a run was made from, by the label its pods are selected by. -/
def templateName (r : Run) : Option String :=
  r.spec.podSelector.bind fun s => (s.matchLabels.getD []).lookup "app"

/-- How long a run has lasted: until its end, or until now while it has none. There is no answer
before its start and for stamps that are no instants. -/
def duration (r : Run) (now : Instant) : Option Span := do
  let started ← (parseTimestamp (← r.spec.startTime)).toOption
  match r.spec.endTime with
  | some text =>
    let ended ← (parseTimestamp text).toOption
    return ended.since started
  | none => return now.since started

/-- The state that the run should be in with the given pods. -/
def nextState (r : Run) (pods : List PodPhase) : Except LifecycleError RunState :=
  r.state.map fun s => evaluate s r.cancelRequested pods

/-- The run after a transition: the new state and the stamps that the transition writes. -/
def transition (r : Run) (source target : RunState) (now : Instant) : Run :=
  (r.setState target).setStamps (r.stamps.afterTransition source target now)

end Run

end RunOperator
