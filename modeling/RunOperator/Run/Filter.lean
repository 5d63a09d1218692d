import RunOperator.Client.Error
import RunOperator.Pattern.Parser
import RunOperator.Run.Basic

/-!
# Filters of runs

A filter holds up to five criteria, and a run passes when it meets each criterion that is set. A
run whose stored state is no state meets no demand for states, but an exclusion does not hit it
either; a run without a known kind meets no demand for kinds. Demands for states and kinds grow
with each call, while of the other criteria the last one counts.
-/

namespace RunOperator

/-- Criteria for runs. -/
structure RunFilter where
  /-- What the name of a run has to satisfy. -/
  acceptsName : Option (String → Bool)
  states : List RunState
  excludedState : Option RunState
  experiment : Option String
  kinds : List RunKind
  deriving Inhabited

namespace RunFilter

/-- The filter that every run passes. -/
def all : RunFilter where
  acceptsName := none
  states := []
  excludedState := none
  experiment := none
  kinds := []

/-- Demands a name that satisfies a test. -/
def nameMatching (f : RunFilter) (accepts : String → Bool) : RunFilter :=
  { f with acceptsName := some accepts }

/-- Demands a name in which a pattern matches; the text must be a pattern. -/
def namePattern (f : RunFilter) (text : String) : Except ClientError RunFilter :=
  match Pattern.parse? text with
  | some p => .ok (f.nameMatching p.accepts)
  | none => .error (.invalidFilter ("bad name pattern '" ++ text ++ "': "))

/-- Demands one of the given states, or one that was demanded before. -/
def withStates (f : RunFilter) (states : List RunState) : RunFilter :=
  { f with states := f.states ++ states }

/-- Excludes a state. -/
def excludingState (f : RunFilter) (state : RunState) : RunFilter :=
  { f with excludedState := some state }

/-- Demands an experiment. -/
def forExperiment (f : RunFilter) (experiment : String) : RunFilter :=
  { f with experiment := some experiment }

/-- Demands one of the given kinds, or one that was demanded before. -/
def withKinds (f : RunFilter) (kinds : List RunKind) : RunFilter :=
  { f with kinds := f.kinds ++ kinds }

/-- The run's name is accepted. -/
def meetsName (f : RunFilter) (r : Run) : Bool :=
  match f.acceptsName with
  | none => true
  | some accepts => accepts r.displayName

/-- The run's state is demanded, or no state is. -/
def meetsStates (f : RunFilter) (r : Run) : Bool :=
  f.states.isEmpty || match r.state with
    | .ok s => f.states.contains s
    | .error _ => false

/-- The run's state is not the excluded one. -/
def meetsExclusion (f : RunFilter) (r : Run) : Bool :=
  match f.excludedState, r.state with
  | some excluded, .ok s => s != excluded
  | _, _ => true

/-- The run belongs to the demanded experiment, or none is demanded. -/
def meetsExperiment (f : RunFilter) (r : Run) : Bool :=
  match f.experiment with
  | none => true
  | some experiment => r.spec.experimentName == some experiment

/-- The run's kind is demanded, or no kind is. -/
def meetsKinds (f : RunFilter) (r : Run) : Bool :=
  f.kinds.isEmpty || match r.kind with
    | some k => f.kinds.contains k
    | none => false

/-- The run meets each criterion that is set. -/
def accepts (f : RunFilter) (r : Run) : Bool :=
  f.meetsName r && f.meetsStates r && f.meetsExclusion r && f.meetsExperiment r && f.meetsKinds r

/-- The runs that pass, in the order given. -/
def apply (f : RunFilter) (runs : List Run) : List Run := runs.filter f.accepts

end RunFilter

end RunOperator
