import RunOperator.Instant.Parser

/-!
# States, kinds and pod phases

The lifecycle of a run has five states. It starts queued and moves towards one of the three final
states, which it never leaves. A run is of one of three kinds, and each of its pods is in one of
five phases. All three are written as words; a word that is none of them is refused, except that
an unfamiliar pod phase counts as unknown.
-/

namespace RunOperator

/-- Why a stored word or time cannot be understood. -/
inductive LifecycleError where
  | unknownState (word : String)
  | unknownKind (word : String)
  | invalidTimestamp (text : String) (reason : InstantError)
  deriving DecidableEq, Inhabited

/-- The wording of each error. -/
def LifecycleError.message : LifecycleError → String
  | .unknownState word => "unknown run state: " ++ word
  | .unknownKind word => "unknown run kind: " ++ word
  | .invalidTimestamp text reason => "invalid timestamp '" ++ text ++ "': " ++ reason.message

/-- The lifecycle state of a run. -/
inductive RunState where
  /-- Submitted; its pods are not yet scheduled. -/
  | queued
  /-- A pod runs and none has failed. -/
  | running
  /-- All pods succeeded. -/
  | complete
  /-- A pod failed. -/
  | failed
  /-- Cancelled on request. -/
  | cancelled
  deriving DecidableEq, Inhabited

namespace RunState

/-- All states, in the order of a lifecycle. -/
def all : List RunState := [queued, running, complete, failed, cancelled]

/-- No transition leads out of a final state. -/
def isFinal : RunState → Bool
  | queued | running => false
  | complete | failed | cancelled => true

/-- How far along its lifecycle a state is: 0 queued, 1 running, 2 final. -/
def stage : RunState → Nat
  | queued => 0
  | running => 1
  | complete | failed | cancelled => 2

/-- The word that stands for a state. -/
def word : RunState → String
  | queued => "QUEUED"
  | running => "RUNNING"
  | complete => "COMPLETE"
  | failed => "FAILED"
  | cancelled => "CANCELLED"

/-- The state that a word stands for. -/
def ofWord? (w : String) : Option RunState := all.find? fun s => s.word = w

/-- Reads the word of a state. -/
def parse (w : String) : Except LifecycleError RunState :=
  match ofWord? w with
  | some s => .ok s
  | none => .error (.unknownState w)

/-- The state of a run by its stored word. A run that carries none has not been stamped by its
submitter yet and counts as queued. -/
def ofStored : Option String → Except LifecycleError RunState
  | none => .ok queued
  | some w => parse w

end RunState

/-- What a run is for. -/
inductive RunKind where
  | training
  | jupyter
  | inference
  deriving DecidableEq, Inhabited

namespace RunKind

/-- All kinds. -/
def all : List RunKind := [training, jupyter, inference]

/-- The word that stands for a kind. -/
def word : RunKind → String
  | training => "training"
  | jupyter => "jupyter"
  | inference => "inference"

/-- The kind that a word stands for. -/
def ofWord? (w : String) : Option RunKind := all.find? fun k => k.word = w

/-- Reads the word of a kind. -/
def parse (w : String) : Except LifecycleError RunKind :=
  match ofWord? w with
  | some k => .ok k
  | none => .error (.unknownKind w)

end RunKind

/-- The phase of a pod. -/
inductive PodPhase where
  | pending
  | running
  | succeeded
  | failed
  | unknown
  deriving DecidableEq, Inhabited

namespace PodPhase

/-- All phases. -/
def all : List PodPhase := [pending, running, succeeded, failed, unknown]

/-- The word that stands for a phase. -/
def word : PodPhase → String
  | pending => "Pending"
  | running => "Running"
  | succeeded => "Succeeded"
  | failed => "Failed"
  | unknown => "Unknown"

/-- The phase that a word stands for. -/
def ofWord? (w : String) : Option PodPhase := all.find? fun p => p.word = w

/-- The phase of a pod by its reported word; an unfamiliar or missing one counts as unknown. -/
def ofReported : Option String → PodPhase
  | none => unknown
  | some w => (ofWord? w).getD unknown

/-- The pod has not got going: its run waits for it. -/
def isWaiting : PodPhase → Bool
  | pending | unknown => true
  | running | succeeded | failed => false

end PodPhase

end RunOperator
