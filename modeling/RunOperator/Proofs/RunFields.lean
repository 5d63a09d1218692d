import RunOperator.Proofs.Variables
import RunOperator.Run.Basic

/-!
# What a run says of itself

The state, the kind, the template and the request for cancellation of a run are read from texts that
others have stored. Each reading is described here by the text itself: the word of a state or of a
kind has to stand there in full, a missing state is the first of all, and a label or an annotation
counts by the value that is found under its name.
-/

namespace RunOperator

variable {r : Run} {s : RunState} {k : RunKind} {text name : String}

/-! ### Words -/

/-- A word is read as the state that is written by it, and no other text is a state. -/
theorem RunState.ofWord?_eq_some_iff : RunState.ofWord? text = some s ↔ text = s.word := by
  constructor
  · intro h
    have hword := List.find?_some h
    exact (of_decide_eq_true hword).symm
  · rintro rfl
    cases s <;> rfl

/-- The stored word of a state is read as this state, and as no other. -/
theorem RunState.parse_eq_ok_iff : RunState.parse text = .ok s ↔ text = s.word := by
  rw [parse, ← RunState.ofWord?_eq_some_iff]
  cases RunState.ofWord? text <;> simp

/-- A word is read as the kind that is written by it, and no other text is a kind. -/
theorem RunKind.ofWord?_eq_some_iff : RunKind.ofWord? text = some k ↔ text = k.word := by
  constructor
  · intro h
    have hword := List.find?_some h
    exact (of_decide_eq_true hword).symm
  · rintro rfl
    cases k <;> rfl

namespace Run

/-! ### Name, state and kind -/

/-- The name of a run is the one that it was given, or else what its name is made from. -/
theorem displayName_eq (r : Run) :
    r.displayName = r.metadata.name.getD (r.metadata.generateName.getD "") := by
  rw [displayName]
  cases r.metadata.name <;> rfl

/-- The run is in a state: its word is stored, or none is and the run is queued. -/
def IsIn (r : Run) (s : RunState) : Prop :=
  r.spec.state = some s.word ∨ r.spec.state = none ∧ s = .queued

/-- The run carries the label of a kind. -/
def IsLabelled (r : Run) (k : RunKind) : Prop :=
  (r.metadata.labels.getD []).lookup "runKind" = some k.word

/-- The state of a run is the one whose word is stored. -/
theorem state_eq_ok_iff : r.state = .ok s ↔ r.IsIn s := by
  rw [state, IsIn]
  cases r.spec.state with
  | none => simp [RunState.ofStored, eq_comm]
  | some text => simp [RunState.ofStored, RunState.parse_eq_ok_iff]

/-- The kind of a run is the one whose word is the value of its label. -/
theorem kind_eq_some_iff : r.kind = some k ↔ r.IsLabelled k := by
  rw [kind, Option.bind_eq_some_iff]
  constructor
  · rintro ⟨text, htext, hword⟩
    obtain rfl := RunKind.ofWord?_eq_some_iff.1 hword
    exact htext
  · intro h
    exact ⟨k.word, h, RunKind.ofWord?_eq_some_iff.2 rfl⟩

/-! ### Template and cancellation -/

/-- The template of a run is the value of the label `app` that its pods are selected by. -/
theorem templateName_eq_some_iff :
    r.templateName = some name ↔ ∃ selector labels, r.spec.podSelector = some selector ∧
      selector.matchLabels = some labels ∧ labels.lookup "app" = some name := by
  rw [templateName, Option.bind_eq_some_iff]
  refine exists_congr fun selector => ?_
  cases selector.matchLabels <;> simp

/-- The cancellation of a run is asked for by the text `1` or `true`, in any case, of its
annotation. -/
theorem cancelRequested_iff :
    r.cancelRequested = true ↔ ∃ text,
      (r.metadata.annotations.getD []).lookup "aipg.intel.com/cancel-requested" = some text ∧
      (text = "1" ∨ Environment.SpellsTrue text) := by
  have hset (text : String) :
      isSetFlag text = true ↔ text = "1" ∨ Environment.SpellsTrue text := by
    rw [isSetFlag, Bool.or_eq_true, beq_iff_eq, beq_iff_eq, Environment.toLower_eq_true_iff,
      or_comm]
  rw [cancelRequested, Metadata.annotation?, cancelAnnotation]
  cases (r.metadata.annotations.getD []).lookup "aipg.intel.com/cancel-requested" with
  | none => simp
  | some text => simp [hset]

end Run

end RunOperator
