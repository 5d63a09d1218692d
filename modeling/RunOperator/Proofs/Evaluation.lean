import RunOperator.Proofs.MonotoneLifecycle

/-!
# The laws of the evaluation

The rules of the evaluation are tried in order, and each of them asks whether some pod or every pod
is in a phase. A run is therefore evaluated by which phases its pods are in, and neither by their
order nor by their number (`evaluate_congr`). Beside the final states there is one more place where
the stored state matters, a run that waits for its pods; `evaluate_running` says that this is all
that distinguishes a run that has started from one that has not. An evaluation that is repeated on
its own result therefore stays where it is (`evaluate_evaluate`). `evaluation_is_lawful` collects
the laws.
-/

namespace RunOperator

variable {stored : RunState} {cancelRequested : Bool} {pods pods' : List PodPhase}

/-- The evaluation reads the pods only by which phases occur among them. -/
theorem evaluate_congr (hsame : ∀ p, p ∈ pods' ↔ p ∈ pods) :
    evaluate stored cancelRequested pods' = evaluate stored cancelRequested pods := by
  have hany : ∀ test : PodPhase → Bool, pods'.any test = pods.any test := by
    intro test
    rw [Bool.eq_iff_iff, List.any_eq_true, List.any_eq_true]
    exact exists_congr fun p => and_congr_left fun _ => hsame p
  have hall : ∀ test : PodPhase → Bool, pods'.all test = pods.all test := by
    intro test
    rw [List.all_eq_not_any_not, List.all_eq_not_any_not, hany]
  have hempty : pods'.isEmpty = pods.isEmpty := by
    rw [Bool.eq_iff_iff, List.isEmpty_iff, List.isEmpty_iff, List.eq_nil_iff_forall_not_mem,
      List.eq_nil_iff_forall_not_mem]
    exact forall_congr' fun p => not_congr (hsame p)
  simp only [evaluate, hany, hall, hempty]

/-- A final state stays. -/
theorem evaluate_of_isFinal (hfinal : stored.isFinal = true) :
    evaluate stored cancelRequested pods = stored := by
  rw [evaluate, if_pos hfinal]

/-- The rules that remain for a run that is on its way and is not cancelled. -/
theorem evaluate_of_live (hlive : stored.isFinal = false) :
    evaluate stored false pods =
      if .failed ∈ pods then .failed
      else if pods = [] ∨ ∃ p ∈ pods, p.isWaiting = true then stored.whileWaiting
      else if ∀ p ∈ pods, p = .succeeded then .complete
      else .running := by
  simp [evaluate, hlive]

/-- A cancellation request cancels a run that is on its way, and nothing else does. -/
theorem evaluate_eq_cancelled_iff (hlive : stored.isFinal = false) :
    evaluate stored cancelRequested pods = .cancelled ↔ cancelRequested = true := by
  cases cancelRequested with
  | true => simp [evaluate, hlive]
  | false =>
    rw [evaluate_of_live hlive]
    have hwaiting : stored.whileWaiting ≠ .cancelled := by
      cases stored <;> simp [RunState.whileWaiting]
    split_ifs <;> simp [hwaiting]

/-- One failed pod fails a run that is not cancelled, and nothing else does. -/
theorem evaluate_eq_failed_iff (hlive : stored.isFinal = false) :
    evaluate stored cancelRequested pods = .failed ↔ cancelRequested = false ∧ .failed ∈ pods := by
  cases cancelRequested with
  | true => simp [evaluate, hlive]
  | false =>
    rw [evaluate_of_live hlive]
    have hwaiting : stored.whileWaiting ≠ .failed := by
      cases stored <;> simp [RunState.whileWaiting]
    split_ifs with hfailed <;> simp [hwaiting, hfailed]

/-- Pods of which all have succeeded contain none that failed or waits, so that the earlier rules
leave a run to the one that completes it. -/
theorem evaluate_eq_complete_iff (hlive : stored.isFinal = false) :
    evaluate stored cancelRequested pods = .complete ↔
      cancelRequested = false ∧ pods ≠ [] ∧ ∀ p ∈ pods, p = .succeeded := by
  cases cancelRequested with
  | true => simp [evaluate, hlive]
  | false =>
    rw [evaluate_of_live hlive]
    have hwaiting : stored.whileWaiting ≠ .complete := by
      cases stored <;> simp [RunState.whileWaiting]
    split_ifs with hfailed hwaits hall
    · have hnot : ¬ ∀ p ∈ pods, p = .succeeded := fun hall => by cases hall _ hfailed
      simp [hnot]
    · have hnot : ¬ (pods ≠ [] ∧ ∀ p ∈ pods, p = .succeeded) := by
        rintro ⟨hne, hall⟩
        obtain ⟨p, hp, hpwaits⟩ := hwaits.resolve_left hne
        rw [hall p hp] at hpwaits
        cases hpwaits
      simp only [hwaiting, true_and, false_iff]
      exact hnot
    · have hne : pods ≠ [] := fun hnil => hwaits (Or.inl hnil)
      exact iff_of_true rfl ⟨rfl, hne, hall⟩
    · simp [hall]

/-- A run that has started is evaluated like one that has not, except that it does not fall back
into the queue. -/
theorem evaluate_running :
    evaluate .running cancelRequested pods =
      if evaluate .queued cancelRequested pods = .queued then .running
      else evaluate .queued cancelRequested pods := by
  cases cancelRequested with
  | true => rfl
  | false =>
    rw [evaluate_of_live rfl, evaluate_of_live rfl]
    by_cases hfailed : PodPhase.failed ∈ pods
    · simp [hfailed]
    · by_cases hwaits : pods = [] ∨ ∃ p ∈ pods, p.isWaiting = true
      · simp [hfailed, hwaits, RunState.whileWaiting]
      · simp only [hfailed, hwaits, if_false]
        split_ifs <;> simp_all

/-- What a run is evaluated to is evaluated to itself, as long as its pods stay as they are. -/
theorem evaluate_evaluate :
    evaluate (evaluate stored cancelRequested pods) cancelRequested pods =
      evaluate stored cancelRequested pods := by
  cases htarget : evaluate stored cancelRequested pods with
  | complete | failed | cancelled => exact evaluate_of_isFinal rfl
  | queued =>
    -- only a run that is queued can be evaluated to that
    cases stored with
    | queued => exact htarget
    | running => exact absurd htarget (evaluate_running_ne_queued _ _)
    | complete | failed | cancelled =>
      rw [evaluate_of_isFinal rfl] at htarget
      cases htarget
  | running =>
    cases stored with
    | queued => rw [evaluate_running, if_neg (by rw [htarget]; decide), htarget]
    | running => exact htarget
    | complete | failed | cancelled =>
      rw [evaluate_of_isFinal rfl] at htarget
      cases htarget

/-- The evaluation does not lead back to an earlier stage of the lifecycle. -/
theorem stage_le_stage_evaluate :
    stored.stage ≤ (evaluate stored cancelRequested pods).stage := by
  cases hfinal : stored.isFinal with
  | true => exact Nat.le_of_eq (by rw [evaluate_of_isFinal hfinal])
  | false =>
    by_cases hsame : evaluate stored cancelRequested pods = stored
    · exact Nat.le_of_eq (by rw [hsame])
    · exact Nat.le_of_lt (evaluate_advances hfinal hsame).stage_lt.1

/-- What there is to say about the state that a run is evaluated to. -/
structure EvaluationLaws (stored : RunState) (cancelRequested : Bool) (pods : List PodPhase) :
    Prop where
  /-- Only the phases that occur count: pods can be permuted and repeated. -/
  order_free : ∀ pods', (∀ p, p ∈ pods' ↔ p ∈ pods) →
    evaluate stored cancelRequested pods' = evaluate stored cancelRequested pods
  /-- The run does not go back in its lifecycle. -/
  no_regress : stored.stage ≤ (evaluate stored cancelRequested pods).stage
  /-- A final state stays. -/
  final_stays : stored.isFinal = true → evaluate stored cancelRequested pods = stored
  /-- Evaluating once more changes nothing. -/
  idempotent : evaluate (evaluate stored cancelRequested pods) cancelRequested pods =
    evaluate stored cancelRequested pods
  /-- A run that is on its way is cancelled exactly if that was asked for. -/
  cancelled_iff : stored.isFinal = false →
    (evaluate stored cancelRequested pods = .cancelled ↔ cancelRequested = true)
  /-- Otherwise it fails exactly if a pod failed. -/
  failed_iff : stored.isFinal = false →
    (evaluate stored cancelRequested pods = .failed ↔ cancelRequested = false ∧ .failed ∈ pods)
  /-- Otherwise it is complete exactly if it has pods and all of them succeeded. -/
  complete_iff : stored.isFinal = false →
    (evaluate stored cancelRequested pods = .complete ↔
      cancelRequested = false ∧ pods ≠ [] ∧ ∀ p ∈ pods, p = .succeeded)

/-- **The evaluation is an order-free, idempotent function that never goes back.** For every stored
state, cancellation flag and list of pods the result depends on which phases occur and on nothing
else about the pods. It is not before the stored state, is that state if it is final, and is
evaluated to itself. A run that is on its way ends cancelled, failed or complete under exactly the
conditions of the rules, without regard to the order in which these are tried. -/
theorem evaluation_is_lawful (stored : RunState) (cancelRequested : Bool) (pods : List PodPhase) :
    EvaluationLaws stored cancelRequested pods where
  order_free _ hsame := evaluate_congr hsame
  no_regress := stage_le_stage_evaluate
  final_stays hfinal := evaluate_of_isFinal hfinal
  idempotent := evaluate_evaluate
  cancelled_iff hlive := evaluate_eq_cancelled_iff hlive
  failed_iff hlive := evaluate_eq_failed_iff hlive
  complete_iff hlive := evaluate_eq_complete_iff hlive

/-- A pod that succeeded, one that waits and one that failed, in another order and with one of them
twice: the run fails either way. -/
theorem evaluation_of_mixed_pods :
    evaluate .running false [.failed, .succeeded, .pending, .failed] =
        evaluate .running false [.succeeded, .pending, .failed] ∧
      evaluate .running false [.succeeded, .pending, .failed] = .failed := by
  have hlaws := evaluation_is_lawful .running false [.succeeded, .pending, .failed]
  have hsame : ∀ p : PodPhase, p ∈ [PodPhase.failed, .succeeded, .pending, .failed] ↔
      p ∈ [PodPhase.succeeded, .pending, .failed] := by
    intro p
    cases p <;> decide
  exact ⟨hlaws.order_free _ hsame, (hlaws.failed_iff rfl).2 ⟨rfl, by decide⟩⟩

end RunOperator
