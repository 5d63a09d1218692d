import RunOperator.Proofs.LostUpdate

/-!
# The lifecycle of a run only goes forward

A monitor evaluates the state of its run at one instant and writes it at a later one. What it
overwrites is nevertheless the object that it has evaluated, so that the evaluator alone decides
which states follow each other in the store. `replace_advances` says which these are, and
`replacements_le` that there is no room for more than two replacements of a run unless someone
else writes the run. `lifecycle_is_monotone` is both together.
-/

namespace RunOperator

/-- The second state comes after the first in a lifecycle. -/
def RunState.Advances (s s' : RunState) : Prop :=
  s = .queued ∧ s' = .running ∨ s = .queued ∧ s'.isFinal = true ∨ s = .running ∧ s'.isFinal = true

/-- A run that has started does not go back into the queue: of the rules of the evaluation only the
one for pods that wait leads there, and it keeps a run that has started. -/
theorem evaluate_running_ne_queued (cancelRequested : Bool) (pods : List PodPhase) :
    evaluate .running cancelRequested pods ≠ .queued := by
  unfold evaluate
  repeat' split
  all_goals simp [RunState.whileWaiting]

/-- The evaluation of a run that is on its way leaves its state or goes forward. -/
theorem evaluate_advances {s : RunState} {cancelRequested : Bool} {pods : List PodPhase}
    (hfinal : s.isFinal = false) (hne : evaluate s cancelRequested pods ≠ s) :
    s.Advances (evaluate s cancelRequested pods) := by
  cases s with
  | queued =>
    cases htarget : evaluate .queued cancelRequested pods with
    | queued => exact absurd htarget hne
    | running => exact Or.inl ⟨rfl, rfl⟩
    | complete | failed | cancelled => exact Or.inr (Or.inl ⟨rfl, rfl⟩)
  | running =>
    cases htarget : evaluate .running cancelRequested pods with
    | queued => exact absurd htarget (evaluate_running_ne_queued cancelRequested pods)
    | running => exact absurd htarget hne
    | complete | failed | cancelled => exact Or.inr (Or.inr ⟨rfl, rfl⟩)
  | complete | failed | cancelled => cases hfinal

/-- An advance leads to a later stage, of which there are three. -/
theorem RunState.Advances.stage_lt {s s' : RunState} (h : s.Advances s') :
    s.stage < s'.stage ∧ s'.stage ≤ 2 := by
  rcases h with ⟨rfl, rfl⟩ | ⟨rfl, hfinal⟩ | ⟨rfl, hfinal⟩
  · exact ⟨by decide, by decide⟩
  all_goals cases s' <;> first | contradiction | exact ⟨by decide, by decide⟩

private theorem RunState.Advances.ne {s s' : RunState} (h : s.Advances s') : s' ≠ s := by
  rintro rfl
  exact Nat.lt_irrefl _ h.stage_lt.1

/-- How many times a stored run can still be replaced by monitors. -/
def Run.advancesLeft : Option Run → Nat
  | some r => match r.state with
    | .ok s => 2 - s.stage
    | .error _ => 0
  | none => 0

private theorem Run.advancesLeft_le (stored : Option Run) : Run.advancesLeft stored ≤ 2 := by
  unfold advancesLeft
  repeat' split
  all_goals omega

namespace World

/-- The action is a replacement of the run by a monitor, and it succeeds. -/
def replaces (w : World) (k : RunKey) : Action → Bool
  | .monitor number =>
    match w.call? number with
    | some (.replace r) => r.key == k && (w.store.replace r).1.isOk
    | _ => false
  | _ => false

/-- An action replaces a run if it is the move of a monitor whose replacement of the run succeeds.
-/
theorem replaces_iff {w : World} {k : RunKey} {a : Action} :
    w.replaces k a = true ↔ ∃ number r written, a = .monitor number ∧
      w.call? number = some (.replace r) ∧ r.key = k ∧ (w.store.replace r).1 = .ok written := by
  constructor
  · intro h
    unfold replaces at h
    split at h
    · next number =>
      split at h
      · next r hcall =>
        cases hanswer : (w.store.replace r).1 with
        | error e => simp [hanswer, Except.isOk, Except.toBool] at h
        | ok written =>
          rw [hanswer, Bool.and_eq_true, beq_iff_eq] at h
          exact ⟨number, r, written, rfl, hcall, h.1, hanswer⟩
      · cases h
    · cases h
  · rintro ⟨number, r, written, rfl, hcall, hkey, hanswer⟩
    simp [replaces, hcall, hkey, hanswer, Except.isOk, Except.toBool]

/-- How many times monitors replace the run in the course of a history. -/
def replacements (k : RunKey) : World → List Action → Nat
  | _, [] => 0
  | w, a :: h => (w.replaces k a).toNat + replacements k (w.act a) h

/-- Nobody but monitors writes the run: what others do to the store leaves it or deletes it. -/
def OthersSpare (k : RunKey) (w : World) (a : Action) : Prop :=
  ∀ c, a = .store c → (w.store.change c).runs.get? k = w.store.runs.get? k ∨
    (w.store.change c).runs.get? k = none

/-- A client call leaves a run as it is, unless it is a replacement of the run that succeeds. -/
theorem get?_effect {w : World} {k : RunKey} {number : Nat} {call : ClientCall}
    (hcall : w.call? number = some call) (hreplaces : w.replaces k (.monitor number) = false) :
    (call.effect w.store).runs.get? k = w.store.runs.get? k := by
  cases call with
  | get k' => rw [ClientCall.effect, Store.runs_get]
  | pods k' => rfl
  | replace r =>
    rw [ClientCall.effect]
    cases hanswer : (w.store.replace r).1 with
    | error e => rw [(Store.runs_replace_of_error hanswer).1]
    | ok written =>
      rw [(Store.runs_replace_of_ok hanswer).1, KeyMap.get?_insert]
      split
      · next hkey =>
        have : w.replaces k (.monitor number) = true :=
          replaces_iff.2 ⟨number, r, written, rfl, hcall, hkey, hanswer⟩
        rw [this] at hreplaces
        cases hreplaces
      · rfl

/-- An action that does not replace the run leaves it or deletes it, if others spare it. -/
theorem get?_act_of_spared {w : World} {k : RunKey} {a : Action} (hspared : OthersSpare k w a)
    (hreplaces : w.replaces k a = false) :
    (w.act a).store.runs.get? k = w.store.runs.get? k ∨
      (w.act a).store.runs.get? k = none := by
  cases a with
  | store c => exact hspared c rfl
  | monitor number =>
    left
    rw [store_act_monitor]
    cases hcall : w.call? number with
    | none => rfl
    | some call => exact get?_effect hcall hreplaces
  | _ => exact Or.inl (by rw [(w.runs_act (by simp) (by simp)).1])

variable {settings : Settings} {wall : Instant} {h : List Action}

/-- A replacement by a monitor that succeeds brings the stored run forward, to the state that the
evaluation of the overwritten object and of the pods of the same poll asks for. -/
theorem replace_advances {number : Nat} {r written : Run}
    (hcall : ((initial settings wall).after h).call? number = some (.replace r))
    (hwritten : (((initial settings wall).after h).store.replace r).1 = .ok written) :
    ∃ overwritten s s' read listed pods,
      ((initial settings wall).after h).store.runs.get? r.key = some overwritten ∧
      ((initial settings wall).after (h ++ [.monitor number])).store.runs.get? r.key =
        some written ∧
      ReadAt (initial settings wall) h number r.key overwritten read ∧ read < listed ∧
      ListedAt (initial settings wall) h number r.key pods listed ∧
      overwritten.state = .ok s ∧ s.isFinal = false ∧ written.state = .ok s' ∧
      s' = evaluate s overwritten.cancelRequested pods ∧ s.Advances s' := by
  obtain ⟨place, read, listed, pods, current, target, now, hread, hlt, hlisted, hstored, hstate,
    hfinal, htarget, hne, hmade⟩ := record_of_replace rfl Store.versioned_empty hcall hwritten
  refine ⟨read, current, target, place, listed, pods, hstored, ?_, hread, hlt, hlisted, hstate,
    hfinal, ?_, htarget, ?_⟩
  · rw [after_concat]
    exact get?_act_of_replace hcall hwritten
  · rw [hmade]
    exact Run.state_transition read current target now _
  · subst htarget
    exact evaluate_advances hfinal hne

/-- Each replacement of a run by a monitor uses up an advance. -/
theorem advancesLeft_act (k : RunKey) (a : Action)
    (hspared : OthersSpare k ((initial settings wall).after h) a) :
    Run.advancesLeft (((initial settings wall).after (h ++ [a])).store.runs.get? k) +
        (((initial settings wall).after h).replaces k a).toNat ≤
      Run.advancesLeft (((initial settings wall).after h).store.runs.get? k) := by
  cases hreplaces : ((initial settings wall).after h).replaces k a with
  | true =>
    obtain ⟨number, r, written, rfl, hcall, rfl, hwritten⟩ := replaces_iff.1 hreplaces
    obtain ⟨overwritten, s, s', -, -, -, hbefore, hafter, -, -, -, hs, -, hs', -, hadvances⟩ :=
      replace_advances hcall hwritten
    have hstage := hadvances.stage_lt
    rw [hbefore, hafter]
    simp only [Run.advancesLeft, hs, hs', Bool.toNat_true]
    omega
  | false =>
    rw [after_concat]
    rcases get?_act_of_spared hspared hreplaces with hsame | hgone
    · rw [hsame]
      exact Nat.le_refl _
    · rw [hgone]
      exact Nat.zero_le _

/-- All monitors together replace a run at most as often as it can still advance, as long as
nobody else writes it. -/
theorem replacements_le (k : RunKey) (rest : List Action)
    (hspared : ((initial settings wall).after h).Along (OthersSpare k) rest) :
    replacements k ((initial settings wall).after h) rest ≤
      Run.advancesLeft (((initial settings wall).after h).store.runs.get? k) := by
  induction rest generalizing h with
  | nil => exact Nat.zero_le _
  | cons a rest ih =>
    have hrest := hspared.2
    rw [← after_concat] at hrest
    have hlater := ih hrest
    have hnow := advancesLeft_act k a hspared.1
    rw [replacements, ← after_concat]
    omega

/-- **The lifecycle is monotone.** After any history, of any number of monitors and with any
changes from outside, a replacement by a monitor that succeeds takes the stored run from a state
that is not final to a later one, namely to the one that the evaluation of the overwritten object
and of the pods that the same poll has listed asks for. And from any time on at which nobody else
writes the run, all monitors together replace it at most twice. -/
theorem lifecycle_is_monotone (settings : Settings) (wall : Instant) (h : List Action) :
    (∀ number r written,
      ((initial settings wall).after h).call? number = some (.replace r) →
      (((initial settings wall).after h).store.replace r).1 = .ok written →
      ∃ overwritten s s' read listed pods,
        ((initial settings wall).after h).store.runs.get? r.key = some overwritten ∧
        ((initial settings wall).after (h ++ [.monitor number])).store.runs.get? r.key =
          some written ∧
        ReadAt (initial settings wall) h number r.key overwritten read ∧ read < listed ∧
        ListedAt (initial settings wall) h number r.key pods listed ∧
        overwritten.state = .ok s ∧ s.isFinal = false ∧ written.state = .ok s' ∧ s' ≠ s ∧
        s' = evaluate s overwritten.cancelRequested pods ∧
        (s = .queued ∧ s' = .running ∨ s = .queued ∧ s'.isFinal = true ∨
          s = .running ∧ s'.isFinal = true)) ∧
    ∀ k rest, ((initial settings wall).after h).Along (OthersSpare k) rest →
      replacements k ((initial settings wall).after h) rest ≤ 2 := by
  constructor
  · intro number r written hcall hwritten
    obtain ⟨overwritten, s, s', read, listed, pods, hbefore, hafter, hread, hlt, hlisted, hs,
      hfinal, hs', htarget, hadvances⟩ := replace_advances hcall hwritten
    exact ⟨overwritten, s, s', read, listed, pods, hbefore, hafter, hread, hlt, hlisted, hs,
      hfinal, hs', hadvances.ne, htarget, hadvances⟩
  · intro k rest hspared
    exact Nat.le_trans (replacements_le k rest hspared) (Run.advancesLeft_le _)

/-- How the rivals go on: the first starts the run, the second meets a conflict and ends, the pod
succeeds, and the first completes the run. -/
def rivalContinuation : List Action :=
  [.monitor 0, .monitor 1, .monitor 1, .store (.setPods ⟨"ns", "a"⟩ [.succeeded]), .pass 1000,
    .monitor 0, .monitor 0, .monitor 0, .monitor 0]

/-- The rivals replace the run twice, and each time it advances. -/
theorem lifecycle_is_monotone_for_rivals :
    (∃ r written,
      ((initial .standard ⟨0, 0⟩).after rivalHistory).call? 0 = some (.replace r) ∧
      (((initial .standard ⟨0, 0⟩).after rivalHistory).store.replace r).1 = .ok written ∧
      ∃ overwritten s s', overwritten.state = .ok s ∧ written.state = .ok s' ∧ s' ≠ s ∧
        ((initial .standard ⟨0, 0⟩).after rivalHistory).store.runs.get? r.key =
          some overwritten) ∧
    ((initial .standard ⟨0, 0⟩).after rivalHistory).Along (OthersSpare ⟨"ns", "a"⟩)
      rivalContinuation ∧
    replacements ⟨"ns", "a"⟩ ((initial .standard ⟨0, 0⟩).after rivalHistory)
      rivalContinuation = 2 ∧
    replacements ⟨"ns", "a"⟩ ((initial .standard ⟨0, 0⟩).after rivalHistory)
      rivalContinuation ≤ 2 := by
  obtain ⟨hstep, htotal⟩ := lifecycle_is_monotone .standard ⟨0, 0⟩ rivalHistory
  have halong : ((initial .standard ⟨0, 0⟩).after rivalHistory).Along (OthersSpare ⟨"ns", "a"⟩)
      rivalContinuation := by
    simp [rivalContinuation, Along, OthersSpare, Store.change, Store.setPods]
  refine ⟨⟨_, _, rfl, rfl, ?_⟩, halong, rfl, htotal ⟨"ns", "a"⟩ rivalContinuation halong⟩
  obtain ⟨overwritten, s, s', -, -, -, hbefore, -, -, -, -, hs, -, hs', hne, -⟩ :=
    hstep 0 _ _ rfl rfl
  exact ⟨overwritten, s, s', hs, hs', hne, hbefore⟩

end World

end RunOperator
