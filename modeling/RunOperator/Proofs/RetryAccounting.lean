import Mathlib.Data.List.DropRight
import RunOperator.Proofs.Dispatch
import RunOperator.Proofs.PollOutcomes

/-!
# When a monitor gives up

A monitor counts the failed polls in a row. A failure counts whichever call of the poll has failed
and for whatever reason, unless the run does not exist. `retries_are_counted` shows that a monitor
gives up with the very poll that makes the number of failures in a row reach the retry limit, or one
where the limit is zero, and that a poll that finds the run finished, missing or in no state ends the
monitor whatever the count is. This holds of any answers to the calls of the polls, and of the polls
that a monitor makes in any history.
-/

namespace RunOperator

namespace Poll

/-- What the calls of a poll answer, what the wall clock shows meanwhile, and the instant at which
the poll ends. The answers of calls that the poll does not come to play no part. -/
structure Answers where
  read : Except ClientError Run
  pods : Except ClientError (List PodPhase)
  written : Except ClientError Run
  wall : Instant
  instant : Nat

/-- How a poll with these answers ends. -/
def Answers.outcome (a : Answers) : PollResult :=
  match afterRead a.read with
  | .finish result => result
  | .next (r, current) =>
    match afterList r current a.wall a.pods with
    | .finish result => result
    | .next (_, target) => afterWrite target a.written

/-- A call that the poll comes to fails. -/
inductive Answers.FailsWith (a : Answers) (e : ClientError) : Prop where
  | read : a.read = .error e → a.FailsWith e
  | pods {r : Run} {current : RunState} : a.read = .ok r → r.state = .ok current →
      current.isFinal = false → a.pods = .error e → a.FailsWith e
  | written {r : Run} {current : RunState} {pods : List PodPhase} : a.read = .ok r →
      r.state = .ok current → current.isFinal = false → a.pods = .ok pods →
      evaluate current r.cancelRequested pods ≠ current → a.written = .error e → a.FailsWith e

/-- The poll failed because a call failed, and not because the run does not exist. -/
def isFailure : PollResult → Bool
  | .error (.client (.runNotFound _)) => false
  | .error (.client _) => true
  | _ => false

/-- How a monitor ends with the poll, whatever came before. -/
def conclusion? : PollResult → Option MonitorExit
  | .ok (.done s) => some (.finished s)
  | .error (.client (.runNotFound _)) => some .vanished
  | .error (.invalidState _) => some .invalidState
  | .error .cancelled => some .cancelled
  | _ => none

/-- The last polls failed, as many as the count says. -/
def LastFailed (count : Nat) (outcomes : List PollResult) : Prop :=
  ∃ streak, streak <:+ outcomes ∧ streak.length = count ∧ ∀ r ∈ streak, isFailure r = true

/-- Somewhere as many polls in a row failed as the count says. -/
def FailedInARow (count : Nat) (outcomes : List PollResult) : Prop :=
  ∃ streak, streak <:+: outcomes ∧ streak.length = count ∧ ∀ r ∈ streak, isFailure r = true

/-- The polls are no reason for a monitor to end: none is by itself, and nowhere as many in a row
failed as the monitor puts up with. -/
def Inconclusive (patience : Nat) (outcomes : List PollResult) : Prop :=
  (∀ r ∈ outcomes, conclusion? r = none) ∧ ¬ FailedInARow patience outcomes

/-- The number of failed polls at the end. -/
def trailingFailures (outcomes : List PollResult) : Nat := (outcomes.rtakeWhile isFailure).length

variable {outcomes : List PollResult} {r : PollResult} {count patience : Nat}

/-- A run that was read is no reason for a poll to fail with the error of a call. -/
theorem ofRun_ne_client (run : Run) (e : ClientError) :
    ofRun run ≠ .finish (.error (.client e)) := by
  intro h
  unfold ofRun at h
  split at h
  · cases h
  · split at h <;> cases h

/-- A poll fails with the error of a call if it comes to a call that fails with it, whichever of the
three it is. -/
theorem outcome_eq_client_iff {a : Answers} {e : ClientError} :
    a.outcome = .error (.client e) ↔ a.FailsWith e := by
  constructor
  · intro h
    unfold Answers.outcome at h
    cases hread : a.read with
    | error e' =>
      rw [hread] at h
      cases h
      exact .read hread
    | ok run =>
      simp only [hread, afterRead] at h
      cases hrun : ofRun run with
      | finish result =>
        simp only [hrun] at h
        rw [h] at hrun
        exact absurd hrun (ofRun_ne_client run e)
      | next next =>
        obtain ⟨rfl, hstate, hfinal⟩ := Monitor.ofRun_eq_next hrun
        simp only [hrun] at h
        cases hpods : a.pods with
        | error e' =>
          rw [hpods] at h
          cases h
          exact .pods hread hstate hfinal hpods
        | ok pods =>
          simp only [hpods, afterList] at h
          by_cases hsame : evaluate next.2 next.1.cancelRequested pods = next.2
          · simp only [if_pos hsame] at h
            cases h
          · simp only [if_neg hsame] at h
            cases hwritten : a.written with
            | error e' =>
              rw [hwritten] at h
              cases h
              exact .written hread hstate hfinal hpods hsame hwritten
            | ok written =>
              simp only [hwritten, afterWrite] at h
              cases h
  · rintro (hread | ⟨hread, hstate, hfinal, hpods⟩ |
      ⟨hread, hstate, hfinal, hpods, hchange, hwritten⟩)
    · simp [Answers.outcome, hread, afterRead]
    · simp [Answers.outcome, hread, afterRead, ofRun, hstate, hfinal, hpods, afterList]
    · simp [Answers.outcome, hread, afterRead, ofRun, hstate, hfinal, hpods, afterList, hchange,
        hwritten, afterWrite]

private theorem trailingFailures_concat_of_failure (h : isFailure r = true) :
    trailingFailures (outcomes ++ [r]) = trailingFailures outcomes + 1 := by
  rw [trailingFailures, List.rtakeWhile_concat_pos _ _ _ h, List.length_append]
  rfl

private theorem trailingFailures_concat_of_not_failure (h : isFailure r = false) :
    trailingFailures (outcomes ++ [r]) = 0 := by
  rw [trailingFailures, List.rtakeWhile_concat_neg _ _ _ (by simp [h])]
  rfl

/-- The last polls failed if the failed polls at the end are that many. -/
theorem lastFailed_iff : LastFailed count outcomes ↔ count ≤ trailingFailures outcomes := by
  constructor
  · rintro ⟨streak, hsuffix, rfl, hfailed⟩
    induction outcomes using List.reverseRecOn generalizing streak with
    | nil => simp [List.suffix_nil.1 hsuffix]
    | append_singleton outcomes r ih =>
      rcases List.suffix_concat_iff.1 hsuffix with rfl | ⟨streak, rfl, htail⟩
      · exact Nat.zero_le _
      · have hr : isFailure r = true := hfailed r (by simp)
        have hle := ih streak htail fun r hr => hfailed r (List.mem_append_left _ hr)
        rw [trailingFailures_concat_of_failure hr, List.length_append]
        exact Nat.succ_le_succ hle
  · intro hle
    have hsuffix := List.rtakeWhile_suffix isFailure outcomes
    refine ⟨(outcomes.rtakeWhile isFailure).drop (trailingFailures outcomes - count),
      (List.drop_suffix _ _).trans hsuffix, ?_, ?_⟩
    · rw [List.length_drop]
      exact Nat.sub_sub_self hle
    · intro r hr
      exact List.mem_rtakeWhile_imp (List.mem_of_mem_drop hr)

private theorem failedInARow_concat_iff :
    FailedInARow count (outcomes ++ [r]) ↔
      LastFailed count (outcomes ++ [r]) ∨ FailedInARow count outcomes := by
  simp only [FailedInARow, LastFailed, List.infix_concat_iff, or_and_right, exists_or]

/-- No outcome is decisive yet if there is any patience. -/
theorem inconclusive_nil (hpatience : 0 < patience) : Inconclusive patience [] := by
  refine ⟨fun r hr => absurd hr List.not_mem_nil, ?_⟩
  rintro ⟨streak, hinfix, rfl, -⟩
  rw [List.eq_nil_of_infix_nil hinfix] at hpatience
  exact Nat.lt_irrefl _ hpatience

/-- Another poll is no reason to end if it is none by itself and does not make the failures in a row
too many. -/
theorem inconclusive_concat_iff :
    Inconclusive patience (outcomes ++ [r]) ↔
      Inconclusive patience outcomes ∧ conclusion? r = none ∧
        trailingFailures (outcomes ++ [r]) < patience := by
  rw [Inconclusive, Inconclusive, failedInARow_concat_iff, lastFailed_iff, not_or, Nat.not_le]
  simp only [List.mem_append, List.mem_singleton, or_imp, forall_and, forall_eq]
  tauto

/-- A poll ends its monitor, or counts as a failure, or has found the run on its way. -/
theorem conclusion_or_failure_or_pending (r : PollResult) :
    (∃ e, conclusion? r = some e ∧ e ≠ .retriesExhausted ∧ isFailure r = false) ∨
      (conclusion? r = none ∧ isFailure r = true) ∨ r = .ok .pending := by
  cases r with
  | ok answer =>
    cases answer with
    | pending => exact Or.inr (Or.inr rfl)
    | done s => exact Or.inl ⟨.finished s, rfl, by simp, rfl⟩
  | error e =>
    cases e with
    | cancelled => exact Or.inl ⟨.cancelled, rfl, by simp, rfl⟩
    | invalidState cause => exact Or.inl ⟨.invalidState, rfl, by simp, rfl⟩
    | client cause =>
      cases cause with
      | runNotFound k => exact Or.inl ⟨.vanished, rfl, by simp, rfl⟩
      | _ => exact Or.inr (Or.inl ⟨rfl, rfl⟩)

end Poll

namespace Monitor

/-- The monitor after some polls, of which it makes none after its end. -/
def afterPolls (settings : Settings) (m : Monitor) (polls : List Poll.Answers) : Monitor :=
  polls.foldl (fun m p => if m.isOver then m else m.afterPoll settings p.instant p.outcome) m

/-- What a monitor has come to, under a retry limit, after polls that ended in certain ways. -/
structure AccountsFor (limit : Nat) (outcomes : List PollResult) (m : Monitor) : Prop where
  /-- It has given up if and only if the last polls failed, as many as the limit says and at least
  one, and it had no reason to end before. -/
  givesUp : m.exit? = some .retriesExhausted ↔
    Poll.LastFailed (max 1 limit) outcomes ∧ Poll.Inconclusive (max 1 limit) outcomes.dropLast
  /-- It has ended in another way if and only if the last poll is the reason for that, and it had no
  reason to end before. -/
  concludes : ∀ e, e ≠ .retriesExhausted → (m.exit? = some e ↔
    outcomes.getLast?.bind Poll.conclusion? = some e ∧
      Poll.Inconclusive (max 1 limit) outcomes.dropLast)
  /-- It goes on if and only if it had no reason to end. -/
  goesOn : m.exit? = none ↔ Poll.Inconclusive (max 1 limit) outcomes
  /-- As long as it goes on it has counted the failed polls since the last that did not fail. -/
  counts : m.exit? = none → m.failures = Poll.trailingFailures outcomes
  /-- As long as it goes on the count has room for another failure. -/
  room : m.exit? = none → m.failures < max 1 limit
  /-- The count never exceeds the limit, or one where the limit is zero. -/
  bounded : m.failures ≤ max 1 limit

variable {settings : Settings} {now : Nat} {m m' : Monitor} {limit : Nat}
  {outcomes : List PollResult} {r : PollResult} {lease : Lease}

/-- A monitor that was just started accounts for no outcomes. -/
theorem accountsFor_start : (start settings now lease).AccountsFor limit [] := by
  have hpositive : 0 < max 1 limit := Nat.lt_of_lt_of_le Nat.one_pos (Nat.le_max_left 1 limit)
  have hgoesOn : (start settings now lease).exit? = none := rfl
  have hunfailed : ¬ Poll.LastFailed (max 1 limit) [] := by
    rw [Poll.lastFailed_iff]
    exact Nat.not_le_of_lt hpositive
  constructor
  · simp [hgoesOn, hunfailed]
  · simp [hgoesOn]
  · simp [hgoesOn, Poll.inconclusive_nil hpositive]
  · exact fun _ => rfl
  · exact fun _ => hpositive
  · exact Nat.zero_le _

/-- Only the end of a monitor and its count matter. -/
theorem AccountsFor.congr (h : m.AccountsFor limit outcomes) (hexit : m'.exit? = m.exit?)
    (hfailures : m'.failures = m.failures) : m'.AccountsFor limit outcomes where
  givesUp := hexit ▸ h.givesUp
  concludes := hexit ▸ h.concludes
  goesOn := hexit ▸ h.goesOn
  counts := by rw [hexit, hfailures]; exact h.counts
  room := by rw [hexit, hfailures]; exact h.room
  bounded := hfailures ▸ h.bounded

/-- The poll that gives a monitor a reason to end ends it, whatever its count is. -/
theorem afterPoll_of_conclusion {e : MonitorExit} (h : Poll.conclusion? r = some e) :
    m.afterPoll settings now r = m.exitWith e := by
  unfold Poll.conclusion? at h
  split at h <;> cases h <;> rfl

/-- A failed poll raises the count, and the monitor gives up when it has reached the limit. -/
theorem afterPoll_of_failure (h : Poll.isFailure r = true) :
    m.afterPoll settings now r =
      if settings.retryLimit ≤ m.failures + 1 then
        { m.exitWith .retriesExhausted with failures := m.failures + 1 }
      else m.sleep settings now (m.failures + 1) := by
  unfold Poll.isFailure at h
  split at h
  · cases h
  · next e hfound =>
    have hnot : e.isNotFound = false := by
      cases e with
      | runNotFound k => exact absurd rfl (hfound k)
      | _ => rfl
    simp only [afterPoll, hnot, Bool.false_eq_true, if_false]
  · cases h

/-- A monitor that goes on accounts for another poll. -/
theorem AccountsFor.afterPoll (h : m.AccountsFor settings.retryLimit outcomes)
    (hlive : m.exit? = none) (r : PollResult) :
    (m.afterPoll settings now r).AccountsFor settings.retryLimit (outcomes ++ [r]) := by
  have hbefore := h.goesOn.1 hlive
  have hcounts := h.counts hlive
  have hroom := h.room hlive
  rcases Poll.conclusion_or_failure_or_pending r with
    ⟨e, hconclusion, hne, hfailure⟩ | ⟨hconclusion, hfailure⟩ | rfl
  · -- The poll is a reason to end.
    have htrailing : Poll.trailingFailures (outcomes ++ [r]) = 0 :=
      Poll.trailingFailures_concat_of_not_failure hfailure
    have hexit : (m.exitWith e).exit? = some e := rfl
    rw [afterPoll_of_conclusion hconclusion]
    constructor
    · simp [hexit, hne, Poll.lastFailed_iff, htrailing]
    · intro e' _
      simp [hexit, hconclusion, hbefore]
    · simp [hexit, Poll.inconclusive_concat_iff, hconclusion]
    · simp [hexit]
    · simp [hexit]
    · exact h.bounded
  · -- The poll failed, and the failures at the end are one more.
    have htrailing : Poll.trailingFailures (outcomes ++ [r]) = m.failures + 1 := by
      rw [hcounts, Poll.trailingFailures_concat_of_failure hfailure]
    rw [afterPoll_of_failure hfailure]
    split
    · next hlimit =>
      have hexit : { m.exitWith .retriesExhausted with failures := m.failures + 1 }.exit? =
          some .retriesExhausted := rfl
      have hreached : max 1 settings.retryLimit ≤ m.failures + 1 := by omega
      constructor
      · simp [hexit, Poll.lastFailed_iff, htrailing, hbefore, hreached]
      · intro e hne
        simp [hexit, hconclusion, hne.symm]
      · rw [hexit, Poll.inconclusive_concat_iff, htrailing]
        simp only [reduceCtorEq, false_iff]
        exact fun hall => Nat.not_lt_of_le hreached hall.2.2
      · simp [hexit]
      · simp [hexit]
      · exact hroom
    · next hlimit =>
      have hexit : (m.sleep settings now (m.failures + 1)).exit? = none := rfl
      have hbelow : m.failures + 1 < max 1 settings.retryLimit := by omega
      constructor
      · simp [hexit, Poll.lastFailed_iff, htrailing, Nat.not_le_of_lt hbelow]
      · intro e _
        simp [hexit, hconclusion]
      · simp [hexit, Poll.inconclusive_concat_iff, hbefore, hconclusion, htrailing, hbelow]
      · exact fun _ => htrailing.symm
      · exact fun _ => hbelow
      · exact Nat.le_of_lt hbelow
  · -- The poll succeeded and found the run on its way.
    have htrailing : Poll.trailingFailures (outcomes ++ [.ok .pending]) = 0 :=
      Poll.trailingFailures_concat_of_not_failure rfl
    have hexit : (m.afterPoll settings now (.ok .pending)).exit? = none := rfl
    have hpositive : 0 < max 1 settings.retryLimit := Nat.zero_lt_of_lt hroom
    constructor
    · simp [hexit, Poll.lastFailed_iff, htrailing]
    · intro e _
      simp [hexit, Poll.conclusion?]
    · simp only [hexit, Poll.inconclusive_concat_iff, htrailing, true_iff]
      exact ⟨hbefore, rfl, hpositive⟩
    · exact fun _ => htrailing.symm
    · exact fun _ => hpositive
    · exact Nat.zero_le _

/-- The last poll is made only if the polls before it did not end the monitor. -/
theorem afterPolls_concat (settings : Settings) (m : Monitor) (polls : List Poll.Answers)
    (p : Poll.Answers) :
    m.afterPolls settings (polls ++ [p]) =
      if (m.afterPolls settings polls).isOver then m.afterPolls settings polls
      else (m.afterPolls settings polls).afterPoll settings p.instant p.outcome :=
  List.foldl_append

/-- A monitor has no exit until it is over. -/
theorem exit?_eq_none_iff : m.exit? = none ↔ m.isOver = false := by
  rw [isOver, Option.isSome_eq_false_iff, Option.isNone_iff_eq_none]

/-- A monitor that still goes on accounts for its polls, whatever their calls have answered. -/
theorem accountsFor_afterPolls_of_live {polls : List Poll.Answers}
    (hlive : ((start settings now lease).afterPolls settings polls).exit? = none) :
    ((start settings now lease).afterPolls settings polls).AccountsFor settings.retryLimit
      (polls.map Poll.Answers.outcome) := by
  induction polls using List.reverseRecOn with
  | nil => exact accountsFor_start
  | append_singleton polls p ih =>
    rw [afterPolls_concat] at hlive ⊢
    split
    · next hover =>
      rw [if_pos hover] at hlive
      cases hover.symm.trans (exit?_eq_none_iff.1 hlive)
    · next hover =>
      have hbefore : ((start settings now lease).afterPolls settings polls).exit? = none := by
        exact exit?_eq_none_iff.2 (by simpa using hover)
      rw [List.map_append, List.map_singleton]
      exact (ih hbefore).afterPoll hbefore p.outcome

/-- A monitor goes on as long as its polls are no reason to end. -/
theorem exit?_afterPolls_eq_none_iff {polls : List Poll.Answers} :
    ((start settings now lease).afterPolls settings polls).exit? = none ↔
      Poll.Inconclusive (max 1 settings.retryLimit) (polls.map Poll.Answers.outcome) := by
  constructor
  · exact fun hlive => (accountsFor_afterPolls_of_live hlive).goesOn.1 hlive
  · intro h
    induction polls using List.reverseRecOn with
    | nil => rfl
    | append_singleton polls p ih =>
      rw [List.map_append, List.map_singleton] at h
      have hbefore := ih (Poll.inconclusive_concat_iff.1 h).1
      have haccounts := accountsFor_afterPolls_of_live hbefore
      rw [afterPolls_concat, exit?_eq_none_iff.1 hbefore]
      exact (haccounts.afterPoll hbefore p.outcome).goesOn.2 h

end Monitor

/-- Later moves are made under the same retry limit. -/
def Action.KeepsRetryLimit (limit : Nat) : Action → Prop
  | .configure settings => settings.retryLimit = limit
  | _ => True

namespace World

variable {w : World} {a : Action} {settings : Settings} {wall : Instant} {number : Nat}
  {m : Monitor}

private theorem retryLimit_act {limit : Nat} (hw : w.settings.retryLimit = limit)
    (ha : a.KeepsRetryLimit limit) : (w.act a).settings.retryLimit = limit := by
  rw [(w.surroundings_act a).1]
  cases a with
  | configure s => exact ha
  | _ => exact hw

/-- A monitor that accounts for its polls does so after any action. -/
theorem accountsFor_act {limit : Nat} {outcomes : List PollResult} {m₀ : Monitor}
    (hlimit : w.settings.retryLimit = limit) (hm₀ : w.monitors[number]? = some m₀)
    (haccounts : w.registry.isCancelled m₀.lease.id = false → m₀.exit? ≠ some .aborted →
      m₀.AccountsFor limit outcomes)
    (hm : (w.act a).monitors[number]? = some m)
    (hlive : (w.act a).registry.isCancelled m.lease.id = false)
    (habort : m.exit? ≠ some .aborted) :
    m.AccountsFor limit (outcomes ++ (w.ends number a).toList) := by
  obtain ⟨m', hm', hlease, -⟩ := exists_monitor_act hm₀ a
  obtain rfl := Option.some.inj (hm.symm.trans hm')
  have hlive₀ : w.registry.isCancelled m₀.lease.id = false := by
    rw [hlease] at hlive
    cases hcancelled : w.registry.isCancelled m₀.lease.id with
    | false => rfl
    | true => exact (isCancelled_act hcancelled a).symm.trans hlive
  obtain ⟨m', hm', hcourse⟩ := exists_course_act hm₀ a
  obtain rfl := Option.some.inj (hm.symm.trans hm')
  cases hends : w.ends number a with
  | none =>
    rw [hends] at hcourse
    rw [Option.toList_none, List.append_nil]
    cases hcourse with
    | stays => exact haccounts hlive₀ habort
    | polls hover hpolling hfailures =>
      have hexit₀ := Monitor.exit?_eq_none_iff.2 hover
      have hexit := Monitor.exit?_eq_none_iff.2 (Monitor.isOver_of_isPolling hpolling)
      exact (haccounts hlive₀ (by simp [hexit₀])).congr (hexit.trans hexit₀.symm) hfailures
    | stops hcancelled => cases hcancelled.symm.trans hlive₀
    | aborted => exact absurd rfl habort
  | some result =>
    rw [hends] at hcourse
    cases hcourse with
    | completes hpolling =>
      have hexit₀ := Monitor.exit?_eq_none_iff.2 (Monitor.isOver_of_isPolling hpolling)
      have h := haccounts hlive₀ (by simp [hexit₀])
      subst hlimit
      exact h.afterPoll hexit₀ result

/-- A monitor that was neither cancelled nor aborted accounts for its polls. -/
theorem accountsFor_after (h : List Action)
    (hlimit : ∀ a ∈ h, a.KeepsRetryLimit settings.retryLimit)
    (hm : ((initial settings wall).after h).monitors[number]? = some m)
    (hlive : ((initial settings wall).after h).registry.isCancelled m.lease.id = false)
    (habort : m.exit? ≠ some .aborted) :
    m.AccountsFor settings.retryLimit (outcomes number (initial settings wall) h) := by
  induction h using List.reverseRecOn generalizing m with
  | nil => cases hm
  | append_singleton h a ih =>
    have hlimit₀ : ∀ b ∈ h, b.KeepsRetryLimit settings.retryLimit :=
      fun b hb => hlimit b (List.mem_append_left _ hb)
    have hkept : ((initial settings wall).after h).settings.retryLimit = settings.retryLimit :=
      Along.invariant (fun w => w.settings.retryLimit = settings.retryLimit)
        (fun w b hb hw => retryLimit_act hw hb) (along_of_forall hlimit₀) rfl
    rw [after_concat] at hm hlive
    rw [outcomes_concat]
    cases hm₀ : ((initial settings wall).after h).monitors[number]? with
    | some m₀ => exact accountsFor_act hkept hm₀ (ih hlimit₀ hm₀) hm hlive habort
    | none =>
      -- The monitor was started with the last action.
      rw [outcomes_eq_nil_of_length_le h (List.getElem?_eq_none_iff.1 hm₀), ends_of_no_monitor hm₀]
      cases fate_of_act hm with
      | kept hkept => cases hkept.symm.trans hm₀
      | moved m₁ _ hm₁ _ | aborted m₁ _ hm₁ _ => cases hm₁.symm.trans hm₀
      | started lease _ heq =>
        rw [heq]
        exact Monitor.accountsFor_start

/-- **Failed polls are counted exactly.** Of any answers to the calls of its polls, a monitor goes on
as long as they are no reason to end, and after each poll that it makes it accounts for its polls.
So it gives up right after the poll with which as many in a row have failed as the retry limit says,
or one where the limit is zero, and it ends with the first poll that concludes, whatever its count
is; the count never exceeds the limit, or one, so that a counter with room for these does not
overflow. In any history every monitor that was not cancelled accounts for the polls it has made.
A poll fails with the error of whichever call fails. -/
theorem retries_are_counted (settings : Settings) :
    (∀ now lease polls, ((Monitor.start settings now lease).afterPolls settings polls).exit? = none ↔
      Poll.Inconclusive (max 1 settings.retryLimit) (polls.map Poll.Answers.outcome)) ∧
    (∀ now lease polls last,
      ((Monitor.start settings now lease).afterPolls settings polls).exit? = none →
      ((Monitor.start settings now lease).afterPolls settings (polls ++ [last])).AccountsFor
        settings.retryLimit ((polls ++ [last]).map Poll.Answers.outcome)) ∧
    (∀ wall h number (m : Monitor), (∀ a ∈ h, a.KeepsRetryLimit settings.retryLimit) →
      ((initial settings wall).after h).monitors[number]? = some m →
      ((initial settings wall).after h).registry.isCancelled m.lease.id = false →
      m.exit? ≠ some .aborted →
      m.AccountsFor settings.retryLimit (outcomes number (initial settings wall) h)) ∧
    ∀ (a : Poll.Answers) e, a.outcome = .error (.client e) ↔ a.FailsWith e := by
  refine ⟨fun now lease polls => Monitor.exit?_afterPolls_eq_none_iff, ?_,
    fun wall h number m => accountsFor_after h, fun a e => Poll.outcome_eq_client_iff⟩
  intro now lease polls last hlive
  rw [Monitor.afterPolls_concat, Monitor.exit?_eq_none_iff.1 hlive, List.map_append,
    List.map_singleton]
  exact (Monitor.accountsFor_afterPolls_of_live hlive).afterPoll hlive last.outcome

/-- A run cannot be read, then it is on its way, and then its pods cannot be listed. -/
def unluckyPolls : List Poll.Answers :=
  let r := Run.named "ns" "a" { RunSpec.empty with state := some "QUEUED" }
  [⟨.error .timeout, .ok [], .ok r, ⟨0, 0⟩, 1000⟩, ⟨.ok r, .ok [], .ok r, ⟨0, 0⟩, 2000⟩,
    ⟨.ok r, .error (.api "gone"), .ok r, ⟨0, 0⟩, 3000⟩]

/-- The run has changed when it is to be replaced. -/
def refusedPoll : Poll.Answers :=
  let r := Run.named "ns" "a" { RunSpec.empty with state := some "QUEUED" }
  ⟨.ok r, .ok [.running], .error (.conflict r.key), ⟨0, 0⟩, 4000⟩

/-- A monitor cannot replace the run that it has read, and then it cannot read it any more. -/
def unluckyHistory : List Action :=
  let r := Run.named "ns" "a" { RunSpec.empty with state := some "QUEUED" }
  [.store (.insert r), .store (.setPods r.key [.running]), .react (.create r.key), .pass 1000,
    .monitor 0, .monitor 0, .store (.failUpdates r.key [.conflict r.key]), .monitor 0, .monitor 0,
    .store (.failGets r.key [.invalidFilter "no"]), .pass 1000, .monitor 0, .monitor 0]

/-- Two failed polls in a row are too many. -/
def impatient : Settings := { Settings.standard with retryLimit := 2 }

/-- With a retry limit of two both monitors give up. -/
theorem retries_are_counted_of_unluckyHistory :
    ((Monitor.start impatient 0 ⟨⟨"ns", "a"⟩, 0⟩).afterPolls impatient unluckyPolls).exit? = none ∧
      ((Monitor.start impatient 0 ⟨⟨"ns", "a"⟩, 0⟩).afterPolls impatient
        (unluckyPolls ++ [refusedPoll])).AccountsFor 2
          ((unluckyPolls ++ [refusedPoll]).map Poll.Answers.outcome) ∧
      (∀ a ∈ unluckyHistory, a.KeepsRetryLimit 2) ∧
      ∃ m, ((initial impatient ⟨0, 0⟩).after unluckyHistory).monitors[0]? = some m ∧
        m.exit? = some .retriesExhausted ∧
        m.AccountsFor 2 (outcomes 0 (initial impatient ⟨0, 0⟩) unluckyHistory) := by
  obtain ⟨-, hpolls, hhistory, -⟩ := retries_are_counted impatient
  have hlive : ((Monitor.start impatient 0 ⟨⟨"ns", "a"⟩, 0⟩).afterPolls impatient
      unluckyPolls).exit? = none := rfl
  have hkeeps : ∀ a ∈ unluckyHistory, a.KeepsRetryLimit 2 := by
    simp [unluckyHistory, Action.KeepsRetryLimit]
  have hm : ((initial impatient ⟨0, 0⟩).after unluckyHistory).monitors[0]? =
      some ⟨⟨⟨"ns", "a"⟩, 0⟩, 2, .ended .retriesExhausted⟩ := rfl
  exact ⟨hlive, hpolls _ _ _ _ hlive, hkeeps, _, hm, rfl,
    hhistory _ _ _ _ hkeeps hm rfl (by simp [Monitor.exit?])⟩

end World

end RunOperator
