import RunOperator.Proofs.Broadcast
import RunOperator.Proofs.LostUpdate
import RunOperator.Proofs.PollOutcomes

/-!
# A failed poll leaves no trace

A monitor touches the store three times in a poll at most, and each of the calls may fail before,
at or after its latency. `failed_polls_leave_no_trace` shows that no move of a poll changes a run or
a version, or tells the watches anything, but the last one of a poll that succeeds. That one makes
one replacement at most, which writes the state and both stamps together.
-/

namespace RunOperator

namespace Store

/-- The runs, the last version and all that the watches were told are the same. -/
structure SameContent (s s' : Store) : Prop where
  runs : s'.runs = s.runs
  lastVersion : s'.lastVersion = s.lastVersion
  watches : s'.watches = s.watches

variable {s : Store} {r written : Run}

/-- A store has its own content. -/
theorem SameContent.refl (s : Store) : s.SameContent s := ⟨rfl, rfl, rfl⟩

/-- Reading changes nothing of the content. -/
theorem sameContent_get (s : Store) (k : RunKey) : s.SameContent (s.get k).2 where
  runs := runs_get s k
  lastVersion := lastVersion_get s k
  watches := watches_change (c := .get k) (by simp) (by simp) (by simp)

/-- A replacement that fails leaves everything as it is, but that the call was counted and that the
error that stood in its way is gone. -/
theorem sameContent_replace_of_error {e : ClientError} (h : (s.replace r).1 = .error e) :
    s.SameContent (s.replace r).2 where
  runs := (runs_replace_of_error h).1
  lastVersion := (runs_replace_of_error h).2
  watches := by
    rw [watches_replace, news, h]
    rfl

/-- One run is written with the next version, and the watches are told this and nothing else. -/
structure Writes (s : Store) (r written : Run) (s' : Store) : Prop where
  stamped : written = s.stampVersion r
  runs : s'.runs = s.runs.insert r.key written
  lastVersion : s'.lastVersion = s.lastVersion + 1
  watches : s'.watches = s.watches.map (notify r.key (.apply written))

/-- A replacement that succeeds writes what it answers. -/
theorem writes_replace_of_ok (h : (s.replace r).1 = .ok written) :
    s.Writes r written (s.replace r).2 where
  stamped := (replace_eq_ok_iff.1 h).2.2
  runs := (runs_replace_of_ok h).1
  lastVersion := (runs_replace_of_ok h).2
  watches := by
    rw [watches_replace, news, h]
    rfl

end Store

namespace World

variable {w : World} {h : List Action} {a : Action} {number first last t : Nat} {r written : Run}

/-- The monitor begins a poll with the first of the given actions and is in the middle of this poll
when the last comes. -/
structure PollsFrom (w : World) (h : List Action) (number first last : Nat) : Prop where
  lt : first < last
  begins : ¬ (w.afterFirst h first).Shows number Monitor.isPolling
  lasts : ∀ t, first < t → t ≤ last → (w.afterFirst h t).Shows number Monitor.isPolling

/-! ### One move -/

/-- A replacement that succeeds ends its poll, which has found out the state that was written if
that is final. -/
theorem ends_of_writing {m : Monitor} {c : Call} {target : RunState}
    (hm : w.monitors[number]? = some m) (hphase : m.phase = .writing c r target)
    (hcall : w.call? number = some (.replace r)) (hwritten : (w.store.replace r).1 = .ok written) :
    w.ends number (.monitor number) =
      some (.ok (if target.isFinal then .done target else .pending)) := by
  rw [call?, hm, Option.bind_some] at hcall
  obtain ⟨hcancelled, c', target', hphase', heffect⟩ := Monitor.call?_eq_replace hcall
  cases hphase.symm.trans hphase'
  obtain ⟨hdue, htimesOut⟩ := Call.takesEffect_iff.1 heffect
  rw [ends_monitor, outcome?_of_monitor hm]
  simp [Monitor.outcome?, Monitor.verdict?, hphase, Phase.call?, hcancelled, hdue,
    Monitor.answerOf, htimesOut, hwritten, Poll.afterWrite]

/-- A replacement that succeeds ends the poll well. -/
theorem ends_of_replace (hcall : w.call? number = some (.replace r))
    (hwritten : (w.store.replace r).1 = .ok written) :
    ∃ answer, w.ends number (.monitor number) = some (.ok answer) := by
  obtain ⟨m, hm, hmcall⟩ := call?_eq_some hcall
  obtain ⟨-, c, target, hphase, -⟩ := Monitor.call?_eq_replace hmcall
  exact ⟨_, ends_of_writing hm hphase hcall hwritten⟩

/-- What is done by a monitor or to it leaves the content of the store, unless it is a replacement
that succeeds. -/
theorem sameContent_or_replaces (ha : a.IsOf number) :
    w.store.SameContent (w.act a).store ∨
      ∃ r written, a = .monitor number ∧ w.call? number = some (.replace r) ∧
        (w.store.replace r).1 = .ok written ∧ w.store.Writes r written (w.act a).store := by
  rcases ha with rfl | rfl
  · rw [store_act_monitor]
    cases hcall : w.call? number with
    | none => exact Or.inl (Store.SameContent.refl w.store)
    | some call =>
      cases call with
      | get k => exact Or.inl (Store.sameContent_get w.store k)
      | pods k => exact Or.inl (Store.SameContent.refl w.store)
      | replace r =>
        cases hanswer : (w.store.replace r).1 with
        | error e => exact Or.inl (Store.sameContent_replace_of_error hanswer)
        | ok written =>
          exact Or.inr ⟨r, written, rfl, rfl, hanswer, Store.writes_replace_of_ok hanswer⟩
  · left
    rcases act_abort_cases w number with heq | ⟨m, -, -, heq⟩ <;> rw [heq] <;>
      exact Store.SameContent.refl w.store

/-- A move that is not the successful end of a poll leaves the content of the store. -/
theorem sameContent_of_no_success (ha : a.IsOf number)
    (hends : ∀ answer, w.ends number a ≠ some (.ok answer)) :
    w.store.SameContent (w.act a).store := by
  rcases sameContent_or_replaces (w := w) ha with hsame | ⟨r, written, rfl, hcall, hwritten, -⟩
  · exact hsame
  · obtain ⟨answer, hanswer⟩ := ends_of_replace hcall hwritten
    exact absurd hanswer (hends answer)

/-! ### The moves of a poll -/

/-- A monitor whose poll ends with an action is in no poll after it. -/
theorem not_shows_polling_of_ends {result : PollResult} (hends : w.ends number a = some result) :
    ¬ (w.act a).Shows number Monitor.isPolling := by
  rintro ⟨m', hm', hpolling⟩
  cases hm : w.monitors[number]? with
  | none => cases (ends_of_no_monitor hm).symm.trans hends
  | some m =>
    obtain ⟨m₁, hm₁, hcourse⟩ := exists_course_act hm a
    obtain rfl := Option.some.inj (hm'.symm.trans hm₁)
    rw [hends] at hcourse
    cases hcourse with
    | completes _ => simp at hpolling

/-- While a poll goes on no move ends it. -/
theorem PollsFrom.ends_eq_none (hpoll : PollsFrom w h number first last) (hfirst : first ≤ t)
    (hlast : t < last) (ha : h[t]? = some a) : (w.afterFirst h t).ends number a = none := by
  have hpolling := hpoll.lasts (t + 1) (Nat.lt_succ_of_le hfirst) hlast
  rw [afterFirst_succ w ha] at hpolling
  cases hends : (w.afterFirst h t).ends number a with
  | none => rfl
  | some result => exact absurd hpolling (not_shows_polling_of_ends hends)

/-- What a monitor that replaces its run has read, it has read in the same poll. -/
theorem PollsFrom.lt_of_readAt (hpoll : PollsFrom w h number first last) {k : RunKey} {read : Run}
    {place : Nat} (hle : last ≤ h.length)
    (hread : ReadAt w (h.take last) number k read place) : first < place := by
  have hlength : (h.take last).length = last := List.length_take_of_le hle
  have hfirst := Nat.le_of_lt hpoll.lt
  by_contra hnot
  apply hpoll.begins
  rcases Nat.lt_or_eq_of_le (Nat.le_of_not_lt hnot) with hbefore | rfl
  · -- The monitor had read before this poll began, and the poll of that was not over.
    obtain ⟨m, hm, hhas⟩ := hread.1.since first hbefore (hlength.symm ▸ hfirst)
    rw [afterFirst_take w h hfirst] at hm
    refine ⟨m, hm, ?_⟩
    unfold Monitor.hasRead at hhas
    split at hhas
    · next hphase => simp [Monitor.isPolling, hphase, Phase.call?]
    · next hphase => simp [Monitor.isPolling, hphase, Phase.call?]
    · cases hhas
  · obtain ⟨m, hm, hmcall⟩ := call?_eq_some hread.1.call
    rw [afterFirst_take w h hfirst] at hm
    obtain ⟨-, -, c, hphase, -⟩ := Monitor.call?_eq_get hmcall
    exact ⟨m, hm, by simp [Monitor.isPolling, hphase, Phase.call?]⟩

/-- **A failed poll leaves no trace.** Take any poll of any monitor in any history. What is done by
the monitor or to it during the poll changes no run and no version and makes no event, up to the
action that ends the poll, and that one neither unless the poll succeeds with it. A poll that
succeeds has made one replacement at most. It writes the run that this poll has read, in the state
that this run and the pods that this poll has listed ask for, together with both stamps. -/
theorem failed_polls_leave_no_trace (hw : w.monitors = [])
    (hpoll : PollsFrom w h number first last) (ha : h[last]? = some a) :
    (∀ t b, first ≤ t → t ≤ last → h[t]? = some b → b.IsOf number →
      (t = last → ∀ answer, (w.afterFirst h last).ends number a ≠ some (.ok answer)) →
      (w.afterFirst h t).store.SameContent (w.afterFirst h (t + 1)).store) ∧
    ∀ answer, (w.afterFirst h last).ends number a = some (.ok answer) →
      (w.afterFirst h last).store.SameContent (w.afterFirst h (last + 1)).store ∨
      ∃ k place read listed pods current target wall written,
        first < place ∧ ReadAt w (h.take last) number k read place ∧
        place < listed ∧ ListedAt w (h.take last) number k pods listed ∧
        read.state = .ok current ∧ target = evaluate current read.cancelRequested pods ∧
        (w.afterFirst h last).store.Writes (read.transition current target wall) written
          (w.afterFirst h (last + 1)).store ∧
        written.state = .ok target ∧
        written.stamps = read.stamps.afterTransition current target wall ∧
        read.AgreesOutsideLifecycle written := by
  constructor
  · intro t b hfirst hlast hb hof hends
    rw [afterFirst_succ w hb]
    rcases Nat.lt_or_eq_of_le hlast with hlt | rfl
    · refine sameContent_of_no_success hof ?_
      simp [hpoll.ends_eq_none hfirst hlt hb]
    · obtain rfl := Option.some.inj (ha.symm.trans hb)
      exact sameContent_of_no_success hof (hends rfl)
  · intro answer hends
    obtain rfl := eq_monitor_of_ends hends
    rw [afterFirst_succ w ha]
    have hof : (Action.monitor number).IsOf number := Or.inl rfl
    rcases sameContent_or_replaces (w := w.afterFirst h last) hof with
      hsame | ⟨r, written, -, hcall, -, hwrites⟩
    · exact Or.inl hsame
    · obtain ⟨m, hm, hmcall⟩ := call?_eq_some hcall
      obtain ⟨-, c, target, hphase, -⟩ := Monitor.call?_eq_replace hmcall
      obtain ⟨place, read, listed, pods, current, wall, hread, hlt, hlisted, hstate, -, htarget, -,
        rfl⟩ := record_of_writing hw (h.take last) hm hphase
      have hle := Nat.le_of_lt (List.getElem?_eq_some_iff.1 ha).1
      have hmade := hwrites.stamped
      refine Or.inr ⟨m.lease.key, place, read, listed, pods, current, target, wall, written,
        hpoll.lt_of_readAt hle hread, hread, hlt, hlisted, hstate, htarget, hwrites, ?_, ?_, ?_⟩
      · rw [hmade]
        exact Run.state_transition read current target wall _
      · rw [hmade]
        rfl
      · rw [hmade]
        exact Run.agreesOutsideLifecycle_transition read current target wall _

/-- A poll of a watched run fails because the run cannot be replaced, and the next one replaces
it. -/
def retriedHistory : List Action :=
  let r := Run.named "ns" "a" { RunSpec.empty with state := some "QUEUED" }
  [.store (.insert r), .store (.setPods r.key [.running]), .store (.openWatch none),
    .store (.failUpdates r.key [.conflict r.key]), .react (.create r.key), .pass 1000, .monitor 0,
    .monitor 0, .monitor 0, .monitor 0, .pass 1000, .monitor 0, .monitor 0, .monitor 0, .monitor 0]

/-- Only the last move of the second poll writes the run. -/
theorem failed_polls_leave_no_trace_of_retriedHistory :
    PollsFrom (initial .standard ⟨0, 0⟩) retriedHistory 0 6 9 ∧
      ((initial .standard ⟨0, 0⟩).afterFirst retriedHistory 9).ends 0 (.monitor 0) =
        some (.error (.client (.conflict ⟨"ns", "a"⟩))) ∧
      ((initial .standard ⟨0, 0⟩).afterFirst retriedHistory 9).store.SameContent
        ((initial .standard ⟨0, 0⟩).afterFirst retriedHistory 10).store ∧
      PollsFrom (initial .standard ⟨0, 0⟩) retriedHistory 0 11 14 ∧
      ((initial .standard ⟨0, 0⟩).afterFirst retriedHistory 14).ends 0 (.monitor 0) =
        some (.ok .pending) ∧
      ∃ (read : Run) (current target : RunState) (wall : Instant) (written : Run),
        ((initial .standard ⟨0, 0⟩).afterFirst retriedHistory 14).store.Writes
          (read.transition current target wall) written
          ((initial .standard ⟨0, 0⟩).afterFirst retriedHistory 15).store := by
  have hfailing : PollsFrom (initial .standard ⟨0, 0⟩) retriedHistory 0 6 9 := by
    refine ⟨by decide, ?_, ?_⟩
    · rintro ⟨m, hm, hpolling⟩
      cases hm
      cases hpolling
    · intro t hfirst hlast
      obtain rfl | rfl | rfl : t = 7 ∨ t = 8 ∨ t = 9 := by omega
      all_goals exact ⟨_, rfl, rfl⟩
  have hwriting : PollsFrom (initial .standard ⟨0, 0⟩) retriedHistory 0 11 14 := by
    refine ⟨by decide, ?_, ?_⟩
    · rintro ⟨m, hm, hpolling⟩
      cases hm
      cases hpolling
    · intro t hfirst hlast
      obtain rfl | rfl | rfl : t = 12 ∨ t = 13 ∨ t = 14 := by omega
      all_goals exact ⟨_, rfl, rfl⟩
  have herror : ((initial .standard ⟨0, 0⟩).afterFirst retriedHistory 9).ends 0 (.monitor 0) =
      some (.error (.client (.conflict ⟨"ns", "a"⟩))) := rfl
  have hok : ((initial .standard ⟨0, 0⟩).afterFirst retriedHistory 14).ends 0 (.monitor 0) =
      some (.ok .pending) := rfl
  refine ⟨hfailing, herror, ?_, hwriting, hok, ?_⟩
  · refine (failed_polls_leave_no_trace rfl hfailing rfl).1 9 _ (by decide) (by decide) rfl
      (Or.inl rfl) ?_
    intro _ answer hends
    cases herror.symm.trans hends
  · rcases (failed_polls_leave_no_trace rfl hwriting rfl).2 _ hok with
      hsame | ⟨k, place, read, listed, pods, current, target, wall, written, -, -, -, -, -, -,
        hwrites, -⟩
    · cases hsame.lastVersion
    · exact ⟨read, current, target, wall, written, hwrites⟩

end World

end RunOperator
