import RunOperator.Proofs.Replay
import RunOperator.Proofs.Staffing

/-!
# No monitor works for an unknown run

The dispatcher is handed what a roster tells of the events of a watch. A watch may report its events
in any order, also in one that makes no sense: listings that end before they begin, runs that are
listed outside of a listing, changes in the middle of one. The roster may then know runs of which
nothing was told. But a run is attended only as long as a replay of what was told holds it
(`attends_handle`), and the replay holds known runs only, so that no registered lease and no monitor
at work belongs to a run that the roster does not know (`attended_runs_are_known`).
-/

namespace RunOperator

namespace Registry

variable {r r' : Registry} {k k' : RunKey} {s : KeySet}

/-! ### Which runs are attended -/

/-- A run that is attended after registrations have faded was attended before. -/
theorem Fades.attends (h : r.Fades r') (hk : r'.attends k = true) : r.attends k = true := by
  obtain ⟨id, hid, hcancelled⟩ := attends_eq_true_iff.1 hk
  refine attends_eq_true_iff.2 ⟨id, h.old hid, ?_⟩
  cases hbefore : r.isCancelled id with
  | false => rfl
  | true => exact absurd hcancelled (by simp [h.cancelled id hbefore])

/-- The runs that are attended are in the set. -/
def AttendsWithin (r : Registry) (s : KeySet) : Prop :=
  ∀ k, r.attends k = true → s.contains k = true

/-- The attended runs stay within a set when registrations fade. -/
theorem AttendsWithin.fades (h : r.AttendsWithin s) (hfades : r.Fades r') : r'.AttendsWithin s :=
  fun k hk => h k (hfades.attends hk)

/-- The attended runs stay within a set when a lease is released. -/
theorem AttendsWithin.release (h : r.AttendsWithin s) (lease : Lease) :
    (r.release lease).AttendsWithin s := by
  intro k hk
  obtain ⟨id, hid, hcancelled⟩ := attends_eq_true_iff.1 hk
  rw [get?_release] at hid
  split at hid
  · cases hid
  · rw [isCancelled_release] at hcancelled
    exact h k (attends_eq_true_iff.2 ⟨id, hid, hcancelled⟩)

/-- A lease that is issued adds its run to those that are attended. -/
theorem AttendsWithin.issue (h : r.AttendsWithin s) (k : RunKey) :
    (r.issue k).2.AttendsWithin (s.add k) := by
  intro k' hk'
  rw [KeySet.contains_add]
  split
  · rfl
  · next hne =>
    have hentry : (r.issue k).2.entries.get? k' = r.entries.get? k' :=
      (r.get?_issue k k').trans (if_neg hne)
    rw [attends_congr hentry fun _ => rfl] at hk'
    exact h k' hk'

/-- A run whose lease was cancelled is not attended. -/
theorem not_attends_cancel (r : Registry) (k : RunKey) : (r.cancel k).2.attends k = false := by
  unfold cancel
  split
  · next own hown =>
    have hentry : (r.cancelId own).entries.get? k = some own := hown
    rw [attends, hentry]
    simp [isCancelled_cancelId]
  · next hnone => exact attends_of_get?_eq_none hnone

/-- A run whose registration is cancelled is no longer attended. -/
theorem AttendsWithin.cancel (h : r.AttendsWithin s) (k : RunKey) :
    (r.cancel k).2.AttendsWithin (s.erase k) := by
  intro k' hk'
  rw [KeyMap.contains_erase]
  split
  · next heq =>
    rw [← heq, not_attends_cancel] at hk'
    cases hk'
  · exact h k' ((r.fades_cancel k).attends hk')

end Registry

/-- The reaction of the dispatcher that an action is. -/
def Action.reaction? : Action → Option RunEvent
  | .react e => some e
  | _ => none

/-- Nobody but the dispatcher registers runs, starts monitors or releases their leases, and the
dispatcher is not told of events by a loop. -/
def Action.LeavesRegistering : Action → Prop
  | .start _ | .registry (.register _) | .registry (.registerReplacing _) | .registry (.release _)
  | .loop _ => False
  | _ => True

/-- The dispatcher is told of events by its loop only, and nobody else registers runs. -/
def Action.LeavesDispatching : Action → Prop
  | .loop _ => True
  | .react _ | .dispatchWatch _ | .dispatchScript => False
  | a => a.LeavesRegistering

namespace World

variable {w : World} {s : KeySet} {a : Action} {t : Roster} {number : Nat} {m : Monitor}

/-- What the dispatcher does on an event attends no runs but those that a replay of the event
holds. -/
theorem attends_handle (h : w.registry.AttendsWithin s) (e : RunEvent) :
    (w.handle e).registry.AttendsWithin (s.replay e) := by
  have hstarts : (w.handle e).registry.AttendsWithin (s.add e.key) := by
    rcases handle_cases w e with ⟨r, hfades, heq⟩ | ⟨r, hfades, -, heq⟩ <;> rw [heq]
    · intro k hk
      rw [KeySet.contains_add, h.fades hfades k hk, ite_self]
    · exact (h.fades hfades).issue e.key
  cases e with
  | create k => exact hstarts
  | resume r => exact hstarts
  | delete k => exact h.cancel k

/-- Reactions attend no run that the events do not make known. -/
theorem attends_foldl_handle (h : w.registry.AttendsWithin s) (events : List RunEvent) :
    (events.foldl handle w).registry.AttendsWithin (s.replayAll events) := by
  induction events generalizing w s with
  | nil => exact h
  | cons e events ih => exact ih (attends_handle h e)

/-- A monitor that goes on or ends attends no other run. -/
theorem attends_putMonitor (h : w.registry.AttendsWithin s) (number : Nat) (m : Monitor) :
    (w.putMonitor number m).registry.AttendsWithin s := by
  rw [putMonitor]
  dsimp only
  split
  · exact h.release m.lease
  · exact h

/-- Besides the dispatcher nobody makes a run attended. -/
theorem attends_act (h : w.registry.AttendsWithin s) (ha : a.LeavesRegistering) :
    (w.act a).registry.AttendsWithin (s.replayAll a.reaction?.toList) := by
  cases a with
  | react e => exact attends_handle h e
  | monitor n =>
    rcases act_monitor_cases w n with heq | ⟨m, m', s', -, -, heq⟩ <;> rw [heq]
    · exact h
    · exact attends_putMonitor (w := { w with store := s' }) h n m'
  | abort n =>
    rcases act_abort_cases w n with heq | ⟨m, -, -, heq⟩ <;> rw [heq]
    · exact h
    · exact attends_putMonitor h n _
  | shutdown => exact h.fades w.registry.fades_cancelAll
  | registry c =>
    cases c with
    | cancel k => exact h.fades (w.registry.fades_cancel k)
    | evict k => exact h.fades (w.registry.fades_evict k)
    | cancelAll => exact h.fades w.registry.fades_cancelAll
    | cancelToken id => exact h.fades (w.registry.fades_cancelId id)
    | register k | registerReplacing k | release lease => cases ha
  | start lease | loop n => cases ha
  | emit n item =>
    obtain ⟨loops, heq⟩ := act_emit_eq w n item
    rw [heq]
    exact h
  | _ => exact h

private theorem governed_act_of_leavesRegistering (hw : w.Governed) (ha : a.LeavesRegistering) :
    (w.act a).Governed := by
  cases a with
  | store c => exact hw
  | registry c =>
    refine governed_act hw ?_
    cases c with
    | register k | registerReplacing k | release lease => cases ha
    | _ => trivial
  | start lease | loop n => cases ha
  | _ => exact governed_act hw trivial

/-- No registered lease and no monitor at work belongs to an unknown run. -/
structure Sheltered (w : World) (known : KeySet) : Prop where
  entries : ∀ k id, w.registry.entries.get? k = some id → w.registry.isCancelled id = false →
    known.contains k = true
  monitors : ∀ number k, w.WorksFor number k → known.contains k = true

/-- Governed monitors are sheltered by any set that the attended runs lie within. -/
theorem Governed.sheltered (hw : w.Governed) (h : w.registry.AttendsWithin s) :
    w.Sheltered s := by
  have hentries : ∀ k id, w.registry.entries.get? k = some id →
      w.registry.isCancelled id = false → s.contains k = true :=
    fun k id hid hcancelled => h k (Registry.attends_eq_true_iff.2 ⟨id, hid, hcancelled⟩)
  refine ⟨hentries, ?_⟩
  rintro number k ⟨m, hm, rfl, hactive⟩
  exact hentries _ _ (hw.registered hm hactive) hactive.2

/-- After any history the runs that are attended are in the replay of what the dispatcher was
told. -/
theorem attends_after {h : List Action} (hw : w.registry.AttendsWithin s)
    (hleaves : ∀ a ∈ h, a.LeavesRegistering) :
    (w.after h).registry.AttendsWithin (s.replayAll (h.filterMap Action.reaction?)) := by
  induction h generalizing w s with
  | nil => exact hw
  | cons a h ih =>
    have hrest := ih (attends_act hw (hleaves a List.mem_cons_self))
      fun b hb => hleaves b (List.mem_cons_of_mem a hb)
    rw [← KeySet.replayAll_append] at hrest
    have hreactions : (a :: h).filterMap Action.reaction? =
        a.reaction?.toList ++ h.filterMap Action.reaction? := by
      cases hreaction : a.reaction? <;> simp [hreaction]
    rwa [hreactions]

/-- **No orphan monitors.** A watch reports any events in any order, and a fresh roster tells the
dispatcher of them. In a history in which the dispatcher reacts to all of this, and anything else
happens before, between and after its reactions, no registered lease that was not cancelled, and no
monitor that is active, belongs to a run that the roster does not know. -/
theorem attended_runs_are_known (settings : Settings) (wall : Instant) (events : List WatchEvent)
    (h : List Action) (hleaves : ∀ a ∈ h, a.LeavesRegistering)
    (hreactions : h.filterMap Action.reaction? = (Roster.initial.observeAll events).1) :
    ((initial settings wall).after h).Sheltered (Roster.initial.observeAll events).2.known := by
  have hgoverned : ((initial settings wall).after h).Governed :=
    Along.invariant Governed (fun w a ha hw => governed_act_of_leavesRegistering hw ha)
      (along_of_forall hleaves) (Registry.governs_nil _)
  have hattends : ((initial settings wall).after h).registry.AttendsWithin
      (KeySet.empty.replayAll (h.filterMap Action.reaction?)) := by
    refine attends_after ?_ hleaves
    intro k hk
    cases hk
  refine hgoverned.sheltered fun k hk => ?_
  have hreplayed := hattends k hk
  rw [hreactions] at hreplayed
  exact Roster.within_replayAll_observeAll (KeySet.Within.refl _) events k hreplayed

/-- A run of the history below. -/
def strandedRun (name : String) : Run := Run.named "ns" name RunSpec.empty

/-- A watch that makes no sense: a run is listed before a listing begins, and a listing shows
nothing of what was reported. -/
def senselessWatch : List WatchEvent :=
  [.apply (strandedRun "a"), .initApply (strandedRun "b"), .init, .initDone, .initDone,
    .apply (strandedRun "c"), .initApply (strandedRun "c"), .delete (strandedRun "b")]

/-- The dispatcher reacts to what is told of the watch, while its first monitor wakes, and ends
because it was cancelled. -/
def senselessHistory : List Action :=
  [.react (.create ⟨"ns", "a"⟩), .pass 1000, .monitor 0, .react (.resume (strandedRun "b")),
    .react (.delete ⟨"ns", "a"⟩), .monitor 0, .react (.delete ⟨"ns", "b"⟩),
    .react (.create ⟨"ns", "c"⟩), .abort 1, .react (.delete ⟨"ns", "b"⟩)]

/-- Of the three runs only the last is attended at the end, and it is known. -/
theorem attended_runs_are_known_of_senselessWatch :
    (∀ a ∈ senselessHistory, a.LeavesRegistering) ∧
      senselessHistory.filterMap Action.reaction? =
        (Roster.initial.observeAll senselessWatch).1 ∧
      ((initial .standard ⟨0, 0⟩).after senselessHistory).registry.entries.get? ⟨"ns", "c"⟩ =
        some 2 ∧
      ((initial .standard ⟨0, 0⟩).after senselessHistory).Sheltered
        (Roster.initial.observeAll senselessWatch).2.known := by
  have hleaves : ∀ a ∈ senselessHistory, a.LeavesRegistering := by
    simp [senselessHistory, Action.LeavesRegistering]
  exact ⟨hleaves, rfl, rfl,
    attended_runs_are_known .standard ⟨0, 0⟩ senselessWatch senselessHistory hleaves rfl⟩

/-! ### The loop of the dispatcher -/

/-- There is one loop, and no run is attended that its roster does not know. -/
def ShelteredByLoop (w : World) : Prop :=
  ∃ l, w.loops = [l] ∧ w.registry.AttendsWithin l.roster.known ∧ w.Governed

/-- Besides the loop nobody changes its roster. -/
theorem loops_act_of_leavesDispatching {l : Loop} (hl : w.loops = [l])
    (ha : a.LeavesDispatching) (hloop : ∀ n, a ≠ .loop n) :
    ∃ l', (w.act a).loops = [l'] ∧ l'.roster = l.roster := by
  cases a with
  | monitor n =>
    rcases act_monitor_cases w n with heq | ⟨m, m', s', -, -, heq⟩ <;> rw [heq] <;>
      exact ⟨l, hl, rfl⟩
  | abort n =>
    rcases act_abort_cases w n with heq | ⟨m, -, -, heq⟩ <;> rw [heq] <;> exact ⟨l, hl, rfl⟩
  | emit n item =>
    rw [act, emit, hl]
    cases n with
    | zero =>
      dsimp only [List.getElem?_cons_zero]
      split
      · split
        · exact ⟨l, hl, rfl⟩
        · rw [putLoop, hl]
          exact ⟨_, rfl, rfl⟩
      · exact ⟨l, hl, rfl⟩
    | succ n => exact ⟨l, hl, rfl⟩
  | endScript n =>
    rw [act, endScript, hl]
    cases n with
    | zero =>
      refine ⟨_, rfl, ?_⟩
      dsimp only
      split <;> rfl
    | succ n => exact ⟨l, by simp, rfl⟩
  | stopLoop n =>
    rw [act, stopLoop, hl]
    cases n with
    | zero => exact ⟨_, rfl, rfl⟩
    | succ n => exact ⟨l, by simp, rfl⟩
  | loop n => exact absurd rfl (hloop n)
  | react e | dispatchWatch scope | dispatchScript | start lease => cases ha
  | _ => exact ⟨l, hl, rfl⟩

/-- The loop takes in an event and leaves no run attended that its roster does not know. -/
theorem shelteredByLoop_takeIn {l : Loop} (hloops : w.loops.length = 1)
    (hattends : w.registry.AttendsWithin l.roster.known) (hw : w.Governed) (e : WatchEvent) :
    (w.takeIn 0 l e).ShelteredByLoop := by
  have hgoverned : (w.putLoop 0 { l with roster := (l.roster.observe e).2 }).Governed := hw
  have htold := attends_foldl_handle
    (w := w.putLoop 0 { l with roster := (l.roster.observe e).2 }) hattends
    (l.roster.observe e).1
  have htaken : w.takeIn 0 l e = (l.roster.observe e).1.foldl handle
      (w.putLoop 0 { l with roster := (l.roster.observe e).2 }) := rfl
  obtain ⟨before, hbefore⟩ := List.length_eq_one_iff.1 hloops
  rw [htaken]
  refine ⟨{ l with roster := (l.roster.observe e).2 }, ?_, ?_, hgoverned.foldl_handle _⟩
  · obtain ⟨_, _, heq⟩ := foldl_handle_eq (l.roster.observe e).1
      (w.putLoop 0 { l with roster := (l.roster.observe e).2 })
    rw [heq, putLoop, hbefore]
    rfl
  · intro k hk
    exact Roster.within_replayAll_observe (KeySet.Within.refl _) e k (htold k hk)

/-- Whatever leaves the dispatching to the loop keeps the monitors sheltered by what it knows. -/
theorem shelteredByLoop_act (hw : w.ShelteredByLoop) (ha : a.LeavesDispatching) :
    (w.act a).ShelteredByLoop := by
  obtain ⟨l, hl, hattends, hgoverned⟩ := hw
  have hlength : w.loops.length = 1 := congrArg List.length hl
  by_cases hloop : ∃ n, a = .loop n
  · obtain ⟨n, rfl⟩ := hloop
    have honly {l' : Loop} (hn : w.loops[n]? = some l') : n = 0 ∧ l' = l := by
      rw [hl, List.getElem?_singleton] at hn
      split at hn
      · next heq => exact ⟨heq, (Option.some.inj hn).symm⟩
      · cases hn
    have hput (l' : Loop) (hroster : l'.roster = l.roster) : (w.putLoop 0 l').ShelteredByLoop :=
      ⟨l', by rw [putLoop, hl]; rfl, hroster ▸ hattends, hgoverned⟩
    have hmove := loopMove_act w n
    generalize w.act (.loop n) = w' at hmove ⊢
    cases hmove with
    | idle => exact ⟨l, hl, hattends, hgoverned⟩
    | ends hn _ _ =>
      obtain ⟨rfl, rfl⟩ := honly hn
      exact hput _ rfl
    | passes hn _ _ _ =>
      obtain ⟨rfl, rfl⟩ := honly hn
      exact hput _ rfl
    | @watches _ watch e _ hn _ _ _ _ =>
      obtain ⟨rfl, rfl⟩ := honly hn
      exact shelteredByLoop_takeIn (w := { w with store := w.store.takeEvent watch }) hlength
        hattends hgoverned e
    | @reads l' e rest closed hn _ _ _ =>
      obtain ⟨rfl, rfl⟩ := honly hn
      exact shelteredByLoop_takeIn (l := { l' with input := .script rest closed }) hlength
        hattends hgoverned e
  · have hother : ∀ n, a ≠ .loop n := fun n heq => hloop ⟨n, heq⟩
    obtain ⟨l', hl', hroster⟩ := loops_act_of_leavesDispatching hl ha hother
    have hleaves : a.LeavesRegistering ∧ a.reaction? = none := by
      cases a with
      | loop n => exact absurd rfl (hother n)
      | react e | dispatchWatch scope | dispatchScript => cases ha
      | _ => exact ⟨ha, rfl⟩
    have hstill := attends_act hattends hleaves.1
    rw [hleaves.2] at hstill
    exact ⟨l', hl', hroster ▸ hstill, governed_act_of_leavesRegistering hgoverned hleaves.1⟩

/-- The same holds of a loop that takes in the events of a watch or of a script by itself: whatever
the events are, no monitor at work belongs to a run that the roster of the loop does not know. -/
theorem sheltered_by_loop (settings : Settings) (wall : Instant) (input : LoopInput)
    (h : List Action) (hleaves : ∀ a ∈ h, a.LeavesDispatching) :
    ∃ l, (((initial settings wall).startLoop input).2.after h).loops = [l] ∧
      (((initial settings wall).startLoop input).2.after h).Sheltered l.roster.known := by
  have hloop : (((initial settings wall).startLoop input).2.after h).ShelteredByLoop := by
    refine Along.invariant ShelteredByLoop (fun w a ha hw => shelteredByLoop_act hw ha)
      (along_of_forall hleaves) ⟨_, rfl, ?_, Registry.governs_nil _⟩
    intro k hk
    cases hk
  obtain ⟨l, hl, hattends, hgoverned⟩ := hloop
  exact ⟨l, hl, hgoverned.sheltered hattends⟩

end World

end RunOperator
