import RunOperator.Proofs.Dispatch

/-!
# Registered runs have monitors

When nobody but the dispatcher uses the registry, a lease is registered only as long as the monitor
that holds it has not ended (`Registry.Staffed`). A run is therefore attended by a monitor at work
if its registered lease was not cancelled, and for each reaction of the dispatcher and each end of a
monitor it can be said which runs are attended afterwards.
-/

namespace RunOperator

namespace Registry

variable {r r' : Registry} {ms : List Monitor} {k k' : RunKey} {id : Nat}

/-- A lease is registered for the run, and it was not cancelled. -/
def attends (r : Registry) (k : RunKey) : Bool :=
  match r.entries.get? k with
  | some id => !r.isCancelled id
  | none => false

/-- A run is attended if it has an entry whose monitor was not cancelled. -/
theorem attends_eq_true_iff :
    r.attends k = true ↔ ∃ id, r.entries.get? k = some id ∧ r.isCancelled id = false := by
  unfold attends
  split
  · next own hown => simp [hown]
  · next hnone => simp [hnone]

/-- Whether a run is attended depends on its entry and on the cancellation of that alone. -/
theorem attends_congr (hentry : r'.entries.get? k = r.entries.get? k)
    (hcancelled : ∀ {id}, r.entries.get? k = some id → r'.isCancelled id = r.isCancelled id) :
    r'.attends k = r.attends k := by
  unfold attends
  rw [hentry]
  split
  · next own hown => rw [hcancelled hown]
  · rfl

/-- The registry knows of the monitors what it should, each registered lease is held by a monitor
that has not ended, and only leases that were issued have been cancelled. -/
structure Staffed (r : Registry) (ms : List Monitor) : Prop extends r.Governs ms where
  held : ∀ {k : RunKey} {id : Nat}, r.entries.get? k = some id →
    ∃ (i : Nat) (m : Monitor), ms[i]? = some m ∧ m.lease = ⟨k, id⟩ ∧ m.isOver = false
  cancelledIssued : ∀ {id : Nat}, r.isCancelled id = true → id < r.nextId

/-- An empty registry without monitors is staffed. -/
theorem staffed_empty : Registry.empty.Staffed [] where
  toGoverns := governs_nil _
  held := by
    intro k id h
    cases h
  cancelledIssued := by
    intro id h
    cases h

/-- A registered lease was issued. -/
theorem Staffed.lt_nextId (h : r.Staffed ms) (hid : r.entries.get? k = some id) :
    id < r.nextId := by
  obtain ⟨i, m, hm, hlease, -⟩ := h.held hid
  have hissued := h.issued hm
  rwa [hlease] at hissued

/-- A lease is registered for one run only. -/
theorem Staffed.key_unique (h : r.Staffed ms) (hid : r.entries.get? k = some id)
    (hid' : r.entries.get? k' = some id) : k = k' := by
  obtain ⟨i, m, hm, hlease, -⟩ := h.held hid
  obtain ⟨j, m', hm', hlease', -⟩ := h.held hid'
  obtain rfl := h.eq_of_id hm hm' (by rw [hlease, hlease'])
  obtain rfl := Option.some.inj (hm.symm.trans hm')
  exact congrArg Lease.key (hlease.symm.trans hlease')

/-- Cancelling the lease of a run does not matter to other runs. -/
theorem Staffed.attends_cancelId (h : r.Staffed ms) (hid : r.entries.get? k = some id) :
    (r.cancelId id).attends k' = if k = k' then false else r.attends k' := by
  split
  · next heq =>
    subst heq
    have hentry : (r.cancelId id).entries.get? k = some id := hid
    rw [attends, hentry]
    simp [isCancelled_cancelId]
  · next hne =>
    refine attends_congr rfl ?_
    intro id' hid'
    have hother : id' ≠ id := by
      rintro rfl
      exact hne (h.key_unique hid hid')
    rw [isCancelled_cancelId, beq_false_of_ne hother, Bool.false_or]

/-- A run without an entry is not attended. -/
theorem attends_of_get?_eq_none (h : r.entries.get? k = none) : r.attends k = false := by
  rw [attends, h]

/-! ### Reactions of the dispatcher -/

/-- A registry that loses entries stays staffed. -/
theorem Staffed.fades (h : r.Staffed ms) (hfades : r.Fades r')
    (hcancelled : ∀ {id}, r'.isCancelled id = true → id < r.nextId) : r'.Staffed ms where
  toGoverns := h.toGoverns.fades hfades
  held := fun hid => h.held (hfades.old hid)
  cancelledIssued := by
    intro id hid
    rw [hfades.nextId]
    exact hcancelled hid

private theorem Staffed.lt_of_cancelId (h : r.Staffed ms) {own : Nat}
    (hown : r.entries.get? k = some own) (hid : (r.cancelId own).isCancelled id = true) :
    id < r.nextId := by
  rw [isCancelled_cancelId, Bool.or_eq_true, beq_iff_eq] at hid
  rcases hid with rfl | hid
  · exact h.lt_nextId hown
  · exact h.cancelledIssued hid

/-- Cancelling a registered monitor leaves the registry staffed. -/
theorem Staffed.cancelId (h : r.Staffed ms) (hid : r.entries.get? k = some id) :
    (r.cancelId id).Staffed ms :=
  h.fades (fades_cancelId r id) (h.lt_of_cancelId hid)

/-- Cancelling the monitor of a run leaves the registry staffed. -/
theorem Staffed.cancel (h : r.Staffed ms) (k : RunKey) : (r.cancel k).2.Staffed ms := by
  unfold Registry.cancel
  split
  · next own hown => exact h.cancelId hown
  · exact h

/-- A run whose deletion is reported is not attended any more. -/
theorem Staffed.attends_cancel (h : r.Staffed ms) (k k' : RunKey) :
    (r.cancel k).2.attends k' = if k = k' then false else r.attends k' := by
  unfold Registry.cancel
  split
  · next own hown => exact h.attends_cancelId hown
  · next hnone =>
    split
    · next heq =>
      subst heq
      exact attends_of_get?_eq_none hnone
    · rfl

/-- A lease may be issued for a run without an active monitor when a monitor is started on it. -/
theorem Staffed.issue {settings : Settings} {now : Nat} (h : r.Staffed ms)
    (hidle : ∀ {i : Nat} {m : Monitor}, ms[i]? = some m → m.lease.key = k → ¬ m.ActiveIn r) :
    (r.issue k).2.Staffed (ms ++ [Monitor.start settings now (r.issue k).1]) where
  toGoverns := (h.toGoverns.issue hidle).start (Nat.lt_succ_self _) h.issued
    ((r.get?_issue k k).trans (if_pos rfl)) hidle
  held := by
    intro k' id hid
    rw [get?_issue] at hid
    split at hid
    · next heq =>
      cases hid
      exact ⟨ms.length, _, List.getElem?_concat_length, by rw [← heq]; rfl, rfl⟩
    · obtain ⟨i, m, hm, hlease, hover⟩ := h.held hid
      refine ⟨i, m, ?_, hlease, hover⟩
      rw [List.getElem?_append_left (List.getElem?_eq_some_iff.1 hm).1, hm]
  cancelledIssued := by
    intro id hid
    exact Nat.lt_succ_of_lt (h.cancelledIssued hid)

/-- The run that a lease is issued for is attended from then on. -/
theorem Staffed.attends_issue (h : r.Staffed ms) (k k' : RunKey) :
    (r.issue k).2.attends k' = if k = k' then true else r.attends k' := by
  split
  · next heq =>
    rw [attends_eq_true_iff]
    refine ⟨r.nextId, (r.get?_issue k k').trans (if_pos heq), ?_⟩
    cases hcancelled : r.isCancelled r.nextId with
    | false => exact hcancelled
    | true => exact absurd (h.cancelledIssued hcancelled) (Nat.lt_irrefl _)
  · next hne => exact attends_congr ((r.get?_issue k k').trans (if_neg hne)) fun _ => rfl

/-! ### Moves of monitors -/

/-- A monitor may change as long as it keeps its lease, and releases it with its end. -/
theorem Staffed.set {i : Nat} {m m' : Monitor} (h : r.Staffed ms) (hm : ms[i]? = some m)
    (hlease : m'.lease = m.lease)
    (hgoverns : (if m'.isOver then r.release m'.lease else r).Governs (ms.set i m')) :
    (if m'.isOver then r.release m'.lease else r).Staffed (ms.set i m') where
  toGoverns := hgoverns
  held := by
    intro k id hid
    have hself : (ms.set i m')[i]? = some m' := by
      rw [List.getElem?_set, if_pos rfl, if_pos (List.getElem?_eq_some_iff.1 hm).1]
    have hother {j : Nat} (hne : j ≠ i) : (ms.set i m')[j]? = ms[j]? := by
      rw [List.getElem?_set, if_neg (Ne.symm hne)]
    split at hid
    · rw [get?_release] at hid
      split at hid
      · cases hid
      · next hnotOwn =>
        obtain ⟨j, m'', hm'', hlease'', hover⟩ := h.held hid
        have hne : j ≠ i := by
          rintro rfl
          obtain rfl := Option.some.inj (hm''.symm.trans hm)
          refine hnotOwn ?_
          rw [hlease, hlease'']
          exact ⟨rfl, hid⟩
        exact ⟨j, m'', by rw [hother hne, hm''], hlease'', hover⟩
    · next hnotOver =>
      obtain ⟨j, m'', hm'', hlease'', hover⟩ := h.held hid
      by_cases heq : j = i
      · subst heq
        obtain rfl := Option.some.inj (hm''.symm.trans hm)
        exact ⟨j, m', hself, hlease.trans hlease'', by simpa using hnotOver⟩
      · exact ⟨j, m'', by rw [hother heq, hm''], hlease'', hover⟩
  cancelledIssued := by
    intro id hid
    split at hid
    · next hend =>
      rw [isCancelled_release] at hid
      rw [if_pos hend, nextId_release]
      exact h.cancelledIssued hid
    · next hend =>
      rw [if_neg hend]
      exact h.cancelledIssued hid

/-- A release concerns no run but that of the lease, and not even that if the lease was
cancelled. -/
theorem attends_release {lease : Lease} (h : lease.key ≠ k ∨ r.isCancelled lease.id = true) :
    (r.release lease).attends k = r.attends k := by
  by_cases hown : lease.key = k ∧ r.entries.get? k = some lease.id
  · rcases h with hne | hcancelled
    · exact absurd hown.1 hne
    · rw [attends, get?_release, if_pos hown, attends, hown.2]
      simp [hcancelled]
  · refine attends_congr ?_ fun _ => isCancelled_release r lease _
    rw [get?_release, if_neg hown]

end Registry

/-- The state of the run can be understood and is not final. -/
def Run.isUnderway (r : Run) : Bool :=
  match r.state with
  | .ok s => !s.isFinal
  | .error _ => false

/-- A run whose state can be read is underway unless the state is final. -/
theorem Run.isUnderway_of_state {r : Run} {s : RunState} (hstate : r.state = .ok s) :
    r.isUnderway = !s.isFinal := by
  rw [isUnderway, hstate]

namespace World

variable {w : World} {k k' : RunKey} {number : Nat} {m m' : Monitor}

/-- The registry is staffed by the monitors. -/
def Staffed (w : World) : Prop := w.registry.Staffed w.monitors

/-- A run that appears is attended from then on. -/
theorem Staffed.onCreate (hw : w.Staffed) (k : RunKey) :
    (w.onCreate k).Staffed ∧
      ∀ k', (w.onCreate k).registry.attends k' =
        if k = k' then true else w.registry.attends k' := by
  have hcreate : w.onCreate k =
      { w with registry := (w.registry.registerReplacing k).2 }.spawn
        (w.registry.registerReplacing k).1 := rfl
  rw [hcreate]
  cases hentry : w.registry.entries.get? k with
  | none =>
    have hissue : w.registry.registerReplacing k = w.registry.issue k := by
      rw [Registry.registerReplacing, hentry]
    rw [hissue]
    refine ⟨Registry.Staffed.issue hw ?_, Registry.Staffed.attends_issue hw k⟩
    intro i m hm hkey hactive
    have hregistered := hw.registered hm hactive
    rw [hkey, hentry] at hregistered
    cases hregistered
  | some own =>
    have hissue : w.registry.registerReplacing k = (w.registry.cancelId own).issue k := by
      rw [Registry.registerReplacing, hentry]
    have hcancelled : (w.registry.cancelId own).Staffed w.monitors :=
      Registry.Staffed.cancelId hw hentry
    rw [hissue]
    refine ⟨hcancelled.issue ?_, ?_⟩
    · intro i m hm hkey
      refine hw.idle_of_fades (Registry.fades_cancelId w.registry own) ?_ hm hkey
      intro id hid
      obtain rfl := Option.some.inj (hentry.symm.trans hid)
      simp [Registry.isCancelled_cancelId]
    · intro k'
      have hattends := hcancelled.attends_issue k k'
      rw [Registry.Staffed.attends_cancelId hw hentry] at hattends
      refine hattends.trans ?_
      split <;> rfl

/-- A run that was deleted is not attended any more. -/
theorem Staffed.onDelete (hw : w.Staffed) (k : RunKey) :
    (w.onDelete k).2.Staffed ∧
      ∀ k', (w.onDelete k).2.registry.attends k' =
        if k = k' then false else w.registry.attends k' :=
  ⟨Registry.Staffed.cancel hw k, Registry.Staffed.attends_cancel hw k⟩

/-- Nothing happens when a run is resumed that is not underway and not registered. -/
theorem onResume_of_not_underway {r : Run} (hunderway : r.isUnderway = false)
    (hnone : w.registry.entries.get? r.key = none) : w.onResume r = w := by
  rw [onResume]
  cases hstate : r.state with
  | error e => rfl
  | ok s =>
    have hfinal : s.isFinal = true := by
      rw [Run.isUnderway_of_state hstate] at hunderway
      simpa using hunderway
    simp only [hfinal, if_true, Registry.evict, hnone]

/-- A run that is underway gets a new lease and a monitor, unless it is registered. -/
theorem onResume_of_underway {r : Run} (hunderway : r.isUnderway = true)
    (hnone : w.registry.entries.get? r.key = none) :
    w.onResume r =
      { w with registry := (w.registry.issue r.key).2 }.spawn (w.registry.issue r.key).1 := by
  rw [onResume]
  cases hstate : r.state with
  | error e =>
    rw [Run.isUnderway, hstate] at hunderway
    cases hunderway
  | ok s =>
    have hfinal : s.isFinal = false := by
      rw [Run.isUnderway_of_state hstate] at hunderway
      simpa using hunderway
    have hregister : w.registry.registerIfAbsent r.key =
        (some (w.registry.issue r.key).1, (w.registry.issue r.key).2) := by
      rcases w.registry.registerIfAbsent_eq r.key with ⟨hcontains, -⟩ | ⟨-, heq⟩
      · rw [Registry.contains, KeyMap.contains, hnone] at hcontains
        cases hcontains
      · exact heq
    simp only [hfinal, Bool.false_eq_true, if_false, attach, hregister]

/-- A run that was there already, and that no monitor was ever started for, is attended from then
on if it is underway. -/
theorem Staffed.onResume (hw : w.Staffed) {r : Run}
    (hnone : w.registry.entries.get? r.key = none) :
    (w.onResume r).Staffed ∧
      ∀ k', (w.onResume r).registry.attends k' =
        if r.key = k' then r.isUnderway else w.registry.attends k' := by
  cases hunderway : r.isUnderway with
  | false =>
    rw [onResume_of_not_underway hunderway hnone]
    refine ⟨hw, ?_⟩
    intro k'
    split
    · next heq => exact Registry.attends_of_get?_eq_none (heq ▸ hnone)
    · rfl
  | true =>
    rw [onResume_of_underway hunderway hnone]
    refine ⟨Registry.Staffed.issue hw ?_, Registry.Staffed.attends_issue hw r.key⟩
    intro i m hm hkey hactive
    have hregistered := hw.registered hm hactive
    rw [hkey, hnone] at hregistered
    cases hregistered

/-- A reaction to an event concerns no run but that of the event. -/
theorem get?_handle_of_ne (w : World) {e : RunEvent} (hne : e.key ≠ k) :
    (w.handle e).registry.entries.get? k = w.registry.entries.get? k := by
  have hissue (r : Registry) : (r.issue e.key).2.entries.get? k = r.entries.get? k :=
    (r.get?_issue e.key k).trans (if_neg hne)
  cases e with
  | create k' =>
    rw [handle, World.onCreate]
    simp only [Registry.registerReplacing, spawn]
    split
    · exact hissue _
    · exact hissue _
  | delete k' =>
    rw [handle, World.onDelete]
    simp only [Registry.cancel]
    split <;> rfl
  | resume r =>
    rw [handle, World.onResume]
    split
    · rfl
    · split
      · simp only [Registry.evict]
        split
        · exact (KeyMap.get?_erase _ _ _).trans (if_neg hne)
        · rfl
      · rw [attach]
        rcases w.registry.registerIfAbsent_eq r.key with ⟨-, heq⟩ | ⟨-, heq⟩ <;> rw [heq]
        exact hissue w.registry

/-- A monitor that goes on with its lease leaves the world staffed. -/
theorem Staffed.putMonitor (hw : w.Staffed) (hm : w.monitors[number]? = some m)
    (hlease : m'.lease = m.lease) (hover : m.isOver = false) :
    (w.putMonitor number m').Staffed := by
  have hgoverned : (w.putMonitor number m').Governed :=
    Governed.putMonitor hw.toGoverns hm hlease hover
  exact Registry.Staffed.set hw hm hlease hgoverned

/-- An attended run has a monitor that is recorded and at work. -/
theorem Staffed.exists_worksFor (hw : w.Staffed) (hattends : w.registry.attends k = true) :
    ∃ i, w.WorksFor i k ∧ w.RecordedFor i k := by
  obtain ⟨id, hid, hcancelled⟩ := Registry.attends_eq_true_iff.1 hattends
  obtain ⟨i, m, hm, hlease, hover⟩ := hw.held hid
  refine ⟨i, ⟨m, hm, ?_, hover, ?_⟩, ⟨m, hm, ?_, ?_⟩⟩ <;> rw [hlease]
  · exact hcancelled
  · exact hid

end World

end RunOperator
