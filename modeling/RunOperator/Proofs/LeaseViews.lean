import RunOperator.Proofs.Dispatch
import RunOperator.Proofs.KeySets
import RunOperator.Proofs.RunViews

/-!
# What changes of the registry are to a run

Leases are numbered across all runs, and a number is all that a monitor has to ask the registry
about. `Registry.KeepsApart` says that no number stands for two runs, which every operation keeps
up. Hence the reactions of the dispatcher to other runs show nothing of themselves, and those to
the run change its view by what it was before (`view_handle`).
-/

namespace RunOperator

namespace Registry

variable {r r' : Registry} {ms ms' : List Monitor} {k k' : RunKey} {id : Nat} {lease : Lease}

/-! ### Leases of different runs -/

/-- The lease is registered or was given to a monitor. -/
def Knows (r : Registry) (ms : List Monitor) (lease : Lease) : Prop :=
  r.entries.get? lease.key = some lease.id ∨ ∃ m ∈ ms, m.lease = lease

/-- Leases of different runs have different numbers, and no number is known that was not issued. -/
structure KeepsApart (r : Registry) (ms : List Monitor) : Prop where
  issued : ∀ {lease : Lease}, r.Knows ms lease → lease.id < r.nextId
  apart : ∀ {lease lease' : Lease}, r.Knows ms lease → r.Knows ms lease' →
    lease.id = lease'.id → lease.key = lease'.key
  cancelledIssued : ∀ {id : Nat}, r.isCancelled id = true → id < r.nextId

/-- The empty registry keeps runs apart. -/
theorem keepsApart_empty : Registry.empty.KeepsApart [] := by
  have hnone {lease : Lease} : ¬ Registry.empty.Knows [] lease := by
    rintro (h | ⟨m, hm, -⟩)
    · cases h
    · cases hm
  constructor
  · exact fun h => absurd h hnone
  · exact fun h => absurd h hnone
  · intro id h
    cases h

/-- The leases stay apart when no others become known. -/
theorem KeepsApart.fewer (h : r.KeepsApart ms)
    (hknown : ∀ {lease : Lease}, r'.Knows ms' lease → r.Knows ms lease)
    (hnext : r'.nextId = r.nextId)
    (hcancelled : ∀ {id : Nat}, r'.isCancelled id = true → id < r.nextId) :
    r'.KeepsApart ms' where
  issued := by
    intro lease hlease
    rw [hnext]
    exact h.issued (hknown hlease)
  apart := fun hlease hlease' => h.apart (hknown hlease) (hknown hlease')
  cancelledIssued := by
    intro id hid
    rw [hnext]
    exact hcancelled hid

/-- Runs stay apart while registrations fade, if no token is cancelled that was not issued. -/
theorem KeepsApart.fades (h : r.KeepsApart ms) (hfades : r.Fades r')
    (hcancelled : ∀ {id : Nat}, r'.isCancelled id = true → id < r.nextId) :
    r'.KeepsApart ms :=
  h.fewer (fun hlease => hlease.imp_left hfades.old) hfades.nextId hcancelled

/-- A registered lease was issued. -/
theorem KeepsApart.lt_nextId (h : r.KeepsApart ms) (hid : r.entries.get? k = some id) :
    id < r.nextId := by
  have hknown : r.Knows ms ⟨k, id⟩ := Or.inl hid
  exact h.issued hknown

/-- A token that is cancelled when a registered one is was issued. -/
theorem KeepsApart.lt_of_cancelId (h : r.KeepsApart ms) {own : Nat}
    (hown : r.entries.get? k = some own) (hid : (r.cancelId own).isCancelled id = true) :
    id < r.nextId := by
  rw [isCancelled_cancelId, Bool.or_eq_true, beq_iff_eq] at hid
  rcases hid with rfl | hid
  · exact h.lt_nextId hown
  · exact h.cancelledIssued hid

/-- Cancelling the token of a registration keeps runs apart. -/
theorem KeepsApart.cancelId (h : r.KeepsApart ms) (hid : r.entries.get? k = some id) :
    (r.cancelId id).KeepsApart ms :=
  h.fades (fades_cancelId r id) (h.lt_of_cancelId hid)

/-- Cancelling a registration keeps runs apart. -/
theorem KeepsApart.cancel (h : r.KeepsApart ms) (k : RunKey) : (r.cancel k).2.KeepsApart ms := by
  unfold Registry.cancel
  split
  · next own hown => exact h.cancelId hown
  · exact h

/-- Evicting a registration keeps runs apart. -/
theorem KeepsApart.evict (h : r.KeepsApart ms) (k : RunKey) : (r.evict k).2.KeepsApart ms := by
  refine h.fades (r.fades_evict k) ?_
  intro id hid
  unfold Registry.evict at hid
  split at hid
  · next own hown => exact h.lt_of_cancelId hown hid
  · exact h.cancelledIssued hid

/-- Cancelling a registration leaves its entry. -/
@[simp] theorem entries_cancel (r : Registry) (k : RunKey) :
    (r.cancel k).2.entries = r.entries := by
  unfold Registry.cancel
  split <;> rfl

/-- Who evicts a run cancels its lease and takes its entry away. -/
theorem evict_eq (r : Registry) (k : RunKey) :
    (r.evict k).2 = { (r.cancel k).2 with entries := r.entries.erase k } := by
  unfold Registry.evict Registry.cancel
  split
  · rfl
  · next hnone =>
    have herase : r.entries.erase k = r.entries := by
      refine KeyMap.ext_get? fun k' => ?_
      rw [KeyMap.get?_erase]
      split
      · next heq => rw [← heq, hnone]
      · rfl
    rw [herase]

/-- All that are registered are cancelled, and those that were cancelled before. -/
theorem isCancelled_cancelAll_iff :
    r.cancelAll.2.isCancelled id = true ↔
      (∃ k, r.entries.get? k = some id) ∨ r.isCancelled id = true := by
  simp only [isCancelled, cancelAll, List.contains_eq_mem, decide_eq_true_eq, List.mem_append,
    KeyMap.values, List.mem_map]
  refine or_congr_left ⟨?_, ?_⟩
  · rintro ⟨⟨k, id'⟩, hmem, rfl⟩
    exact ⟨k, KeyMap.mem_entries_iff.1 hmem⟩
  · rintro ⟨k, hk⟩
    exact ⟨(k, id), KeyMap.mem_entries_iff.2 hk, rfl⟩

/-- Cancelling all registrations keeps runs apart. -/
theorem KeepsApart.cancelAll (h : r.KeepsApart ms) : r.cancelAll.2.KeepsApart ms := by
  refine h.fades r.fades_cancelAll ?_
  intro id hid
  rcases isCancelled_cancelAll_iff.1 hid with ⟨k, hk⟩ | hid
  · exact h.lt_nextId hk
  · exact h.cancelledIssued hid

private theorem knows_issue (h : (r.issue k).2.Knows ms lease) :
    lease = ⟨k, r.nextId⟩ ∨ r.Knows ms lease := by
  rcases h with h | h
  · rw [get?_issue] at h
    split at h
    · next heq => exact Or.inl (by rw [heq, Option.some.inj h])
    · exact Or.inr (Or.inl h)
  · exact Or.inr (Or.inr h)

/-- Issuing a lease keeps runs apart. -/
theorem KeepsApart.issue (h : r.KeepsApart ms) (k : RunKey) :
    (r.issue k).2.KeepsApart ms where
  issued := by
    intro lease hlease
    rcases knows_issue hlease with rfl | hlease
    · exact Nat.lt_succ_self _
    · exact Nat.lt_succ_of_lt (h.issued hlease)
  apart := by
    intro lease lease' hlease hlease' hid
    rcases knows_issue hlease with rfl | hlease <;> rcases knows_issue hlease' with rfl | hlease'
    · rfl
    · exact absurd hid.symm (Nat.ne_of_lt (h.issued hlease'))
    · exact absurd hid (Nat.ne_of_lt (h.issued hlease))
    · exact h.apart hlease hlease' hid
  cancelledIssued := fun hid => Nat.lt_succ_of_lt (h.cancelledIssued hid)

/-- Who replaces a registration cancels what is registered and is issued the next lease. -/
theorem registerReplacing_eq_issue (r : Registry) (k : RunKey) :
    r.registerReplacing k = (r.cancel k).2.issue k := by
  unfold Registry.registerReplacing Registry.cancel
  split <;> rfl

/-- Releasing a lease keeps runs apart. -/
theorem KeepsApart.release (h : r.KeepsApart ms) (lease : Lease) :
    (r.release lease).KeepsApart ms := by
  refine h.fewer ?_ (nextId_release r lease) ?_
  · rintro lease' (hlease | hlease)
    · rw [get?_release] at hlease
      split at hlease
      · cases hlease
      · exact Or.inl hlease
    · exact Or.inr hlease
  · intro id hid
    rw [isCancelled_release] at hid
    exact h.cancelledIssued hid

/-- Monitors may go on, or be started on leases that are registered. -/
theorem KeepsApart.staff (h : r.KeepsApart ms)
    (hstaff : ∀ m ∈ ms', (∃ m₀ ∈ ms, m₀.lease = m.lease) ∨
      r.entries.get? m.lease.key = some m.lease.id) : r.KeepsApart ms' := by
  refine h.fewer ?_ rfl h.cancelledIssued
  rintro lease (hlease | ⟨m, hm, rfl⟩)
  · exact Or.inl hlease
  · rcases hstaff m hm with hbefore | hentry
    · exact Or.inr hbefore
    · exact Or.inl hentry

/-- The number that is issued next is not cancelled. -/
theorem KeepsApart.isCancelled_nextId (h : r.KeepsApart ms) : r.isCancelled r.nextId = false := by
  cases hcancelled : r.isCancelled r.nextId with
  | false => rfl
  | true => exact absurd (h.cancelledIssued hcancelled) (Nat.lt_irrefl _)

/-- A number that is registered for one run and known for another is that of one run. -/
theorem KeepsApart.key_eq (h : r.KeepsApart ms) (hid : r.entries.get? k' = some id)
    (hlease : r.Knows ms ⟨k, id⟩) : k' = k := by
  have hknown : r.Knows ms ⟨k', id⟩ := Or.inl hid
  exact h.apart hknown hlease rfl

end Registry

/-! ### The registry as a run sees it -/

namespace MonitorView

/-- The object that the monitor carries is not the stored one any more. -/
def stale (m : MonitorView) : MonitorView := { m with current := false }

/-- The lease that is registered was cancelled. -/
def warned (m : MonitorView) : MonitorView := { m with cancelled := m.cancelled || m.registered }

/-- No lease of a monitor is registered. -/
def unregistered (m : MonitorView) : MonitorView := { m with registered := false }

end MonitorView

namespace RunView

variable (v : RunView)

/-- The registered lease is cancelled. -/
def cancel : RunView :=
  { v with entry := v.entry.map fun _ => true, team := v.team.map MonitorView.warned }

/-- The entry goes. -/
def vacate : RunView :=
  { v with entry := none, team := v.team.map MonitorView.unregistered }

/-- A lease is issued. -/
def issue : RunView :=
  { v with entry := some false, team := v.team.map MonitorView.unregistered }

/-- A monitor is started on the lease that was issued last. -/
def start (k : RunKey) : RunView :=
  { v with
    team := v.team ++ [⟨Monitor.start v.settings v.clock ⟨k, 0⟩, false, true, false⟩] }

/-- The view after a reaction of the dispatcher. -/
def handle : RunEvent → RunView
  | .create k => v.cancel.issue.start k
  | .resume r =>
    match r.state with
    | .error _ => v
    | .ok s =>
      if s.isFinal then v.cancel.vacate
      else if v.entry.isSome then v
      else v.issue.start r.key
  | .delete _ => v.cancel

/-- The view after a change of the registry that concerns the run. -/
def changeRegistry : RegistryChange → RunView
  | .register _ => if v.entry.isSome then v else v.issue
  | .registerReplacing _ => v.cancel.issue
  | .cancel _ | .cancelAll => v.cancel
  | .evict _ => v.cancel.vacate
  | .cancelToken _ | .release _ => v

end RunView

/-- Nobody outside cancels a lease by its number or releases one of the run: numbers of leases are
shared by all runs. -/
def RegistryChange.Separable (k : RunKey) : RegistryChange → Prop
  | .cancelToken _ => False
  | .release lease => lease.key ≠ k
  | _ => True

namespace World

variable {w : World} {k k' : RunKey} {r : Registry}

/-- The leases of different runs have different numbers. -/
def KeepsApart (w : World) : Prop := w.registry.KeepsApart w.monitors

/-- When the store and the registry change, what matters to a run is what becomes of its entry and
of what its monitors show. -/
theorem view_update {s : Store} {entry : Option Bool} {g : MonitorView → MonitorView}
    (hentry : (r.entries.get? k).map r.isCancelled = entry)
    (hteam : ∀ m ∈ w.monitors, m.lease.key = k → m.view r s = g (m.view w.registry w.store)) :
    { w with registry := r, store := s }.view k =
      { w.view k with store := s.view k, entry, team := (w.view k).team.map g } := by
  have hmap : (w.monitorsOf k).map (Monitor.view r s) =
      ((w.monitorsOf k).map (Monitor.view w.registry w.store)).map g := by
    rw [List.map_map]
    refine List.map_congr_left fun m hm => ?_
    obtain ⟨hmem, hkey⟩ := List.mem_filter.1 hm
    exact hteam m hmem (beq_iff_eq.1 hkey)
  simp only [view, hentry]
  congr 1

/-- A change of the registry that leaves the leases of a run alone shows nothing of itself. -/
theorem view_registry_of_other (hentry : r.entries.get? k = w.registry.entries.get? k)
    (hcancelled : ∀ {id}, w.registry.Knows w.monitors ⟨k, id⟩ →
      r.isCancelled id = w.registry.isCancelled id) :
    { w with registry := r }.view k = w.view k := by
  have hview : { w with registry := r }.view k =
      { w.view k with entry := (w.view k).entry, team := (w.view k).team.map id } := by
    refine view_update (s := w.store) ?_ ?_
    · rw [hentry, view]
      cases hid : w.registry.entries.get? k with
      | none => rfl
      | some id => exact congrArg some (hcancelled (Or.inl hid))
    · rintro m hm rfl
      simp only [Monitor.view, hentry, hcancelled (Or.inr ⟨m, hm, rfl⟩), id_eq]
  rw [hview, List.map_id]

/-- The registered lease of a run is cancelled, and no other lease of it. -/
theorem view_registry_cancel (hentries : r.entries = w.registry.entries)
    (hcancelled : ∀ {id}, w.registry.Knows w.monitors ⟨k, id⟩ → r.isCancelled id =
      (w.registry.isCancelled id || w.registry.entries.get? k == some id)) :
    { w with registry := r }.view k = (w.view k).cancel := by
  refine view_update (s := w.store) ?_ ?_
  · rw [hentries, view]
    cases hid : w.registry.entries.get? k with
    | none => rfl
    | some id =>
      have hwarned := hcancelled (Or.inl hid)
      rw [hid, BEq.rfl, Bool.or_true] at hwarned
      exact congrArg some hwarned
  · rintro m hm rfl
    simp only [Monitor.view, hentries, hcancelled (Or.inr ⟨m, hm, rfl⟩), MonitorView.warned]

/-- The entry of a run is taken away, and none of its leases is cancelled. -/
theorem view_registry_vacate (hentry : r.entries.get? k = none)
    (hcancelled : ∀ {id}, w.registry.Knows w.monitors ⟨k, id⟩ →
      r.isCancelled id = w.registry.isCancelled id) :
    { w with registry := r }.view k = (w.view k).vacate := by
  refine view_update (s := w.store) (by rw [hentry]; rfl) ?_
  rintro m hm rfl
  simp only [Monitor.view, hentry, hcancelled (Or.inr ⟨m, hm, rfl⟩), MonitorView.unregistered]
  rfl

/-- A run sees that it is cancelled, and not that another one is. -/
theorem view_cancel (hw : w.KeepsApart) (k' k : RunKey) :
    { w with registry := (w.registry.cancel k').2 }.view k =
      if k' = k then (w.view k).cancel else w.view k := by
  unfold Registry.cancel
  by_cases heq : k' = k
  · subst heq
    rw [if_pos rfl]
    split
    · next own hown =>
      refine view_registry_cancel rfl ?_
      intro id _
      rw [Registry.isCancelled_cancelId, hown, Bool.or_comm, Bool.beq_comm]
      rfl
    · next hnone =>
      refine view_registry_cancel rfl ?_
      intro id _
      simp [hnone]
  · rw [if_neg heq]
    split
    · next own hown =>
      refine view_registry_of_other rfl ?_
      intro id hlease
      have hne : id ≠ own := by
        rintro rfl
        exact heq (hw.key_eq hown hlease)
      rw [Registry.isCancelled_cancelId, beq_false_of_ne hne, Bool.false_or]
    · rfl

/-- A run sees of the cancellation of all only its own. -/
theorem view_cancelAll (hw : w.KeepsApart) (k : RunKey) :
    { w with registry := w.registry.cancelAll.2 }.view k = (w.view k).cancel := by
  refine view_registry_cancel rfl ?_
  intro id hlease
  rw [Bool.eq_iff_iff, Registry.isCancelled_cancelAll_iff, Bool.or_eq_true, beq_iff_eq, or_comm]
  refine or_congr_right ⟨?_, fun hid => ⟨k, hid⟩⟩
  rintro ⟨k', hid⟩
  obtain rfl : k' = k := hw.key_eq hid hlease
  exact hid

/-- A run sees that it is evicted, and not that another one is. -/
theorem view_evict (hw : w.KeepsApart) (k' k : RunKey) :
    { w with registry := (w.registry.evict k').2 }.view k =
      if k' = k then (w.view k).cancel.vacate else w.view k := by
  have hcancel := view_cancel hw k' k
  rw [Registry.evict_eq]
  by_cases heq : k' = k
  · rw [if_pos heq] at hcancel ⊢
    rw [← hcancel]
    refine view_registry_vacate (w := { w with registry := (w.registry.cancel k').2 }) ?_
      fun _ => rfl
    rw [KeyMap.get?_erase, if_pos heq]
  · rw [if_neg heq] at hcancel ⊢
    rw [← hcancel]
    refine view_registry_of_other (w := { w with registry := (w.registry.cancel k').2 }) ?_
      fun _ => rfl
    rw [KeyMap.get?_erase, if_neg heq, Registry.entries_cancel]

/-- A run sees that a lease is issued for it, and not that one is issued for another. -/
theorem view_issue (hw : w.KeepsApart) (k' k : RunKey) :
    { w with registry := (w.registry.issue k').2 }.view k =
      if k' = k then (w.view k).issue else w.view k := by
  split
  · next heq =>
    subst heq
    refine view_update (s := w.store) ?_ ?_
    · rw [Registry.get?_issue, if_pos rfl, Option.map_some]
      exact congrArg some hw.isCancelled_nextId
    · rintro m hm rfl
      have hne : w.registry.nextId ≠ m.lease.id :=
        (Nat.ne_of_lt (hw.issued (Or.inr ⟨m, hm, rfl⟩))).symm
      simp only [Monitor.view, Registry.get?_issue, if_true, MonitorView.unregistered,
        Option.some_beq_some, beq_false_of_ne hne]
      rfl
  · next hne =>
    refine view_registry_of_other ?_ fun _ => rfl
    rw [Registry.get?_issue, if_neg hne]

/-- A release takes away the entry of its own lease and shows nothing else. -/
theorem view_release (lease : Lease) (k : RunKey) :
    { w with registry := w.registry.release lease }.view k =
      if lease.key = k ∧ w.registry.entries.get? k = some lease.id then (w.view k).vacate
      else w.view k := by
  have hentry := w.registry.get?_release lease k
  split
  · next hown =>
    rw [if_pos hown] at hentry
    exact view_registry_vacate hentry fun _ => Registry.isCancelled_release _ _ _
  · next hother =>
    rw [if_neg hother] at hentry
    exact view_registry_of_other hentry fun _ => Registry.isCancelled_release _ _ _

/-! ### Reactions of the dispatcher -/

/-- A run sees the monitor that is started for it, and not one that is started for another. -/
theorem view_spawn {lease : Lease} (hentry : w.registry.entries.get? lease.key = some lease.id)
    (hfresh : w.registry.isCancelled lease.id = false) (k : RunKey) :
    (w.spawn lease).view k = if lease.key = k then (w.view k).start k else w.view k := by
  split
  · next heq =>
    subst heq
    simp [view, spawn, monitorsOf, List.filter_append, Monitor.isFor, Monitor.start, RunView.start,
      Monitor.view, Monitor.bare, Phase.bare, Phase.run?, hentry, hfresh]
  · next hne =>
    have hother : (lease.key == k) = false := beq_false_of_ne hne
    simp [view, spawn, monitorsOf, List.filter_append, Monitor.isFor, Monitor.start, hother]

/-- A lease is issued and a monitor is started on it. -/
theorem view_issue_spawn (hw : w.KeepsApart) (k' k : RunKey) :
    ({ w with registry := (w.registry.issue k').2 }.spawn (w.registry.issue k').1).view k =
      if k' = k then (w.view k).issue.start k else w.view k := by
  rw [view_spawn (by exact (w.registry.get?_issue k' k').trans (if_pos rfl)) hw.isCancelled_nextId,
    view_issue hw]
  by_cases heq : k' = k
  · simp [Registry.issue, heq]
  · simp [Registry.issue, heq]

/-- A run sees whether it is registered. -/
theorem isSome_entry (w : World) (k : RunKey) :
    (w.view k).entry.isSome = w.registry.contains k := Option.isSome_map

/-- A run that is not registered gets a monitor. -/
theorem view_attach (hw : w.KeepsApart) (k' k : RunKey) :
    (w.attach k').view k =
      if k' = k ∧ (w.view k).entry.isSome = false then (w.view k).issue.start k else w.view k := by
  rw [isSome_entry, attach]
  rcases w.registry.registerIfAbsent_eq k' with ⟨hcontains, hrefused⟩ | ⟨hnone, hissued⟩
  · rw [hrefused, if_neg]
    rintro ⟨rfl, habsent⟩
    exact Bool.false_ne_true (habsent.symm.trans hcontains)
  · rw [hissued]
    refine (view_issue_spawn hw k' k).trans ?_
    by_cases heq : k' = k
    · have habsent : w.registry.contains k = false := by
        rw [Registry.contains, KeyMap.contains, ← heq, hnone]
        rfl
      rw [if_pos heq, if_pos ⟨heq, habsent⟩]
    · rw [if_neg heq, if_neg fun h => heq h.1]

/-- A reaction of the dispatcher to an event about the run changes its view by what it was before,
and a reaction to any other event leaves it. -/
theorem view_handle (hw : w.KeepsApart) (e : RunEvent) (k : RunKey) :
    (w.handle e).view k = (e.about k).elim (w.view k) (w.view k).handle := by
  cases e with
  | create k' =>
    have hcancelled : { w with registry := (w.registry.cancel k').2 }.KeepsApart :=
      Registry.KeepsApart.cancel hw k'
    have hspawn := view_issue_spawn hcancelled k' k
    rw [view_cancel hw] at hspawn
    rw [handle, onCreate, Registry.registerReplacing_eq_issue]
    refine hspawn.trans ?_
    rw [RunEvent.about]
    split
    · next heq =>
      subst heq
      rfl
    · rfl
  | delete k' =>
    rw [handle, onDelete]
    dsimp only
    rw [view_cancel hw, RunEvent.about]
    split <;> rfl
  | resume r =>
    rw [handle, onResume, RunEvent.about]
    by_cases heq : r.key = k
    · subst heq
      rw [if_pos rfl, Option.elim_some, RunView.handle, Run.state_bare, Run.key_bare]
      cases r.state with
      | error e => rfl
      | ok s =>
        dsimp only
        by_cases hfinal : s.isFinal = true
        · rw [if_pos hfinal, if_pos hfinal, view_evict hw, if_pos rfl]
        · rw [if_neg hfinal, if_neg hfinal, view_attach hw]
          cases (w.view r.key).entry.isSome <;> simp
    · rw [if_neg heq, Option.elim_none]
      split
      · rfl
      · split
        · rw [view_evict hw, if_neg heq]
        · rw [view_attach hw, if_neg fun h => heq h.1]

/-- A monitor that is started keeps runs apart. -/
theorem KeepsApart.spawn {lease : Lease} (hw : w.KeepsApart)
    (hentry : w.registry.entries.get? lease.key = some lease.id) : (w.spawn lease).KeepsApart := by
  refine Registry.KeepsApart.staff hw ?_
  intro m hm
  rcases List.mem_append.1 hm with hm | hm
  · exact Or.inl ⟨m, hm, rfl⟩
  · obtain rfl := List.mem_singleton.1 hm
    exact Or.inr hentry

private theorem KeepsApart.issue_spawn {r : Registry} (hr : r.KeepsApart w.monitors) (k : RunKey) :
    ({ w with registry := (r.issue k).2 }.spawn (r.issue k).1).KeepsApart := by
  have hissued : { w with registry := (r.issue k).2 }.KeepsApart := hr.issue k
  exact hissued.spawn ((r.get?_issue k k).trans (if_pos rfl))

/-- A reaction to an event keeps runs apart. -/
theorem KeepsApart.handle (hw : w.KeepsApart) (e : RunEvent) : (w.handle e).KeepsApart := by
  cases e with
  | create k =>
    rw [World.handle, onCreate, Registry.registerReplacing_eq_issue]
    exact KeepsApart.issue_spawn (Registry.KeepsApart.cancel hw k) k
  | delete k => exact Registry.KeepsApart.cancel hw k
  | resume r =>
    rw [World.handle, onResume]
    split
    · exact hw
    · split
      · exact Registry.KeepsApart.evict hw r.key
      · rw [attach]
        rcases w.registry.registerIfAbsent_eq r.key with ⟨-, heq⟩ | ⟨-, heq⟩ <;> rw [heq]
        · exact hw
        · exact KeepsApart.issue_spawn hw r.key

/-- What a run sees of the reactions to some events are those to the events about it. -/
theorem view_foldl_handle (hw : w.KeepsApart) (events : List RunEvent) (k : RunKey) :
    (events.foldl World.handle w).view k =
      (events.filterMap (RunEvent.about k)).foldl RunView.handle (w.view k) := by
  induction events generalizing w with
  | nil => rfl
  | cons e events ih =>
    rw [List.foldl_cons, ih (hw.handle e), view_handle hw, List.filterMap_cons]
    cases e.about k <;> rfl

/-- Reactions to events keep runs apart. -/
theorem KeepsApart.foldl_handle (hw : w.KeepsApart) (events : List RunEvent) :
    (events.foldl World.handle w).KeepsApart := by
  induction events generalizing w with
  | nil => exact hw
  | cons e events ih => exact ih (hw.handle e)

/-! ### Changes from outside -/

/-- A change of the registry that is about the run changes its view by what it was before, and any
other leaves it. -/
theorem view_changeRegistry {c : RegistryChange} (hw : w.KeepsApart) (hc : c.Separable k) :
    { w with registry := w.registry.change c }.view k =
      (c.about k).elim (w.view k) (w.view k).changeRegistry := by
  cases c with
  | register k' =>
    rw [Registry.change, RegistryChange.about]
    rcases w.registry.registerIfAbsent_eq k' with ⟨hcontains, heq⟩ | ⟨hnone, heq⟩
    · rw [heq]
      split
      · next hkey =>
        subst hkey
        rw [Option.elim_some, RunView.changeRegistry, isSome_entry, if_pos hcontains]
      · rfl
    · rw [heq, view_issue hw]
      split
      · next hkey =>
        subst hkey
        have habsent : (w.view k').entry = none := by rw [view, hnone, Option.map_none]
        rw [Option.elim_some, RunView.changeRegistry, habsent]
        rfl
      · rfl
  | registerReplacing k' =>
    have hcancelled : { w with registry := (w.registry.cancel k').2 }.KeepsApart :=
      Registry.KeepsApart.cancel hw k'
    have hissue := view_issue hcancelled k' k
    rw [view_cancel hw] at hissue
    rw [Registry.change, Registry.registerReplacing_eq_issue, RegistryChange.about]
    refine hissue.trans ?_
    split <;> rfl
  | cancel k' =>
    rw [Registry.change, view_cancel hw, RegistryChange.about]
    split <;> rfl
  | evict k' =>
    rw [Registry.change, view_evict hw, RegistryChange.about]
    split <;> rfl
  | cancelAll => exact view_cancelAll hw k
  | cancelToken id => cases hc
  | release lease =>
    rw [Registry.change, view_release, RegistryChange.about, if_neg hc, if_neg fun h => hc h.1]
    rfl

/-- A change of the registry that a run may be separated from keeps runs apart. -/
theorem KeepsApart.changeRegistry {c : RegistryChange} (hw : w.KeepsApart) (hc : c.Separable k) :
    { w with registry := w.registry.change c }.KeepsApart := by
  cases c with
  | register k' =>
    rw [Registry.change]
    rcases w.registry.registerIfAbsent_eq k' with ⟨-, heq⟩ | ⟨-, heq⟩ <;> rw [heq]
    · exact hw
    · exact Registry.KeepsApart.issue hw k'
  | registerReplacing k' =>
    rw [Registry.change, Registry.registerReplacing_eq_issue]
    exact (Registry.KeepsApart.cancel hw k').issue k'
  | cancel k' => exact Registry.KeepsApart.cancel hw k'
  | evict k' => exact Registry.KeepsApart.evict hw k'
  | cancelAll => exact Registry.KeepsApart.cancelAll hw
  | cancelToken id => cases hc
  | release lease => exact Registry.KeepsApart.release hw lease

end World

end RunOperator
