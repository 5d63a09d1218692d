import RunOperator.Proofs.Dispatch

/-!
# Who holds which lease

Whoever starts monitors, each holds a lease of its own, and the lease of a monitor that is active is
registered (`backed_act`), as long as leases are not copied. Leases are issued once: an entry of the
registry that is gone does not come back (`precedes_act`).
-/

namespace RunOperator

namespace Registry

variable {r r' r'' : Registry} {ms : List Monitor} {k : RunKey} {id : Nat} {lease : Lease}

/-! ### Leases are held once -/

/-- The leases of the monitors were issued, no two hold the same one, and the lease of a monitor that
is active is registered. -/
structure Backs (r : Registry) (ms : List Monitor) : Prop where
  issued : ∀ {i : Nat} {m : Monitor}, ms[i]? = some m → m.lease.id < r.nextId
  unique : ∀ {i j : Nat} {m m' : Monitor}, ms[i]? = some m → ms[j]? = some m' →
    m.lease.id = m'.lease.id → i = j
  registered : ∀ {i : Nat} {m : Monitor}, ms[i]? = some m → m.ActiveIn r →
    r.entries.get? m.lease.key = some m.lease.id

/-- No monitors need no registrations. -/
theorem backs_nil (r : Registry) : r.Backs [] := by
  constructor <;> intros <;> simp_all

/-- Registrations that fade still back the monitors. -/
theorem Backs.fades (h : r.Backs ms) (hfades : r.Fades r') : r'.Backs ms where
  issued := by
    intro i m hm
    rw [hfades.nextId]
    exact h.issued hm
  unique := h.unique
  registered := by
    intro i m hm hactive
    rcases hfades.kept (h.registered hm (hfades.active hactive)) with hkept | hcancelled
    · exact hkept
    · exact absurd hactive.2 (by simp [hcancelled])

/-- A lease may be issued for a run whose registered lease was cancelled. -/
theorem Backs.issue (h : r.Backs ms)
    (hcancelled : ∀ {id}, r.entries.get? k = some id → r.isCancelled id = true) :
    (r.issue k).2.Backs ms where
  issued := fun hm => Nat.lt_succ_of_lt (h.issued hm)
  unique := h.unique
  registered := by
    intro i m hm hactive
    have hentry := h.registered hm hactive
    rw [get?_issue, if_neg]
    · exact hentry
    · rintro rfl
      cases (hcancelled hentry).symm.trans hactive.2

/-- A monitor may be started on a lease that was issued, that is registered unless it was cancelled,
and that no other monitor holds. -/
theorem Backs.start {m : Monitor} (h : r.Backs ms) (hissued : m.lease.id < r.nextId)
    (hfree : ∀ m' ∈ ms, m'.lease.id ≠ m.lease.id)
    (hregistered : m.ActiveIn r → r.entries.get? m.lease.key = some m.lease.id) :
    r.Backs (ms ++ [m]) where
  issued := by
    intro i m' hm'
    rcases Monitor.getElem?_concat_cases hm' with ⟨-, hm'⟩ | ⟨-, rfl⟩
    · exact h.issued hm'
    · exact hissued
  unique := by
    intro i j m₁ m₂ hm₁ hm₂ hid
    rcases Monitor.getElem?_concat_cases hm₁ with ⟨-, hm₁⟩ | ⟨hi, rfl⟩ <;>
      rcases Monitor.getElem?_concat_cases hm₂ with ⟨-, hm₂⟩ | ⟨hj, rfl⟩
    · exact h.unique hm₁ hm₂ hid
    · exact absurd hid (hfree m₁ (List.mem_of_getElem? ‹ms[i]? = some m₁›))
    · exact absurd hid.symm (hfree m₂ (List.mem_of_getElem? ‹ms[j]? = some m₂›))
    · rw [hi, hj]
  registered := by
    intro i m' hm' hactive
    rcases Monitor.getElem?_concat_cases hm' with ⟨-, hm'⟩ | ⟨-, rfl⟩
    · exact h.registered hm' hactive
    · exact hregistered hactive

/-- Monitors may go on with what they do. -/
theorem Backs.carry {i : Nat} {m m' : Monitor} (h : r.Backs ms) (hm : ms[i]? = some m)
    (hlease : m'.lease = m.lease) (hover : m.isOver = false) : r.Backs (ms.set i m') := by
  have hcarries : Carries ms (ms.set i m') := carries_set hm hlease hover
  constructor
  · intro j m₁' hm₁'
    obtain ⟨m₁, hm₁, hlease₁, -⟩ := hcarries hm₁'
    rw [hlease₁]
    exact h.issued hm₁
  · intro j₁ j₂ m₁' m₂' hm₁' hm₂' hid
    obtain ⟨m₁, hm₁, hlease₁, -⟩ := hcarries hm₁'
    obtain ⟨m₂, hm₂, hlease₂, -⟩ := hcarries hm₂'
    rw [hlease₁, hlease₂] at hid
    exact h.unique hm₁ hm₂ hid
  · intro j m₁' hm₁' hactive
    obtain ⟨m₁, hm₁, hlease₁, hover₁⟩ := hcarries hm₁'
    rw [hlease₁]
    exact h.registered hm₁ ⟨hover₁ hactive.1, hlease₁ ▸ hactive.2⟩

/-- A lease may be released when no active monitor holds it. -/
theorem Backs.release (h : r.Backs ms)
    (hidle : ∀ m ∈ ms, m.lease.id = lease.id → m.isOver = true) : (r.release lease).Backs ms where
  issued := by
    intro i m hm
    rw [nextId_release]
    exact h.issued hm
  unique := h.unique
  registered := by
    intro i m hm hactive
    have hentry := h.registered hm ⟨hactive.1, isCancelled_release r lease _ ▸ hactive.2⟩
    rw [get?_release, if_neg]
    · exact hentry
    · rintro ⟨-, hown⟩
      have hover := hidle m (List.mem_of_getElem? hm) (Option.some.inj (hentry.symm.trans hown))
      exact absurd hactive.1 (by simp [hover])

/-- Others may register runs, cancel leases, and release those that no active monitor holds. -/
theorem Backs.change {c : RegistryChange} (h : r.Backs ms)
    (hrelease : ∀ lease, c = .release lease → ∀ m ∈ ms, m.lease.id = lease.id → m.isOver = true) :
    (r.change c).Backs ms := by
  cases c with
  | register k =>
    rw [Registry.change]
    rcases r.registerIfAbsent_eq k with ⟨-, heq⟩ | ⟨hnone, heq⟩ <;> rw [heq]
    · exact h
    · refine h.issue ?_
      intro id hid
      cases hnone.symm.trans hid
  | registerReplacing k =>
    obtain ⟨r', hfades, heq, hcancelled⟩ := r.registerReplacing_eq k
    rw [Registry.change, heq]
    exact (h.fades hfades).issue fun hid => hcancelled (hfades.old hid)
  | cancel k => exact h.fades (r.fades_cancel k)
  | evict k => exact h.fades (r.fades_evict k)
  | cancelAll => exact h.fades r.fades_cancelAll
  | cancelToken id => exact h.fades (r.fades_cancelId id)
  | release lease => exact h.release (hrelease lease rfl)

/-! ### Entries do not come back -/

/-- Only leases that are issued from now on are entered. -/
structure Precedes (r r' : Registry) : Prop where
  nextId : r.nextId ≤ r'.nextId
  old : ∀ {k id}, r'.entries.get? k = some id → id < r.nextId → r.entries.get? k = some id

/-- A registry comes before itself. -/
theorem Precedes.refl (r : Registry) : r.Precedes r := ⟨Nat.le_refl _, fun h _ => h⟩

/-- What comes before a later registry comes before the still later one. -/
theorem Precedes.trans (h : r.Precedes r') (h' : r'.Precedes r'') : r.Precedes r'' where
  nextId := Nat.le_trans h.nextId h'.nextId
  old := fun hid hlt => h.old (h'.old hid (Nat.lt_of_lt_of_le hlt h.nextId)) hlt

private theorem Fades.precedes (h : r.Fades r') : r.Precedes r' where
  nextId := Nat.le_of_eq h.nextId.symm
  old := fun hid _ => h.old hid

private theorem precedes_issue (r : Registry) (k : RunKey) : r.Precedes (r.issue k).2 where
  nextId := Nat.le_succ _
  old := by
    intro k' id hid hlt
    rw [get?_issue] at hid
    split at hid
    · cases hid
      exact absurd hlt (Nat.lt_irrefl _)
    · exact hid

private theorem precedes_release (r : Registry) (lease : Lease) : r.Precedes (r.release lease) where
  nextId := Nat.le_of_eq (nextId_release r lease).symm
  old := by
    intro k id hid _
    rw [get?_release] at hid
    split at hid
    · cases hid
    · exact hid

/-- A registry comes before what any change makes of it. -/
theorem precedes_change (r : Registry) (c : RegistryChange) : r.Precedes (r.change c) := by
  cases c with
  | register k =>
    rw [change]
    rcases r.registerIfAbsent_eq k with ⟨-, heq⟩ | ⟨-, heq⟩ <;> rw [heq]
    · exact Precedes.refl r
    · exact precedes_issue r k
  | registerReplacing k =>
    obtain ⟨r', hfades, heq, -⟩ := r.registerReplacing_eq k
    rw [change, heq]
    exact hfades.precedes.trans (precedes_issue r' k)
  | cancel k => exact (r.fades_cancel k).precedes
  | evict k => exact (r.fades_evict k).precedes
  | cancelAll => exact r.fades_cancelAll.precedes
  | cancelToken id => exact (r.fades_cancelId id).precedes
  | release lease => exact precedes_release r lease

/-- After its release the entry of a lease is gone. -/
theorem get?_release_ne (r : Registry) (lease : Lease) :
    (r.release lease).entries.get? lease.key ≠ some lease.id := by
  rw [get?_release]
  split
  · simp
  · next hnot => exact fun h => hnot ⟨rfl, h⟩

/-- The release of a lease leaves the entries of others. -/
theorem get?_release_eq_some_iff (hne : id ≠ lease.id) :
    (r.release lease).entries.get? k = some id ↔ r.entries.get? k = some id := by
  rw [get?_release]
  split
  · next hown => simp [hown.2, hne.symm]
  · rfl

end Registry

namespace World

variable {w : World} {number : Nat} {m : Monitor} {a : Action}

/-! ### Who holds which lease -/

/-- Leases are not copied: a monitor is started on a lease of this registry that no other monitor
holds and that is registered, unless it was cancelled meanwhile, and a lease that a monitor holds is
released by nobody else. -/
def HandsOn (w : World) : Action → Prop
  | .start lease => lease.id < w.registry.nextId ∧
      (w.registry.entries.get? lease.key = some lease.id ∨
        w.registry.isCancelled lease.id = true) ∧
      ∀ m ∈ w.monitors, m.lease.id ≠ lease.id
  | .registry (.release lease) => ∀ m ∈ w.monitors, m.lease.id = lease.id → m.isOver = true
  | _ => True

/-- The registry backs the monitors. -/
def Backed (w : World) : Prop := w.registry.Backs w.monitors

/-- Reactions to events keep the monitors backed. -/
theorem Backed.handle (hw : w.Backed) (e : RunEvent) : (w.handle e).Backed := by
  rcases handle_cases w e with ⟨r, hfades, heq⟩ | ⟨r, hfades, hcancelled, heq⟩ <;> rw [heq]
  · exact Registry.Backs.fades hw hfades
  · have hfaded : r.Backs w.monitors := Registry.Backs.fades hw hfades
    have hissued : (r.issue e.key).2.Backs w.monitors :=
      hfaded.issue fun hid => hcancelled (hfades.old hid)
    refine hissued.start (Nat.lt_succ_self _) ?_ fun _ => (r.get?_issue _ _).trans (if_pos rfl)
    intro m hm
    obtain ⟨i, hi⟩ := List.mem_iff_getElem?.1 hm
    exact Nat.ne_of_lt (hfaded.issued hi)

/-- A monitor that goes on or ends leaves the monitors backed. -/
theorem Backed.putMonitor {m' : Monitor} (hw : w.Backed) (hm : w.monitors[number]? = some m)
    (hlease : m'.lease = m.lease) (hover : m.isOver = false) :
    (w.putMonitor number m').Backed := by
  have hcarried : w.registry.Backs (w.monitors.set number m') :=
    Registry.Backs.carry hw hm hlease hover
  unfold Backed World.putMonitor
  dsimp only
  split
  · next hend =>
    refine hcarried.release ?_
    intro m'' hm'' hid
    have hself : (w.monitors.set number m')[number]? = some m' := by
      rw [List.getElem?_set_self (List.getElem?_eq_some_iff.1 hm).1]
    obtain ⟨i, hi⟩ := List.mem_iff_getElem?.1 hm''
    obtain rfl := hcarried.unique hi hself hid
    obtain rfl := Option.some.inj (hi.symm.trans hself)
    exact hend
  · exact hcarried

/-- The registry backs the monitors as long as leases are not copied. -/
theorem backed_act (hw : w.Backed) (ha : w.HandsOn a) : (w.act a).Backed := by
  have hstaffs := staffs_act w a
  generalize w.act a = w' at hstaffs ⊢
  cases hstaffs with
  | keeps hregistry hmonitors =>
    rw [Backed, hregistry, hmonitors]
    exact hw
  | moves store hm hlease hover =>
    have hstored : World.Backed { w with store } := hw
    exact hstored.putMonitor hm hlease hover
  | reacts store loops events =>
    have hmoved : World.Backed { w with store, loops } := hw
    exact List.foldlRecOn events handle hmoved fun w hw e _ => hw.handle e
  | dismisses => exact Registry.Backs.fades hw w.registry.fades_cancelAll
  | changes c => exact Registry.Backs.change hw fun lease heq => by rwa [heq] at ha
  | starts lease =>
    obtain ⟨hissued, hentry, hfree⟩ := ha
    refine Registry.Backs.start hw hissued hfree ?_
    rintro ⟨-, huncancelled⟩
    rcases hentry with hentry | hcancelled
    · exact hentry
    · cases hcancelled.symm.trans huncancelled

private theorem precedes_handle (w : World) (e : RunEvent) :
    w.registry.Precedes (w.handle e).registry := by
  rcases handle_cases w e with ⟨r, hfades, heq⟩ | ⟨r, hfades, -, heq⟩ <;> rw [heq]
  · exact hfades.precedes
  · exact hfades.precedes.trans (r.precedes_issue e.key)

private theorem precedes_putMonitor (w : World) (number : Nat) (m : Monitor) :
    w.registry.Precedes (w.putMonitor number m).registry := by
  unfold putMonitor
  dsimp only
  split
  · exact w.registry.precedes_release m.lease
  · exact Registry.Precedes.refl _

/-- An entry that is gone does not come back. -/
theorem precedes_act (w : World) (a : Action) : w.registry.Precedes (w.act a).registry := by
  have hstaffs := staffs_act w a
  generalize w.act a = w' at hstaffs ⊢
  cases hstaffs with
  | keeps hregistry hmonitors =>
    rw [hregistry]
    exact Registry.Precedes.refl _
  | moves store _ _ _ => exact precedes_putMonitor { w with store } _ _
  | reacts store loops events =>
    refine List.foldlRecOn (motive := fun w' => w.registry.Precedes w'.registry) events handle ?_ ?_
    · exact Registry.Precedes.refl _
    · exact fun w' hw' e _ => hw'.trans (precedes_handle w' e)
  | dismisses => exact w.registry.fades_cancelAll.precedes
  | changes c => exact w.registry.precedes_change c
  | starts lease => exact Registry.Precedes.refl _

end World

end RunOperator
