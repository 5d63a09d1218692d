import RunOperator.Proofs.ActionEffects

/-!
# Leases and the monitors that hold them

Leases are numbered in the order in which they are issued. `Registry.Governs` says how the registry
and the monitors stand to each other as long as only the dispatcher starts monitors: a monitor that
is active is the one that is registered for its run, and of two monitors of a run only the later
one can be active. Each operation of the registry keeps this up.
-/

namespace RunOperator

/-- The monitor has not ended and was not told to stop. -/
def Monitor.ActiveIn (m : Monitor) (r : Registry) : Prop :=
  m.isOver = false ∧ r.isCancelled m.lease.id = false

namespace Registry

variable {r r' : Registry} {ms : List Monitor} {k : RunKey} {id : Nat}

/-! ### What the operations do -/

/-- Cancelling a token cancels this token only. -/
theorem isCancelled_cancelId (r : Registry) (id id' : Nat) :
    (r.cancelId id).isCancelled id' = (id' == id || r.isCancelled id') := List.contains_cons

/-- A lease that is issued has the entry of its run. -/
theorem get?_issue (r : Registry) (k k' : RunKey) :
    (r.issue k).2.entries.get? k' = if k = k' then some r.nextId else r.entries.get? k' :=
  KeyMap.get?_insert r.entries k k' r.nextId

/-- Releasing a lease cancels no token. -/
@[simp] theorem isCancelled_release (r : Registry) (lease : Lease) (id : Nat) :
    (r.release lease).isCancelled id = r.isCancelled id := by
  unfold release
  split <;> rfl

/-- Releasing a lease issues no number. -/
@[simp] theorem nextId_release (r : Registry) (lease : Lease) :
    (r.release lease).nextId = r.nextId := by
  unfold release
  split <;> rfl

/-- A release takes the entry of its own lease and no other. -/
theorem get?_release (r : Registry) (lease : Lease) (k : RunKey) :
    (r.release lease).entries.get? k =
      if lease.key = k ∧ r.entries.get? k = some lease.id then none else r.entries.get? k := by
  by_cases hown : r.entries.get? lease.key = some lease.id
  · rw [release, if_pos hown, KeyMap.get?_erase]
    by_cases hkey : lease.key = k
    · rw [if_pos hkey, if_pos ⟨hkey, hkey ▸ hown⟩]
    · rw [if_neg hkey, if_neg fun h => hkey h.1]
  · rw [release, if_neg hown, if_neg]
    rintro ⟨rfl, h⟩
    exact hown h

/-- Leases are cancelled, and entries go only when their leases are cancelled. -/
structure Fades (r r' : Registry) : Prop where
  nextId : r'.nextId = r.nextId
  cancelled : ∀ id, r.isCancelled id = true → r'.isCancelled id = true
  kept : ∀ {k id}, r.entries.get? k = some id →
    r'.entries.get? k = some id ∨ r'.isCancelled id = true
  old : ∀ {k id}, r'.entries.get? k = some id → r.entries.get? k = some id

/-- Nothing fades where nothing happens. -/
theorem Fades.refl (r : Registry) : r.Fades r := ⟨rfl, fun _ h => h, Or.inl, id⟩

/-- Cancelling a token lets registrations fade. -/
theorem fades_cancelId (r : Registry) (id : Nat) : r.Fades (r.cancelId id) := by
  refine ⟨rfl, ?_, Or.inl, fun h => h⟩
  intro id' h
  rw [isCancelled_cancelId, h, Bool.or_true]

/-- Cancelling a registration lets it fade. -/
theorem fades_cancel (r : Registry) (k : RunKey) : r.Fades (r.cancel k).2 := by
  unfold cancel
  split
  · exact fades_cancelId r _
  · exact Fades.refl r

/-- Evicting a registration lets it fade. -/
theorem fades_evict (r : Registry) (k : RunKey) : r.Fades (r.evict k).2 := by
  unfold evict
  split
  · next own hown =>
    refine ⟨rfl, (fades_cancelId r own).cancelled, ?_, ?_⟩
    · intro k' id hid
      by_cases hkey : k = k'
      · subst hkey
        obtain rfl := Option.some.inj (hown.symm.trans hid)
        exact Or.inr (by simp [isCancelled, cancelId])
      · exact Or.inl (by rw [KeyMap.get?_erase, if_neg hkey, hid])
    · intro k' id hid
      rw [KeyMap.get?_erase] at hid
      split at hid
      · cases hid
      · exact hid
  · exact Fades.refl r

/-- Cancelling all registrations lets them fade. -/
theorem fades_cancelAll (r : Registry) : r.Fades r.cancelAll.2 := by
  refine ⟨rfl, ?_, Or.inl, fun h => h⟩
  intro id h
  simp only [isCancelled, cancelAll, List.contains_eq_mem, decide_eq_true_eq] at h ⊢
  exact List.mem_append_right _ h

/-- Who replaces a registration cancels the lease that was registered and is issued the next. -/
theorem registerReplacing_eq (r : Registry) (k : RunKey) :
    ∃ r', r.Fades r' ∧ r.registerReplacing k = r'.issue k ∧
      ∀ {id}, r.entries.get? k = some id → r'.isCancelled id = true := by
  unfold registerReplacing
  split
  · next own hown =>
    refine ⟨r.cancelId own, fades_cancelId r own, rfl, ?_⟩
    intro id hid
    obtain rfl := Option.some.inj (hown.symm.trans hid)
    simp [isCancelled_cancelId]
  · next hnone =>
    refine ⟨r, Fades.refl r, rfl, ?_⟩
    intro id hid
    cases hnone.symm.trans hid

/-- A registration that must not replace another is refused, or there was none. -/
theorem registerIfAbsent_eq (r : Registry) (k : RunKey) :
    (r.contains k = true ∧ r.registerIfAbsent k = (none, r)) ∨
      (r.entries.get? k = none ∧ r.registerIfAbsent k = (some (r.issue k).1, (r.issue k).2)) := by
  unfold registerIfAbsent
  cases hcontains : r.contains k with
  | true => exact Or.inl ⟨rfl, rfl⟩
  | false =>
    refine Or.inr ⟨?_, rfl⟩
    rwa [contains, KeyMap.contains, Option.isSome_eq_false_iff, Option.isNone_iff_eq_none]
      at hcontains

/-! ### What the registry knows of the monitors -/

/-- The leases of the monitors were issued one after the other, an active monitor is registered for
its run, and a monitor is not active when another was started later for the same run. -/
structure Governs (r : Registry) (ms : List Monitor) : Prop where
  issued : ∀ {i : Nat} {m : Monitor}, ms[i]? = some m → m.lease.id < r.nextId
  ordered : ∀ {i j : Nat} {m m' : Monitor}, i < j → ms[i]? = some m → ms[j]? = some m' →
    m.lease.id < m'.lease.id
  registered : ∀ {i : Nat} {m : Monitor}, ms[i]? = some m → m.ActiveIn r →
    r.entries.get? m.lease.key = some m.lease.id
  superseded : ∀ {i j : Nat} {m m' : Monitor}, i < j → ms[i]? = some m → ms[j]? = some m' →
    m.lease.key = m'.lease.key → ¬ m.ActiveIn r

/-- Any registry governs no monitors. -/
theorem governs_nil (r : Registry) : r.Governs [] := by
  constructor <;> intros <;> simp_all

/-- A monitor that is active after registrations have faded was active before. -/
theorem Fades.active {m : Monitor} (h : r.Fades r') (hactive : m.ActiveIn r') :
    m.ActiveIn r := by
  refine ⟨hactive.1, ?_⟩
  cases hcancelled : r.isCancelled m.lease.id with
  | false => rfl
  | true => exact absurd hactive.2 (by simp [h.cancelled _ hcancelled])

/-- Registrations that fade still govern the monitors. -/
theorem Governs.fades (h : r.Governs ms) (hfades : r.Fades r') : r'.Governs ms where
  issued := by
    intro i m hm
    rw [hfades.nextId]
    exact h.issued hm
  ordered := h.ordered
  registered := by
    intro i m hm hactive
    rcases hfades.kept (h.registered hm (hfades.active hactive)) with hkept | hcancelled
    · exact hkept
    · exact absurd hactive.2 (by simp [hcancelled])
  superseded := by
    intro i j m m' hij hm hm' hkey hactive
    exact h.superseded hij hm hm' hkey (hfades.active hactive)

/-- A lease may be issued for a run that has no active monitor. -/
theorem Governs.issue (h : r.Governs ms)
    (hidle : ∀ {i : Nat} {m : Monitor}, ms[i]? = some m → m.lease.key = k → ¬ m.ActiveIn r) :
    (r.issue k).2.Governs ms where
  issued := by
    intro i m hm
    exact Nat.lt_succ_of_lt (h.issued hm)
  ordered := h.ordered
  registered := by
    intro i m hm hactive
    rw [get?_issue, if_neg fun hkey => hidle hm hkey.symm hactive]
    exact h.registered hm hactive
  superseded := h.superseded

/-- A monitor may be started on the lease that was issued last, if its run has no active monitor. -/
theorem Governs.start {m : Monitor} (h : r.Governs ms) (hissued : m.lease.id < r.nextId)
    (hlast : ∀ {i : Nat} {m' : Monitor}, ms[i]? = some m' → m'.lease.id < m.lease.id)
    (hentry : r.entries.get? m.lease.key = some m.lease.id)
    (hidle : ∀ {i : Nat} {m' : Monitor}, ms[i]? = some m' → m'.lease.key = m.lease.key →
      ¬ m'.ActiveIn r) :
    r.Governs (ms ++ [m]) where
  issued := by
    intro i m' hm'
    rcases Monitor.getElem?_concat_cases hm' with ⟨-, hm'⟩ | ⟨-, rfl⟩
    · exact h.issued hm'
    · exact hissued
  ordered := by
    intro i j m₁ m₂ hlt hm₁ hm₂
    rcases Monitor.getElem?_concat_cases hm₂ with ⟨hj, hm₂⟩ | ⟨hj, rfl⟩ <;>
      rcases Monitor.getElem?_concat_cases hm₁ with ⟨-, hm₁⟩ | ⟨hi, rfl⟩
    · exact h.ordered hlt hm₁ hm₂
    · omega
    · exact hlast hm₁
    · omega
  registered := by
    intro i m' hm' hactive
    rcases Monitor.getElem?_concat_cases hm' with ⟨-, hm'⟩ | ⟨-, rfl⟩
    · exact h.registered hm' hactive
    · exact hentry
  superseded := by
    intro i j m₁ m₂ hlt hm₁ hm₂ hkey
    rcases Monitor.getElem?_concat_cases hm₂ with ⟨hj, hm₂⟩ | ⟨hj, rfl⟩ <;>
      rcases Monitor.getElem?_concat_cases hm₁ with ⟨-, hm₁⟩ | ⟨hi, rfl⟩
    · exact h.superseded hlt hm₁ hm₂ hkey
    · omega
    · exact hidle hm₁ hkey
    · omega

/-- The monitors keep their leases, and none that has ended goes on. -/
def Carries (ms ms' : List Monitor) : Prop :=
  ∀ {i : Nat} {m' : Monitor}, ms'[i]? = some m' →
    ∃ m, ms[i]? = some m ∧ m'.lease = m.lease ∧ (m'.isOver = false → m.isOver = false)

/-- Monitors carry on when one of them goes on or ends with its lease. -/
theorem carries_set {i : Nat} {m m' : Monitor} (hm : ms[i]? = some m) (hlease : m'.lease = m.lease)
    (hover : m.isOver = false) : Carries ms (ms.set i m') := by
  intro j m'' hm''
  rcases Monitor.getElem?_set_cases hm'' with ⟨rfl, rfl⟩ | ⟨-, hm''⟩
  · exact ⟨m, hm, hlease, fun _ => hover⟩
  · exact ⟨m'', hm'', rfl, id⟩

/-- Monitors may go on with what they do. -/
theorem Governs.carry {ms' : List Monitor} (h : r.Governs ms) (hcarries : Carries ms ms') :
    r.Governs ms' := by
  constructor
  · intro i m' hm'
    obtain ⟨m, hm, hlease, -⟩ := hcarries hm'
    rw [hlease]
    exact h.issued hm
  · intro i j m₁' m₂' hlt hm₁' hm₂'
    obtain ⟨m₁, hm₁, hlease₁, -⟩ := hcarries hm₁'
    obtain ⟨m₂, hm₂, hlease₂, -⟩ := hcarries hm₂'
    rw [hlease₁, hlease₂]
    exact h.ordered hlt hm₁ hm₂
  · intro i m' hm' hactive
    obtain ⟨m, hm, hlease, hover⟩ := hcarries hm'
    rw [hlease]
    exact h.registered hm ⟨hover hactive.1, hlease ▸ hactive.2⟩
  · intro i j m₁' m₂' hlt hm₁' hm₂' hkey hactive
    obtain ⟨m₁, hm₁, hlease₁, hover⟩ := hcarries hm₁'
    obtain ⟨m₂, hm₂, hlease₂, -⟩ := hcarries hm₂'
    rw [hlease₁, hlease₂] at hkey
    exact h.superseded hlt hm₁ hm₂ hkey ⟨hover hactive.1, hlease₁ ▸ hactive.2⟩

/-- A lease may be released when no active monitor holds it. -/
theorem Governs.release {lease : Lease} (h : r.Governs ms)
    (hidle : ∀ {i : Nat} {m : Monitor}, ms[i]? = some m → m.lease.id = lease.id →
      m.isOver = true) :
    (r.release lease).Governs ms where
  issued := by
    intro i m hm
    rw [nextId_release]
    exact h.issued hm
  ordered := h.ordered
  registered := by
    intro i m hm hactive
    have hentry := h.registered hm ⟨hactive.1, isCancelled_release r lease _ ▸ hactive.2⟩
    rw [get?_release, if_neg]
    · exact hentry
    · -- The entry of an active monitor is not the one that is released.
      rintro ⟨-, hown⟩
      have hover := hidle hm (Option.some.inj (hentry.symm.trans hown))
      exact absurd hactive.1 (by simp [hover])
  superseded := by
    intro i j m m' hlt hm hm' hkey hactive
    exact h.superseded hlt hm hm' hkey ⟨hactive.1, isCancelled_release r lease _ ▸ hactive.2⟩

/-- After the lease that was registered for a run is cancelled, the run has no active monitor. -/
theorem Governs.idle_of_fades (h : r.Governs ms) (hfades : r.Fades r')
    (hcancelled : ∀ {id}, r.entries.get? k = some id → r'.isCancelled id = true) {i : Nat}
    {m : Monitor} (hm : ms[i]? = some m) (hkey : m.lease.key = k) : ¬ m.ActiveIn r' := by
  intro hactive
  have hentry := h.registered hm (hfades.active hactive)
  have hstopped := hcancelled (hkey ▸ hentry)
  exact absurd hactive.2 (by simp [hstopped])

/-- Others may register runs and cancel leases, but not release them. -/
theorem Governs.change {c : RegistryChange} (h : r.Governs ms)
    (hc : ∀ lease, c ≠ .release lease) : (r.change c).Governs ms := by
  cases c with
  | register k =>
    rw [Registry.change]
    rcases r.registerIfAbsent_eq k with ⟨-, heq⟩ | ⟨hnone, heq⟩ <;> rw [heq]
    · exact h
    · refine h.issue ?_
      intro i m hm hkey hactive
      have hentry := h.registered hm hactive
      rw [hkey, hnone] at hentry
      cases hentry
  | registerReplacing k =>
    rw [Registry.change]
    obtain ⟨r', hfades, heq, hcancelled⟩ := r.registerReplacing_eq k
    rw [heq]
    exact (h.fades hfades).issue (h.idle_of_fades hfades hcancelled)
  | cancel k => exact h.fades (r.fades_cancel k)
  | evict k => exact h.fades (r.fades_evict k)
  | cancelAll => exact h.fades r.fades_cancelAll
  | cancelToken id => exact h.fades (r.fades_cancelId id)
  | release lease => exact absurd rfl (hc lease)

/-- A cancelled token stays cancelled, whatever is changed. -/
theorem isCancelled_change (h : r.isCancelled id = true) (c : RegistryChange) :
    (r.change c).isCancelled id = true := by
  cases c with
  | register k =>
    rw [Registry.change]
    rcases r.registerIfAbsent_eq k with ⟨-, heq⟩ | ⟨-, heq⟩ <;> rw [heq] <;> exact h
  | registerReplacing k =>
    obtain ⟨r', hfades, heq, -⟩ := r.registerReplacing_eq k
    rw [Registry.change, heq]
    exact hfades.cancelled id h
  | cancel k => exact (r.fades_cancel k).cancelled id h
  | evict k => exact (r.fades_evict k).cancelled id h
  | cancelAll => exact r.fades_cancelAll.cancelled id h
  | cancelToken id' => exact (r.fades_cancelId id').cancelled id h
  | release lease => exact (isCancelled_release r lease id).trans h

/-- Two monitors on one lease are the same. -/
theorem Governs.eq_of_id {i j : Nat} {m m' : Monitor} (h : r.Governs ms) (hm : ms[i]? = some m)
    (hm' : ms[j]? = some m') (hid : m.lease.id = m'.lease.id) : i = j := by
  rcases Nat.lt_trichotomy i j with hlt | heq | hgt
  · have := h.ordered hlt hm hm'
    omega
  · exact heq
  · have := h.ordered hgt hm' hm
    omega

end Registry

end RunOperator
