import Mathlib.Data.List.Nodup
import RunOperator.Proofs.LeaseViews

/-!
# Leases, entries and tokens

The registry alone, with everybody who may use it: runs are registered and replaced, entries are
cancelled and evicted, tokens are cancelled directly, and leases are dropped, in any order. A lease
that was replaced or evicted may be dropped long after. `Tenure` puts beside the registry the leases
that it has issued and those of them that were not dropped yet, and `sound_after` says how entries,
leases and tokens belong together at any time.
-/

namespace RunOperator

namespace Registry

variable {r : Registry} {k : RunKey} {id : Nat}

/-- The lease that a change issues. -/
def granted? (r : Registry) : RegistryChange → Option Lease
  | .register k => (r.registerIfAbsent k).1
  | .registerReplacing k => some (r.registerReplacing k).1
  | _ => none

/-- The change cancels the token of a lease, directly or through the entry that the lease has. -/
def Cancels (r : Registry) (id : Nat) : RegistryChange → Prop
  | .registerReplacing k | .cancel k | .evict k => r.entries.get? k = some id
  | .cancelAll => ∃ k, r.entries.get? k = some id
  | .cancelToken id' => id' = id
  | .register _ | .release _ => False

/-- A change cancels the tokens that it is to cancel, and leaves the others. -/
theorem isCancelled_change_iff (r : Registry) (c : RegistryChange) (id : Nat) :
    (r.change c).isCancelled id = true ↔ r.isCancelled id = true ∨ r.Cancels id c := by
  have hcancelId (own : Nat) : (r.cancelId own).isCancelled id = true ↔
      r.isCancelled id = true ∨ own = id := by
    rw [isCancelled_cancelId, Bool.or_eq_true, beq_iff_eq, or_comm, eq_comm (a := id)]
  -- Through an entry the token of the lease that has it is cancelled, if there is one.
  have hentry {k : RunKey} {r' : Registry}
      (hnone : r.entries.get? k = none → r'.cancelled = r.cancelled)
      (hsome : ∀ own, r.entries.get? k = some own → r'.cancelled = (r.cancelId own).cancelled) :
      r'.isCancelled id = true ↔ r.isCancelled id = true ∨ r.entries.get? k = some id := by
    cases hget : r.entries.get? k with
    | none => simp [isCancelled, hnone hget]
    | some own =>
      rw [isCancelled, hsome own hget, Option.some.injEq]
      exact hcancelId own
  cases c with
  | register k =>
    rw [change, Cancels, or_false]
    rcases r.registerIfAbsent_eq k with ⟨-, heq⟩ | ⟨-, heq⟩
    · rw [heq]
    · rw [heq]
      rfl
  | registerReplacing k =>
    exact hentry (fun hnone => by simp [change, registerReplacing, issue, hnone])
      (fun own hown => by simp [change, registerReplacing, issue, hown])
  | cancel k =>
    exact hentry (fun hnone => by simp [change, cancel, hnone])
      (fun own hown => by simp [change, cancel, hown])
  | evict k =>
    exact hentry (fun hnone => by simp [change, evict, hnone])
      (fun own hown => by simp [change, evict, hown])
  | cancelAll => exact isCancelled_cancelAll_iff.trans or_comm
  | cancelToken own => exact hcancelId own
  | release lease => rw [change, isCancelled_release, Cancels, or_false]

end Registry

/-- The registry with the leases that were issued, in their order, and those of them that were not
dropped yet. -/
structure Tenure where
  registry : Registry
  issued : List Lease
  held : List Lease

namespace Tenure

variable {t : Tenure} {lease : Lease} {k : RunKey} {id : Nat}

/-- Nothing was registered yet. -/
def initial : Tenure := ⟨Registry.empty, [], []⟩

/-- Only a lease that is held can be dropped, and only the token of a lease that was issued can be
cancelled. -/
def allows (t : Tenure) : RegistryChange → Bool
  | .release lease => t.held.contains lease
  | .cancelToken id => t.issued.any fun lease => lease.id == id
  | _ => true

/-- The leases that are held after a change. -/
def heldAfter (t : Tenure) (c : RegistryChange) : List Lease :=
  match c with
  | .release lease => t.held.erase lease
  | c => t.held ++ (t.registry.granted? c).toList

/-- What a change makes of the registry and its leases. What cannot be done leaves everything as it
is. -/
def act (t : Tenure) (c : RegistryChange) : Tenure :=
  if t.allows c then
    { registry := t.registry.change c
      issued := t.issued ++ (t.registry.granted? c).toList
      held := t.heldAfter c }
  else t

/-- The registry and its leases after some changes. -/
def after (t : Tenure) (h : List RegistryChange) : Tenure := h.foldl act t

/-! ### What every change keeps -/

/-- The leases are numbered in the order in which they were issued, none is held that was not issued
or is held twice, every entry is that of a lease that is held, and every lease that is held and was
not cancelled has its entry. -/
structure Kept (t : Tenure) : Prop where
  numbered : t.issued.map Lease.id = List.range t.registry.nextId
  sublist : t.held.Sublist t.issued
  owned : ∀ {k id}, t.registry.entries.get? k = some id → ⟨k, id⟩ ∈ t.held
  registered : ∀ lease ∈ t.held, t.registry.isCancelled lease.id = false →
    t.registry.entries.get? lease.key = some lease.id

/-- The record of a new registry is in order. -/
theorem kept_initial : initial.Kept where
  numbered := rfl
  sublist := List.Sublist.refl _
  owned := by
    intro k id h
    cases h
  registered := by
    intro lease h
    cases h

/-- No number is held twice. -/
theorem Kept.nodup_ids (h : t.Kept) : (t.held.map Lease.id).Nodup :=
  (h.sublist.map Lease.id).nodup (h.numbered ▸ List.nodup_range)

/-- Two leases that are held are the same if their numbers are. -/
theorem Kept.eq_of_id (h : t.Kept) {lease lease' : Lease} (hheld : lease ∈ t.held)
    (hheld' : lease' ∈ t.held) (hid : lease.id = lease'.id) : lease = lease' :=
  List.inj_on_of_nodup_map h.nodup_ids hheld hheld' hid

/-- No lease is held twice. -/
theorem Kept.nodup (h : t.Kept) : t.held.Nodup := List.Nodup.of_map Lease.id h.nodup_ids

/-- Leases may be cancelled, and entries may go when their leases are cancelled. -/
theorem Kept.fades {r : Registry} (h : t.Kept) (hfades : t.registry.Fades r) :
    ({ t with registry := r } : Tenure).Kept where
  numbered := by rw [hfades.nextId, h.numbered]
  sublist := h.sublist
  owned := fun hid => h.owned (hfades.old hid)
  registered := by
    intro lease hheld huncancelled
    have hbefore : t.registry.isCancelled lease.id = false := by
      cases hcancelled : t.registry.isCancelled lease.id with
      | false => rfl
      | true => exact absurd huncancelled (by simp [hfades.cancelled _ hcancelled])
    refine (hfades.kept (h.registered lease hheld hbefore)).resolve_right ?_
    simp [huncancelled]

/-- A lease may be issued for a run whose entry was that of a cancelled lease. -/
theorem Kept.issue (h : t.Kept)
    (hcancelled : ∀ {id}, t.registry.entries.get? k = some id →
      t.registry.isCancelled id = true) :
    (⟨(t.registry.issue k).2, t.issued ++ [(t.registry.issue k).1],
      t.held ++ [(t.registry.issue k).1]⟩ : Tenure).Kept where
  numbered := by
    rw [List.map_append, h.numbered]
    exact List.range_succ.symm
  sublist := h.sublist.append (List.Sublist.refl _)
  owned := by
    intro k' id hid
    rw [Registry.get?_issue] at hid
    split at hid
    · next heq =>
      cases hid
      cases heq
      exact List.mem_concat_self
    · exact List.mem_append_left _ (h.owned hid)
  registered := by
    intro lease hheld huncancelled
    rw [Registry.get?_issue]
    rcases List.mem_append.1 hheld with hheld | hnew
    · have hentry := h.registered lease hheld huncancelled
      rw [if_neg]
      · exact hentry
      · rintro rfl
        cases (hcancelled hentry).symm.trans huncancelled
    · obtain rfl := List.mem_singleton.1 hnew
      exact if_pos rfl

/-- A lease that is held may be dropped. -/
theorem Kept.release (h : t.Kept) (hheld : lease ∈ t.held) :
    (⟨t.registry.release lease, t.issued, t.held.erase lease⟩ : Tenure).Kept where
  numbered := by rw [Registry.nextId_release, h.numbered]
  sublist := List.erase_sublist.trans h.sublist
  owned := by
    intro k id hid
    rw [Registry.get?_release] at hid
    split at hid
    · cases hid
    · next hother =>
      refine (List.mem_erase_of_ne ?_).2 (h.owned hid)
      rintro rfl
      exact hother ⟨rfl, hid⟩
  registered := by
    intro lease' hheld' huncancelled
    obtain ⟨hne, hmem⟩ := h.nodup.mem_erase_iff.1 hheld'
    rw [Registry.isCancelled_release] at huncancelled
    have hentry := h.registered lease' hmem huncancelled
    rw [Registry.get?_release, if_neg]
    · exact hentry
    · -- The entry that goes has the number of the lease that is dropped.
      rintro ⟨-, hown⟩
      exact hne (h.eq_of_id hmem hheld (Option.some.inj (hentry.symm.trans hown)))

/-- Every change keeps the record in order. -/
theorem Kept.act (h : t.Kept) (c : RegistryChange) : (t.act c).Kept := by
  unfold Tenure.act
  split
  · next hallows =>
    have hfading {r : Registry} (hfades : t.registry.Fades r) :
        (⟨r, t.issued ++ [], t.held ++ []⟩ : Tenure).Kept := by
      simpa only [List.append_nil] using h.fades hfades
    cases c with
    | register k =>
      dsimp only [heldAfter, Registry.change, Registry.granted?]
      rcases t.registry.registerIfAbsent_eq k with ⟨-, heq⟩ | ⟨hnone, heq⟩ <;> rw [heq]
      · exact hfading (Registry.Fades.refl _)
      · refine h.issue ?_
        intro id hid
        cases hnone.symm.trans hid
    | registerReplacing k =>
      dsimp only [heldAfter, Registry.change, Registry.granted?]
      obtain ⟨r, hfades, heq, hcancelled⟩ := t.registry.registerReplacing_eq k
      rw [heq]
      exact (h.fades hfades).issue fun hid => hcancelled (hfades.old hid)
    | cancel k => exact hfading (t.registry.fades_cancel k)
    | evict k => exact hfading (t.registry.fades_evict k)
    | cancelAll => exact hfading t.registry.fades_cancelAll
    | cancelToken id => exact hfading (t.registry.fades_cancelId id)
    | release lease =>
      have hreleased := h.release (List.contains_iff_mem.1 hallows)
      rwa [← List.append_nil t.issued] at hreleased
  · exact h

/-- The record is in order after any changes. -/
theorem kept_after (h : List RegistryChange) : (initial.after h).Kept :=
  List.foldlRecOn h act kept_initial fun _ ht c _ => ht.act c

/-! ### The main statement -/

/-- A change that is allowed is made, and the lease that it grants is added to the record. -/
theorem act_of_allows {c : RegistryChange} (hallows : t.allows c = true) :
    t.act c = ⟨t.registry.change c, t.issued ++ (t.registry.granted? c).toList, t.heldAfter c⟩ :=
  if_pos hallows

/-- A cancelled token stays cancelled, whatever is done. -/
theorem isCancelled_act (hid : t.registry.isCancelled id = true) (c : RegistryChange) :
    (t.act c).registry.isCancelled id = true := by
  unfold act
  split
  · exact (t.registry.isCancelled_change_iff c id).2 (Or.inl hid)
  · exact hid

/-- A lease that was cancelled stays cancelled. -/
theorem isCancelled_after (hid : t.registry.isCancelled id = true) (later : List RegistryChange) :
    (t.after later).registry.isCancelled id = true := by
  induction later generalizing t with
  | nil => exact hid
  | cons c later ih => exact ih (isCancelled_act hid c)

/-- Who must not replace a registration is refused when there is one, and then nothing changes. -/
theorem act_register_of_contains (hcontains : t.registry.contains k = true) :
    t.act (.register k) = t := by
  have hrefused : t.registry.registerIfAbsent k = (none, t.registry) :=
    if_pos hcontains
  simp [act, allows, heldAfter, Registry.change, Registry.granted?, hrefused]

/-- No lease is granted under a key that has an entry, and one is granted under every other. -/
theorem registerIfAbsent_eq_none_iff (r : Registry) (k : RunKey) :
    (r.registerIfAbsent k).1 = none ↔ r.contains k = true := by
  unfold Registry.registerIfAbsent
  split <;> simp_all

/-- Entries, leases and tokens belong together. -/
structure Sound (t : Tenure) : Prop where
  /-- The leases are numbered in the order in which they were issued, without a gap. -/
  numbered : t.issued.map Lease.id = List.range t.registry.nextId
  distinct : (t.issued.map Lease.id).Nodup
  /-- A registration is refused if and only if the run is registered, and takes no number then. -/
  refused : ∀ k, ((t.registry.registerIfAbsent k).1 = none ↔ t.registry.contains k = true) ∧
    (t.registry.contains k = true → t.act (.register k) = t)
  /-- The leases that were not dropped are among those that were issued. -/
  undropped : t.held.Sublist t.issued
  /-- Every entry belongs to exactly one lease that was not dropped, and this is for the same
  run. -/
  owned : ∀ k id, t.registry.entries.get? k = some id →
    t.held.count ⟨k, id⟩ = 1 ∧ ∀ lease ∈ t.held, lease.id = id → lease = ⟨k, id⟩
  /-- A lease that was neither dropped nor cancelled has the entry of its run. -/
  registered : ∀ lease ∈ t.held, t.registry.isCancelled lease.id = false →
    t.registry.entries.get? lease.key = some lease.id
  /-- A token is cancelled directly or through the entry that its lease has, and in no other
  way. -/
  cancelled : ∀ c id, t.allows c = true → ((t.act c).registry.isCancelled id = true ↔
    t.registry.isCancelled id = true ∨ t.registry.Cancels id c)
  /-- A cancelled token stays cancelled for ever. -/
  final : ∀ id later, t.registry.isCancelled id = true →
    (t.after later).registry.isCancelled id = true
  /-- When a lease is dropped its own entry goes, if it still has one, and no other. -/
  drops : ∀ lease ∈ t.held,
    (∀ lease', lease' ∈ (t.act (.release lease)).held ↔ lease' ≠ lease ∧ lease' ∈ t.held) ∧
    ∀ k, (t.act (.release lease)).registry.entries.get? k =
      if lease.key = k ∧ t.registry.entries.get? k = some lease.id then none
      else t.registry.entries.get? k
  /-- When all leases were dropped no entry is left. -/
  empties : t.held = [] → t.registry.keys = []

/-- A record that is in order is sound. -/
theorem Kept.sound (h : t.Kept) : t.Sound where
  numbered := h.numbered
  distinct := h.numbered ▸ List.nodup_range
  refused k := ⟨registerIfAbsent_eq_none_iff t.registry k, act_register_of_contains⟩
  undropped := h.sublist
  owned := by
    intro k id hid
    have hheld := h.owned hid
    exact ⟨List.count_eq_one_of_mem h.nodup hheld, fun lease hlease heq =>
      h.eq_of_id hlease hheld heq⟩
  registered := h.registered
  cancelled := by
    intro c id hallows
    rw [act_of_allows hallows]
    exact t.registry.isCancelled_change_iff c id
  final := by
    intro id later hid
    exact isCancelled_after hid later
  drops := by
    intro lease hheld
    have hallows : t.allows (.release lease) = true := List.contains_iff_mem.2 hheld
    rw [act_of_allows hallows]
    exact ⟨fun _ => h.nodup.mem_erase_iff, t.registry.get?_release lease⟩
  empties := by
    intro hnone
    refine List.eq_nil_iff_forall_not_mem.2 fun k hk => ?_
    obtain ⟨id, hid⟩ := Option.isSome_iff_exists.1 (KeyMap.mem_keys_iff.1 hk)
    have hheld := h.owned hid
    rw [hnone] at hheld
    cases hheld

/-- **The registry and its leases belong together.** Whatever is done to the registry, by whomever
and in whatever order, each entry is that of the one lease that was issued for it, a lease that was
replaced or evicted can be dropped without harm to others, and an entry is left only as long as its
lease is held. -/
theorem sound_after (h : List RegistryChange) : (initial.after h).Sound := (kept_after h).sound

/-- A run is registered three times: the first lease is replaced and dropped, the second evicted and
still held. The lease of another run is cancelled and still has its entry. -/
def staleHistory : List RegistryChange :=
  [.register ⟨"ns", "a"⟩, .registerReplacing ⟨"ns", "a"⟩, .evict ⟨"ns", "a"⟩,
    .register ⟨"ns", "a"⟩, .register ⟨"ns", "a"⟩, .register ⟨"ns", "b"⟩, .cancel ⟨"ns", "b"⟩,
    .release ⟨⟨"ns", "a"⟩, 0⟩, .cancelToken 1]

/-- The lease that was evicted is dropped without harm to the one that has the entry. -/
theorem sound_after_staleHistory :
    (initial.after staleHistory).held =
      [⟨⟨"ns", "a"⟩, 1⟩, ⟨⟨"ns", "a"⟩, 2⟩, ⟨⟨"ns", "b"⟩, 3⟩] ∧
    (initial.after staleHistory).registry.entries.get? ⟨"ns", "a"⟩ = some 2 ∧
    ((initial.after staleHistory).act (.release ⟨⟨"ns", "a"⟩, 1⟩)).registry.entries.get?
      ⟨"ns", "a"⟩ = some 2 ∧
    (initial.after staleHistory).Sound := by
  have hsound := sound_after staleHistory
  refine ⟨rfl, rfl, ?_, hsound⟩
  rw [(hsound.drops ⟨⟨"ns", "a"⟩, 1⟩ (by decide)).2]
  rfl

end Tenure

end RunOperator
