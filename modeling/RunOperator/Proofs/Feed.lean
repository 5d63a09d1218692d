import RunOperator.Proofs.Outlook

/-!
# The feed of a watch

A watch begins with a listing, which foretells of each run in its scope what is stored
(`suits_listing`), and is then told of each change. In a calm store, where no error is in the way
of client calls and none of them takes too long, a call changes nothing besides what it is meant to
change.
-/

namespace RunOperator

/-- Every run passes the filter without criteria. -/
theorem RunFilter.apply_all (runs : List Run) : RunFilter.all.apply runs = runs := by
  rw [apply, List.filter_eq_self]
  intro r _
  rfl

namespace Sight

variable {k : RunKey} {t : Sight} {runs : List Run}

/-- Listing other runs tells nothing about a run. -/
theorem afterAll_of_not_mem (h : ∀ r ∈ runs, r.key ≠ k) :
    t.afterAll k (runs.map .initApply) = t := by
  induction runs with
  | nil => rfl
  | cons r runs ih =>
    rw [List.map_cons, afterAll_cons, after, if_neg (h r List.mem_cons_self)]
    exact ih fun r' hr' => h r' (List.mem_cons_of_mem r hr')

/-- Listing a run tells whether it is underway. -/
theorem afterAll_of_mem {r : Run} (hnodup : (runs.map Run.key).Nodup) (hr : r ∈ runs)
    (hkey : r.key = k) : t.afterAll k (runs.map .initApply) = ⟨true, r.isUnderway⟩ := by
  induction runs generalizing t with
  | nil => cases hr
  | cons r' runs ih =>
    obtain ⟨hnew, hnodup⟩ := List.nodup_cons.1 hnodup
    rw [List.map_cons, afterAll_cons]
    rcases List.mem_cons.1 hr with rfl | hr
    · rw [after, if_pos hkey]
      refine afterAll_of_not_mem ?_
      intro r' hr' heq
      exact hnew (hkey.trans heq.symm ▸ List.mem_map_of_mem hr')
    · exact ih hnodup hr

end Sight

namespace Store

variable {s s' : Store} {k : RunKey} {r written : Run} {limit : Nat} {scope : Option String}

/-! ### Listings -/

/-- A listing holds the stored runs in its scope. -/
theorem Filed.mem_list_iff (h : s.Filed) :
    r ∈ s.list scope .all ↔ r.key.inScope scope = true ∧ s.runs.get? r.key = some r := by
  rw [list, RunFilter.apply_all, KeyMap.values, List.mem_map]
  constructor
  · rintro ⟨⟨k, r'⟩, hmem, rfl⟩
    rw [KeyMap.mem_entries_iff, KeyMap.get?_restrict] at hmem
    split at hmem
    · next hscope =>
      obtain rfl := h k r' hmem
      exact ⟨hscope, hmem⟩
    · cases hmem
  · rintro ⟨hscope, hr⟩
    refine ⟨(r.key, r), ?_, rfl⟩
    rw [KeyMap.mem_entries_iff, KeyMap.get?_restrict, if_pos hscope, hr]

/-- A listing holds the runs in the order of their keys. -/
theorem Filed.keys_list (h : s.Filed) (scope : Option String) :
    (s.list scope .all).map Run.key = (s.runs.restrict (·.inScope scope)).keys := by
  rw [list, RunFilter.apply_all, KeyMap.values, KeyMap.keys, List.map_map]
  refine List.map_congr_left ?_
  rintro ⟨k, r⟩ hmem
  rw [KeyMap.mem_entries_iff, KeyMap.get?_restrict] at hmem
  split at hmem
  · exact h k r hmem
  · cases hmem

/-- The runs of a listing differ. -/
theorem Filed.nodup_list (h : s.Filed) : ((s.list scope .all).map Run.key).Nodup := by
  rw [h.keys_list]
  exact (KeyMap.pairwise_keys _).imp RunKey.ne_of_lt

/-- A listing foretells what is stored. -/
theorem Filed.suits_listing (h : s.Filed) (hscope : k.inScope scope = true) :
    (Sight.afterAll k ⟨false, false⟩ (s.listing scope)).Suits (s.runs.get? k) := by
  have hlisting : Sight.afterAll k ⟨false, false⟩ (s.listing scope) =
      Sight.afterAll k ⟨false, false⟩ ((s.list scope .all).map .initApply) := by
    rw [listing, Sight.afterAll_concat]
    rfl
  rw [hlisting]
  cases hstored : s.runs.get? k with
  | none =>
    rw [Sight.afterAll_of_not_mem]
    · exact ⟨rfl, fun r hr => by cases hr⟩
    · rintro r hr rfl
      rw [(h.mem_list_iff.1 hr).2] at hstored
      cases hstored
  | some r =>
    obtain rfl := h k r hstored
    rw [Sight.afterAll_of_mem h.nodup_list (h.mem_list_iff.2 ⟨hscope, hstored⟩) rfl]
    refine ⟨rfl, ?_⟩
    intro r' hr' hunderway
    obtain rfl := Option.some.inj hr'
    exact hunderway

/-! ### Calm stores -/

/-- No error is in the way of client calls, and none of them takes longer than the limit. -/
structure Calm (s : Store) (limit : Nat) : Prop where
  gets : ∀ k, s.getFailures.getD k [] = []
  updates : ∀ k, s.updateFailures.getD k [] = []
  latency : s.latency ≤ limit

/-- Reading a run in a calm store only counts the call. -/
theorem Calm.get_eq (h : s.Calm limit) (k : RunKey) :
    (s.get k).2 = { s with gets := s.gets.insert k (s.gets.getD k 0 + 1) } := by
  unfold Store.get
  dsimp only
  rw [h.gets k]
  dsimp only
  split <;> rfl

/-- In a calm store a run that cannot be read is not there. -/
theorem Calm.get_error {e : ClientError} (h : s.Calm limit) (herror : (s.get k).1 = .error e) :
    e = .runNotFound k ∧ s.runs.get? k = none := by
  unfold Store.get at herror
  dsimp only at herror
  rw [h.gets k] at herror
  dsimp only at herror
  split at herror
  · cases herror
  · next hnone =>
    cases herror
    exact ⟨rfl, hnone⟩

/-- A replacement that fails in a calm store only counts the call. -/
theorem Calm.replace_error {e : ClientError} (h : s.Calm limit)
    (herror : (s.replace r).1 = .error e) :
    (s.replace r).2 = { s with updates := s.updates.insert r.key (s.updates.getD r.key 0 + 1) } := by
  unfold Store.replace at herror ⊢
  dsimp only at herror ⊢
  rw [h.updates r.key] at herror ⊢
  dsimp only at herror ⊢
  split
  · rfl
  · next stored hstored =>
    rw [hstored] at herror
    dsimp only at herror
    split
    · next hversion =>
      rw [if_pos hversion] at herror
      cases herror
    · rfl

/-- In a calm store a replacement succeeds if it was made from what is stored. -/
theorem Calm.replace_ne_error {e : ClientError} {stored : Run} (h : s.Calm limit)
    (hstored : s.runs.get? r.key = some stored)
    (hversion : r.metadata.resourceVersion = stored.metadata.resourceVersion) :
    (s.replace r).1 ≠ .error e := by
  have hok : (s.replace r).1 = .ok (s.stampVersion r) :=
    replace_eq_ok_iff.2 ⟨h.updates r.key, ⟨stored, hstored, hversion⟩, rfl⟩
  rw [hok]
  intro herror
  cases herror

/-- A replacement that succeeds writes the run, passes it on to the watches and counts the call. -/
theorem replace_ok (hok : (s.replace r).1 = .ok written) :
    (s.replace r).2 =
      ({ s with updates := s.updates.insert r.key (s.updates.getD r.key 0 + 1) }.write r.key r).2 := by
  obtain ⟨hfailures, ⟨stored, hstored, hversion⟩, -⟩ := replace_eq_ok_iff.1 hok
  unfold Store.replace
  dsimp only
  rw [hfailures, hstored]
  dsimp only
  rw [if_pos hversion]

/-! ### What watches are told -/

/-- The pending events of a watch after an event about a run. -/
def told (scope : Option String) (k : RunKey) (e : WatchEvent) (pending : List WatchEvent) :
    List WatchEvent :=
  if k.inScope scope then pending ++ [e] else pending

/-- An open watch is told what happens in its scope. -/
theorem getElem?_watches_broadcast {number : Nat} {pending : List WatchEvent} {e : WatchEvent}
    (hwatch : s.watches[number]? = some ⟨scope, pending, false⟩) :
    (s.broadcast k e).watches[number]? = some ⟨scope, told scope k e pending, false⟩ := by
  rw [broadcast, List.getElem?_map, hwatch, Option.map_some, notify, told]
  cases k.inScope scope <;> rfl

/-- An event that is told leaves those that were told before. -/
theorem mem_told {pending : List WatchEvent} {e e' : WatchEvent} (h : e' ∈ pending) :
    e' ∈ told scope k e pending := by
  unfold told
  split
  · exact List.mem_append_left _ h
  · exact h

end Store

end RunOperator
