import RunOperator.Proofs.KeySets

/-!
# Replaying what a roster tells

A roster tells which runs appeared and which were deleted. Who replays this has a set of keys, to
which each appearance adds one and from which each deletion takes one. Whatever a watch reports, in
any order, the set holds no run that the roster does not know (`within_replayAll_observeAll`).
-/

namespace RunOperator

/-! ### Replay -/

namespace KeySet

/-- The keys after an event: a run that is created or resumed is there, and one that was deleted is
not. -/
def replay (s : KeySet) : RunEvent → KeySet
  | .create k => s.add k
  | .resume r => s.add r.key
  | .delete k => s.erase k

/-- The keys after some events. -/
def replayAll (s : KeySet) (events : List RunEvent) : KeySet := events.foldl replay s

variable {s s' : KeySet} {k : RunKey}

/-- No events leave the set as it is. -/
@[simp] theorem replayAll_nil (s : KeySet) : s.replayAll [] = s := rfl

/-- The first event is replayed, and then the others. -/
@[simp] theorem replayAll_cons (s : KeySet) (e : RunEvent) (events : List RunEvent) :
    s.replayAll (e :: events) = (s.replay e).replayAll events := rfl

/-- Events that follow others are replayed on what those leave. -/
theorem replayAll_append (s : KeySet) (first second : List RunEvent) :
    s.replayAll (first ++ second) = (s.replayAll first).replayAll second := List.foldl_append

/-- An event keeps a set within another in which it is replayed too. -/
theorem Within.replay (h : s.Within s') (e : RunEvent) : (s.replay e).Within (s'.replay e) := by
  cases e with
  | create k => exact h.add k
  | resume r => exact h.add r.key
  | delete k =>
    intro k' hk'
    rw [KeySet.replay, KeyMap.contains_erase] at hk' ⊢
    split
    · next heq => simp [heq] at hk'
    · next hne =>
      rw [if_neg hne] at hk'
      exact h k' hk'

/-- Events keep a set within another in which they are replayed too. -/
theorem Within.replayAll (h : s.Within s') (events : List RunEvent) :
    (s.replayAll events).Within (s'.replayAll events) := by
  induction events generalizing s s' with
  | nil => exact h
  | cons e events ih => exact ih (h.replay e)

/-- A key goes only with a deletion. -/
theorem contains_replayAll_of_no_deletion {events : List RunEvent} (hk : s.contains k = true)
    (hdelete : .delete k ∉ events) : (s.replayAll events).contains k = true := by
  induction events generalizing s with
  | nil => exact hk
  | cons e events ih =>
    refine ih ?_ fun h => hdelete (List.mem_cons_of_mem e h)
    cases e with
    | create k' | resume r => rw [replay, contains_add, hk, ite_self]
    | delete k' =>
      have hne : k' ≠ k := by
        rintro rfl
        exact hdelete List.mem_cons_self
      rw [replay, KeyMap.contains_erase, if_neg hne, hk]

/-- Deletions take away the keys that they are about and no others. -/
theorem contains_replayAll_deletions (s : KeySet) (gone : List RunKey) (k : RunKey) :
    (s.replayAll (gone.map .delete)).contains k = (s.contains k && !gone.contains k) := by
  induction gone generalizing s with
  | nil => simp
  | cons k' gone ih =>
    rw [List.map_cons, replayAll_cons, ih, replay, KeyMap.contains_erase, List.contains_cons]
    by_cases heq : k' = k
    · simp [heq]
    · have hne : (k == k') = false := beq_false_of_ne (Ne.symm heq)
      rw [if_neg heq, hne, Bool.false_or]

end KeySet

namespace Roster

variable {t : Roster} {events before : List WatchEvent} {e : WatchEvent} {k : RunKey}

/-! ### Listings that end -/

/-- The keys of one set that are not in another. -/
def vanished (before after : KeySet) : List RunKey :=
  before.keys.filter fun k => !after.contains k

/-- Those keys are reported as deleted that have vanished. -/
theorem deletions_eq (before after : KeySet) :
    deletions before after = (vanished before after).map .delete := rfl

/-- The keys that have vanished are those that were there before and are not any more. -/
theorem mem_vanished_iff {before after : KeySet} :
    k ∈ vanished before after ↔ before.contains k = true ∧ after.contains k = false := by
  rw [vanished, List.mem_filter, KeyMap.mem_keys_iff, Bool.not_eq_true']

/-- The keys that have vanished stand in increasing order. -/
theorem pairwise_vanished (before after : KeySet) : (vanished before after).Pairwise (· < ·) :=
  (KeyMap.pairwise_keys before).filter _

/-- When a listing ends, what is left of the known keys are those that it holds. -/
theorem contains_replayAll_deletions (before after : KeySet) (k : RunKey) :
    (before.replayAll (deletions before after)).contains k =
      (before.contains k && after.contains k) := by
  rw [deletions_eq, KeySet.contains_replayAll_deletions]
  cases hbefore : before.contains k with
  | false => rfl
  | true =>
    rw [Bool.true_and, Bool.true_and, Bool.not_eq_eq_eq_not, List.contains_eq_mem]
    cases hafter : after.contains k <;> simp [mem_vanished_iff, hbefore, hafter]

/-! ### One event -/

/-- No events are reported where none are observed. -/
@[simp] theorem observeAll_nil (t : Roster) : t.observeAll [] = ([], t) := rfl

/-- The first event is observed, and then the others. -/
theorem observeAll_cons (t : Roster) (e : WatchEvent) (events : List WatchEvent) :
    t.observeAll (e :: events) =
      ((t.observe e).1 ++ ((t.observe e).2.observeAll events).1,
        ((t.observe e).2.observeAll events).2) := rfl

/-- Who knows no more than the roster before an event knows no more than it after the event,
whatever the event is. -/
theorem within_replayAll_observe {s : KeySet} (h : s.Within t.known) (e : WatchEvent) :
    (s.replayAll (t.observe e).1).Within (t.observe e).2.known := by
  have happear (r : Run) : (s.replayAll (appearance t.known r.key)).Within (t.known.add r.key) := by
    unfold appearance
    split
    · exact h.add_right r.key
    · exact h.add r.key
  cases e with
  | init => exact h
  | initApply r =>
    rw [observe]
    cases t.listed with
    | true => exact happear r
    | false => exact h.add r.key
  | initDone =>
    intro k hk
    have hreplayed := h.replayAll (t.observe .initDone).1 k hk
    rw [observe, contains_replayAll_deletions, Bool.and_eq_true] at hreplayed
    exact hreplayed.2
  | apply r => exact happear r
  | delete r => exact h.replay (.delete r.key)

/-- Whatever a watch reports, the replay of what the roster tells holds known runs only. -/
theorem within_replayAll_observeAll {s : KeySet} (h : s.Within t.known)
    (events : List WatchEvent) :
    (s.replayAll (t.observeAll events).1).Within (t.observeAll events).2.known := by
  induction events generalizing t s with
  | nil => exact h
  | cons e events ih =>
    rw [observeAll_cons, KeySet.replayAll_append]
    exact ih (within_replayAll_observe h e)

end Roster

end RunOperator
