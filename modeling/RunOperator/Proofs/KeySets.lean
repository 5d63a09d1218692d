import Mathlib.Data.List.Sort
import RunOperator.Watch.Roster

/-!
# Sets of run keys

What a map holds after an insertion or an erasure, and when two maps are the same: the entries of
a map stand in the order of their keys, so that a map is determined by what it answers.
-/

namespace RunOperator

namespace KeyMap

variable {α : Type}

/-- An insertion adds its key. -/
theorem contains_insert (m : KeyMap α) (k k' : RunKey) (a : α) :
    (m.insert k a).contains k' = if k = k' then true else m.contains k' := by
  rw [contains, get?_insert]
  split <;> rfl

/-- An erasure removes its key. -/
theorem contains_erase (m : KeyMap α) (k k' : RunKey) :
    (m.erase k).contains k' = if k = k' then false else m.contains k' := by
  rw [contains, get?_erase]
  split <;> rfl

/-- Maps that give the same answers are the same. -/
theorem ext_get? {m m' : KeyMap α} (h : ∀ k, m.get? k = m'.get? k) : m = m' := by
  let before (a b : RunKey × α) : Prop := a.1 < b.1
  have : Std.Antisymm before :=
    ⟨fun _ _ hab hba => absurd (RunKey.lt_trans hab hba) (RunKey.lt_irrefl _)⟩
  have : Std.Irrefl before := ⟨fun a => RunKey.lt_irrefl a.1⟩
  have hentries : m.entries = m'.entries := by
    refine List.Pairwise.eq_of_mem_iff (r := before) m.increasing m'.increasing ?_
    rintro ⟨k, a⟩
    rw [mem_entries_iff, mem_entries_iff, h]
  cases m
  cases m'
  congr

end KeyMap

namespace KeySet

variable {s s' : KeySet} {k : RunKey}

/-- A key that is added is contained, along with those that were. -/
theorem contains_add (s : KeySet) (k k' : RunKey) :
    (s.add k).contains k' = if k = k' then true else s.contains k' :=
  s.contains_insert k k' ()

/-- Sets with the same keys are the same. -/
theorem ext_contains (h : ∀ k, s.contains k = s'.contains k) : s = s' := by
  refine KeyMap.ext_get? fun k => ?_
  have hk : (s.get? k).isSome = (s'.get? k).isSome := h k
  cases hs : s.get? k <;> cases hs' : s'.get? k <;> simp_all

/-- Adding a key that is there changes nothing. -/
theorem add_of_contains (h : s.contains k = true) : s.add k = s := by
  refine ext_contains fun k' => ?_
  rw [contains_add]
  split
  · next heq => rw [← heq, h]
  · rfl

/-- Every key of the one set is a key of the other. -/
def Within (s s' : KeySet) : Prop := ∀ k, s.contains k = true → s'.contains k = true

/-- A set lies within itself. -/
theorem Within.refl (s : KeySet) : s.Within s := fun _ h => h

/-- The empty set lies within every set. -/
theorem empty_within (s : KeySet) : KeySet.empty.Within s := by
  intro k h
  cases h

/-- An inclusion is kept when the same key is added to both sets. -/
theorem Within.add (h : s.Within s') (k : RunKey) : (s.add k).Within (s'.add k) := by
  intro k' hk'
  rw [contains_add] at hk' ⊢
  split
  · rfl
  · next hne =>
    rw [if_neg hne] at hk'
    exact h k' hk'

/-- A set stays within another that grows. -/
theorem Within.add_right (h : s.Within s') (k : RunKey) : s.Within (s'.add k) := by
  intro k' hk'
  rw [contains_add, h k' hk', ite_self]

end KeySet

/-- Two sets with the same keys show no deletions. -/
theorem Roster.deletions_eq_nil {before after : KeySet}
    (hsame : ∀ k, before.contains k = after.contains k) : deletions before after = [] := by
  rw [deletions, List.map_eq_nil_iff, List.filter_eq_nil_iff]
  intro k hk
  rw [KeyMap.mem_keys_iff, hsame k] at hk
  simp [hk]

end RunOperator
