import RunOperator.Proofs.StoreEffects

/-!
# Versions identify objects

Every write issues the next version, and no version is issued twice. Hence two stored runs never
carry the same version, and an object that the store has held is the only one that will ever carry
its version (`Held`): when it is overwritten or deleted, it never comes back, not even if its run
is created anew under the same key.
-/

namespace RunOperator

/-- Different numbers are written differently. -/
theorem toString_inj {a b : Nat} (h : toString a = toString b) : a = b := by
  have hdigits := congrArg String.toList (show a.repr = b.repr from h)
  rw [Nat.toList_repr, Nat.toList_repr] at hdigits
  simpa only [Nat.ofDigitChars_ten_toDigits] using
    congrArg (fun digits => Nat.ofDigitChars 10 digits 0) hdigits

/-- The run carries a version. -/
def Run.Carries (r : Run) (version : Nat) : Prop :=
  r.metadata.resourceVersion = some (toString version)

/-- An object carries one version only. -/
theorem Run.Carries.unique {r : Run} {v₁ v₂ : Nat} (h₁ : r.Carries v₁) (h₂ : r.Carries v₂) :
    v₁ = v₂ :=
  toString_inj (Option.some.inj (h₁.symm.trans h₂))

/-- Whether an object carries a version depends on its metadata alone. -/
theorem Run.Carries.congr {r r' : Run} {v : Nat} (h : r.Carries v)
    (heq : r'.metadata.resourceVersion = r.metadata.resourceVersion) : r'.Carries v :=
  heq.trans h

namespace Store

/-- What is written carries the next version. -/
theorem stampVersion_carries (s : Store) (r : Run) :
    (s.stampVersion r).Carries (s.lastVersion + 1) := rfl

/-- Each stored run carries a version that was issued, and no two carry the same. -/
structure Versioned (s : Store) : Prop where
  carries : ∀ {k : RunKey} {r : Run}, s.runs.get? k = some r →
    ∃ v, 1 ≤ v ∧ v ≤ s.lastVersion ∧ r.Carries v
  distinct : ∀ {k₁ k₂ : RunKey} {r₁ r₂ : Run}, s.runs.get? k₁ = some r₁ →
    s.runs.get? k₂ = some r₂ →
    r₁.metadata.resourceVersion = r₂.metadata.resourceVersion → k₁ = k₂

/-- An empty store has issued no versions. -/
theorem versioned_empty : Store.empty.Versioned where
  carries := by
    intro k r h
    cases h
  distinct := by
    intro k₁ k₂ r₁ r₂ h
    cases h

/-- The object was stored under the key at some time: its version was issued, and nothing else
that is stored carries it. -/
structure Held (s : Store) (k : RunKey) (r : Run) : Prop where
  carries : ∃ v, v ≤ s.lastVersion ∧ r.Carries v
  only : ∀ {k' : RunKey} {r' : Run}, s.runs.get? k' = some r' →
    r'.metadata.resourceVersion = r.metadata.resourceVersion → k' = k ∧ r' = r

/-- A stored object is held. -/
theorem Versioned.held {s : Store} (h : s.Versioned) {k : RunKey} {r : Run}
    (hr : s.runs.get? k = some r) : s.Held k r where
  carries := by
    obtain ⟨v, -, hv, hcarries⟩ := h.carries hr
    exact ⟨v, hv, hcarries⟩
  only := by
    intro k' r' hr' hversion
    obtain rfl := h.distinct hr' hr hversion
    exact ⟨rfl, Option.some.inj (hr'.symm.trans hr)⟩

/-- The runs after a write: the one that was written, and those of other keys. -/
private theorem get?_of_writes {s s' : Store} {k k' : RunKey} {r r' : Run}
    (hruns : s'.runs = s.runs.insert k (s.stampVersion r)) (h : s'.runs.get? k' = some r') :
    k = k' ∧ s.stampVersion r = r' ∨ k ≠ k' ∧ s.runs.get? k' = some r' := by
  rw [hruns, KeyMap.get?_insert] at h
  split at h
  · next heq => exact Or.inl ⟨heq, Option.some.inj h⟩
  · next hne => exact Or.inr ⟨hne, h⟩

private theorem get?_of_erases {s s' : Store} {k k' : RunKey} {r' : Run}
    (hruns : s'.runs = s.runs.erase k) (h : s'.runs.get? k' = some r') :
    s.runs.get? k' = some r' := by
  rw [hruns, KeyMap.get?_erase] at h
  split at h
  · cases h
  · exact h

/-- A version that was issued before is not the one that a write issues. -/
private theorem next_version_ne {s : Store} {r r' : Run} {v : Nat} (hv : v ≤ s.lastVersion)
    (hcarries : r'.Carries v) :
    (s.stampVersion r).metadata.resourceVersion ≠ r'.metadata.resourceVersion := by
  intro heq
  have := (hcarries.congr heq).unique (s.stampVersion_carries r)
  omega

/-- The versions stay in order whatever happens to the runs. -/
theorem Versioned.evolves {s s' : Store} (h : s.Versioned) (he : s.Evolves s') :
    s'.Versioned := by
  rcases he with ⟨hruns, hlast⟩ | ⟨k, r, hruns, hlast⟩ | ⟨k, hruns, hlast⟩
  · constructor
    · intro k r hr
      rw [hruns] at hr
      rw [hlast]
      exact h.carries hr
    · intro k₁ k₂ r₁ r₂ hr₁ hr₂
      rw [hruns] at hr₁ hr₂
      exact h.distinct hr₁ hr₂
  · constructor
    · intro k' r' hr'
      rcases get?_of_writes hruns hr' with ⟨-, rfl⟩ | ⟨-, hr'⟩
      · exact ⟨s.lastVersion + 1, by omega, by omega, s.stampVersion_carries r⟩
      · obtain ⟨v, hone, hv, hcarries⟩ := h.carries hr'
        exact ⟨v, hone, by omega, hcarries⟩
    · intro k₁ k₂ r₁ r₂ hr₁ hr₂ hversion
      rcases get?_of_writes hruns hr₁ with ⟨rfl, rfl⟩ | ⟨-, hr₁⟩ <;>
        rcases get?_of_writes hruns hr₂ with ⟨rfl, rfl⟩ | ⟨-, hr₂⟩
      · rfl
      · obtain ⟨v, -, hv, hcarries⟩ := h.carries hr₂
        exact absurd hversion (next_version_ne hv hcarries)
      · obtain ⟨v, -, hv, hcarries⟩ := h.carries hr₁
        exact absurd hversion.symm (next_version_ne hv hcarries)
      · exact h.distinct hr₁ hr₂ hversion
  · constructor
    · intro k' r' hr'
      rw [hlast]
      exact h.carries (get?_of_erases hruns hr')
    · intro k₁ k₂ r₁ r₂ hr₁ hr₂
      exact h.distinct (get?_of_erases hruns hr₁) (get?_of_erases hruns hr₂)

/-- A version that was issued is never issued again. -/
theorem Held.evolves {s s' : Store} {k : RunKey} {r : Run} (h : s.Held k r)
    (he : s.Evolves s') : s'.Held k r := by
  obtain ⟨v, hv, hcarries⟩ := h.carries
  rcases he with ⟨hruns, hlast⟩ | ⟨k', r', hruns, hlast⟩ | ⟨k', hruns, hlast⟩
  · refine ⟨⟨v, by omega, hcarries⟩, ?_⟩
    intro k' r' hr'
    rw [hruns] at hr'
    exact h.only hr'
  · refine ⟨⟨v, by omega, hcarries⟩, ?_⟩
    intro k'' r'' hr'' hversion
    rcases get?_of_writes hruns hr'' with ⟨-, rfl⟩ | ⟨-, hr''⟩
    · exact absurd hversion (next_version_ne hv hcarries)
    · exact h.only hr'' hversion
  · refine ⟨⟨v, by omega, hcarries⟩, ?_⟩
    intro k'' r'' hr''
    exact h.only (get?_of_erases hruns hr'')

/-- An object that is gone does not come back. -/
theorem Held.stays_gone {s s' : Store} {k : RunKey} {r : Run} (h : s.Held k r)
    (he : s.Evolves s') (hgone : s.runs.get? k ≠ some r) : s'.runs.get? k ≠ some r := by
  intro hback
  obtain ⟨v, hv, hcarries⟩ := h.carries
  rcases he with ⟨hruns, -⟩ | ⟨k', r', hruns, -⟩ | ⟨k', hruns, -⟩
  · exact hgone (hruns ▸ hback)
  · rcases get?_of_writes hruns hback with ⟨-, rfl⟩ | ⟨-, hback⟩
    · exact next_version_ne hv hcarries rfl
    · exact hgone hback
  · exact hgone (get?_of_erases hruns hback)

end Store

namespace World

/-- The versions are in order after every history. -/
theorem versioned_after {w : World} (hw : w.store.Versioned) (h : List Action) :
    (w.after h).store.Versioned :=
  after_invariant (fun w => w.store.Versioned) (fun w a hw => hw.evolves (w.evolves_act a)) h hw

/-- An object that the store has held is known to it ever after. -/
theorem held_after {w : World} {k : RunKey} {r : Run} (hw : w.store.Held k r) (h : List Action) :
    (w.after h).store.Held k r :=
  after_invariant (fun w => w.store.Held k r) (fun w a hw => hw.evolves (w.evolves_act a)) h hw

/-- An object that is stored at the end of a history, and was held at its beginning, was stored all
the time. -/
theorem stored_of_stored_after {w : World} {k : RunKey} {r : Run} (hw : w.store.Held k r)
    (h : List Action) (hr : (w.after h).store.runs.get? k = some r) :
    w.store.runs.get? k = some r := by
  induction h generalizing w with
  | nil => exact hr
  | cons a h ih =>
    have hnext := ih (hw.evolves (w.evolves_act a)) hr
    exact Classical.byContradiction fun hgone => hw.stays_gone (w.evolves_act a) hgone hnext

end World

end RunOperator
