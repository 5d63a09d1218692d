/-!
# Run keys

A run is identified by its namespace and its name. Keys are ordered by namespace and then by name,
each by code point.

`KeyMap` is a finite map on keys whose entries stand in strictly increasing order of their keys.
Looking up a key after an insertion, an erasure or a filtering answers as for any map
(`get?_insert`, `get?_erase`, `get?_restrict`).
-/

namespace RunOperator

/-- The identity of a run. -/
structure RunKey where
  ns : String
  name : String
  deriving DecidableEq, Inhabited, Hashable

namespace RunKey

/-- Namespace first, then name. -/
protected def lt (a b : RunKey) : Prop := a.ns < b.ns ∨ (a.ns = b.ns ∧ a.name < b.name)

instance : LT RunKey := ⟨RunKey.lt⟩

instance (a b : RunKey) : Decidable (a < b) :=
  inferInstanceAs (Decidable (a.ns < b.ns ∨ (a.ns = b.ns ∧ a.name < b.name)))

/-- The key as it is shown. -/
def display (k : RunKey) : String := k.ns ++ "/" ++ k.name

/-- The key lies in the scope: a namespace, or `none` for all of them. -/
def inScope (k : RunKey) : Option String → Bool
  | none => true
  | some ns => k.ns == ns

/-- No key comes before itself. -/
theorem lt_irrefl (a : RunKey) : ¬ a < a := by
  rintro (h | ⟨_, h⟩)
  · exact String.lt_irrefl _ h
  · exact String.lt_irrefl _ h

/-- Keys are ordered. -/
theorem lt_trans {a b c : RunKey} (h₁ : a < b) (h₂ : b < c) : a < c := by
  rcases h₁ with h₁ | ⟨e₁, h₁⟩ <;> rcases h₂ with h₂ | ⟨e₂, h₂⟩
  · exact Or.inl (String.lt_trans h₁ h₂)
  · exact Or.inl (e₂ ▸ h₁)
  · exact Or.inl (e₁ ▸ h₂)
  · exact Or.inr ⟨e₁.trans e₂, String.lt_trans h₁ h₂⟩

/-- A key that comes before another is another one. -/
theorem ne_of_lt {a b : RunKey} (h : a < b) : a ≠ b := fun e => lt_irrefl a (e ▸ h)

/-- Of two different keys one comes first. -/
theorem lt_of_not_lt {a b : RunKey} (h₁ : a ≠ b) (h₂ : ¬ a < b) : b < a := by
  by_cases hn : a.ns = b.ns
  · have hne : a.name ≠ b.name := fun h => h₁ (by cases a; cases b; simp_all)
    have hle : b.name ≤ a.name := String.not_lt.1 fun h => h₂ (Or.inr ⟨hn, h⟩)
    exact Or.inr ⟨hn.symm, Decidable.byContradiction fun h =>
      hne (String.le_antisymm (String.not_lt.1 h) hle)⟩
  · have hle : b.ns ≤ a.ns := String.not_lt.1 fun h => h₂ (Or.inl h)
    exact Or.inl (Decidable.byContradiction fun h =>
      hn (String.le_antisymm (String.not_lt.1 h) hle))

end RunKey

/-- The keys of some entries increase strictly. -/
def KeysIncrease {α : Type} (entries : List (RunKey × α)) : Prop :=
  entries.Pairwise fun a b => a.1 < b.1

/-- A finite map on run keys, with its entries in the order of the keys. -/
structure KeyMap (α : Type) where
  entries : List (RunKey × α)
  increasing : KeysIncrease entries

namespace KeyMap

variable {α β : Type}

/-- The map without entries. -/
def empty : KeyMap α := ⟨[], List.Pairwise.nil⟩

instance : Inhabited (KeyMap α) := ⟨empty⟩

/-- The first value under a key among some entries. -/
def findEntry (k : RunKey) (entries : List (RunKey × α)) : Option α :=
  (entries.find? fun e => e.1 == k).map Prod.snd

/-- The value at a key. -/
def get? (m : KeyMap α) (k : RunKey) : Option α := findEntry k m.entries

/-- The value at a key, or the given one when there is none. -/
def getD (m : KeyMap α) (k : RunKey) (fallback : α) : α := (m.get? k).getD fallback

/-- The key has a value. -/
def contains (m : KeyMap α) (k : RunKey) : Bool := (m.get? k).isSome

/-- The keys in order. -/
def keys (m : KeyMap α) : List RunKey := m.entries.map Prod.fst

/-- The values in the order of their keys. -/
def values (m : KeyMap α) : List α := m.entries.map Prod.snd

/-- Puts an entry at its place, over an entry of the same key. -/
def insertEntry (k : RunKey) (a : α) : List (RunKey × α) → List (RunKey × α)
  | [] => [(k, a)]
  | e :: rest =>
    if e.1 = k then (k, a) :: rest
    else if k < e.1 then (k, a) :: e :: rest
    else e :: insertEntry k a rest

/-- An entry is the one that was put in or stood there before. -/
theorem mem_insertEntry {k : RunKey} {a : α} {e : RunKey × α} {entries : List (RunKey × α)}
    (h : e ∈ insertEntry k a entries) : e = (k, a) ∨ e ∈ entries := by
  induction entries with
  | nil => exact Or.inl (by simpa [insertEntry] using h)
  | cons d rest ih =>
    rw [insertEntry] at h
    split at h
    · rcases List.mem_cons.1 h with h | h
      · exact Or.inl h
      · exact Or.inr (List.mem_cons_of_mem _ h)
    · split at h
      · exact List.mem_cons.1 h
      · rcases List.mem_cons.1 h with h | h
        · exact Or.inr (h ▸ List.mem_cons_self)
        · exact (ih h).imp_right (List.mem_cons_of_mem _)

/-- Entries stay in the order of their keys when one is put in. -/
theorem keysIncrease_insertEntry {entries : List (RunKey × α)} (k : RunKey) (a : α)
    (h : KeysIncrease entries) : KeysIncrease (insertEntry k a entries) := by
  induction entries with
  | nil => simp [insertEntry, KeysIncrease]
  | cons d rest ih =>
    obtain ⟨hd, hrest⟩ := List.pairwise_cons.1 h
    rw [insertEntry]
    split
    next heq => exact List.pairwise_cons.2 ⟨fun e he => heq ▸ hd e he, hrest⟩
    next hne =>
      split
      next hlt =>
        refine List.pairwise_cons.2 ⟨fun e he => ?_, h⟩
        rcases List.mem_cons.1 he with rfl | he
        · exact hlt
        · exact RunKey.lt_trans hlt (hd e he)
      next hnlt =>
        refine List.pairwise_cons.2 ⟨fun e he => ?_, ih hrest⟩
        rcases mem_insertEntry he with rfl | he
        · exact RunKey.lt_of_not_lt (Ne.symm hne) hnlt
        · exact hd e he

/-- The map with the value at a key. -/
def insert (m : KeyMap α) (k : RunKey) (a : α) : KeyMap α :=
  ⟨insertEntry k a m.entries, keysIncrease_insertEntry k a m.increasing⟩

/-- The entries whose keys satisfy a test. -/
def restrict (m : KeyMap α) (keep : RunKey → Bool) : KeyMap α :=
  ⟨m.entries.filter fun e => keep e.1, m.increasing.filter _⟩

/-- The map without the key. -/
def erase (m : KeyMap α) (k : RunKey) : KeyMap α := m.restrict (· != k)

/-- Nothing is found in an empty map. -/
@[simp] theorem get?_empty (k : RunKey) : (empty : KeyMap α).get? k = none := rfl

/-- Among the entries the one that was put in is found under its key, and the others as before. -/
theorem findEntry_insertEntry (k k' : RunKey) (a : α) (entries : List (RunKey × α)) :
    findEntry k' (insertEntry k a entries) = if k = k' then some a else findEntry k' entries := by
  induction entries with
  | nil => by_cases h : k = k' <;> simp [findEntry, insertEntry, h]
  | cons d rest ih =>
    rw [insertEntry]
    split
    next heq => by_cases h : k = k' <;> simp_all [findEntry]
    next hne =>
      split
      next => by_cases h : k = k' <;> simp [findEntry, h]
      next =>
        by_cases h : d.1 = k'
        · have : k ≠ k' := fun e => hne (h.trans e.symm)
          simp [findEntry, h, this]
        · simp only [findEntry] at ih ⊢
          simp [h, ih]

/-- Inserting a value changes the answer for its key only. -/
theorem get?_insert (m : KeyMap α) (k k' : RunKey) (a : α) :
    (m.insert k a).get? k' = if k = k' then some a else m.get? k' :=
  findEntry_insertEntry k k' a m.entries

/-- What was put under a key is found there. -/
@[simp] theorem get?_insert_self (m : KeyMap α) (k : RunKey) (a : α) :
    (m.insert k a).get? k = some a := by simp [get?_insert]

/-- A restriction answers for the keys it keeps. -/
theorem get?_restrict (m : KeyMap α) (keep : RunKey → Bool) (k : RunKey) :
    (m.restrict keep).get? k = if keep k then m.get? k else none := by
  change findEntry k (m.entries.filter fun e => keep e.1) = _
  rw [get?]
  induction m.entries with
  | nil => simp [findEntry]
  | cons d rest ih =>
    by_cases hd : d.1 = k
    · cases hk : keep k with
      | true => simp [findEntry, hd, hk]
      | false => simpa [List.filter_cons, hd, hk] using ih
    · cases hkeep : keep d.1 <;> simpa [findEntry, List.filter_cons, hd, hkeep] using ih

/-- Erasing a key removes its value and no other. -/
theorem get?_erase (m : KeyMap α) (k k' : RunKey) :
    (m.erase k).get? k' = if k = k' then none else m.get? k' := by
  rw [erase, get?_restrict]
  by_cases h : k = k'
  · simp [h]
  · simp [h, Ne.symm h]

/-- What is found is an entry. -/
theorem mem_entries_of_get? {m : KeyMap α} {k : RunKey} {a : α} (h : m.get? k = some a) :
    (k, a) ∈ m.entries := by
  obtain ⟨e, he, rfl⟩ := Option.map_eq_some_iff.1 h
  have hk := List.find?_some he
  simp only [beq_iff_eq] at hk
  exact hk ▸ List.mem_of_find?_eq_some he

/-- An entry is found under its key. -/
theorem get?_of_mem_entries {m : KeyMap α} {k : RunKey} {a : α} (h : (k, a) ∈ m.entries) :
    m.get? k = some a := by
  obtain ⟨entries, increasing⟩ := m
  simp only [get?, findEntry] at h ⊢
  induction entries with
  | nil => simp at h
  | cons d rest ih =>
    obtain ⟨hd, hrest⟩ := List.pairwise_cons.1 increasing
    rcases List.mem_cons.1 h with rfl | h
    · simp
    · have hne : d.1 ≠ k := RunKey.ne_of_lt (hd _ h)
      simpa [List.find?_cons, hne] using ih hrest h

/-- The entries of a map are its keys with their values. -/
theorem mem_entries_iff {m : KeyMap α} {k : RunKey} {a : α} :
    (k, a) ∈ m.entries ↔ m.get? k = some a :=
  ⟨get?_of_mem_entries, mem_entries_of_get?⟩

/-- The keys of a map are those that it contains. -/
theorem mem_keys_iff {m : KeyMap α} {k : RunKey} : k ∈ m.keys ↔ m.contains k := by
  rw [keys, List.mem_map, contains, Option.isSome_iff_exists]
  constructor
  · rintro ⟨e, he, rfl⟩
    exact ⟨e.2, mem_entries_iff.1 he⟩
  · rintro ⟨a, ha⟩
    exact ⟨(k, a), mem_entries_iff.2 ha, rfl⟩

/-- The keys of a map increase strictly. -/
theorem pairwise_keys (m : KeyMap α) : m.keys.Pairwise (· < ·) :=
  List.pairwise_map.2 m.increasing

end KeyMap

/-- A finite set of run keys in order. -/
abbrev KeySet := KeyMap Unit

namespace KeySet

/-- The set without keys. -/
def empty : KeySet := KeyMap.empty

/-- The set with a key added. -/
def add (s : KeySet) (k : RunKey) : KeySet := s.insert k ()

end KeySet

end RunOperator
