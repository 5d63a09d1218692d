import Mathlib.Data.List.Forall2
import Mathlib.Data.Option.Basic
import RunOperator.Json.Decode

/-!
# Members of objects and their readers

What a reader finds under a name among written members is what was written there
(`Json.optional_of_lookup`). Most readers accept exactly what their writer writes
(`Json.text?_eq_some`, `Json.readTexts_eq_some` and so on), so nothing is changed when a value is
read and written again.
-/

namespace RunOperator

/-! ### Readers in sequence -/

/-- The next part is read. -/
theorem bind_of_eq_some {α β : Type} {part : Option α} {rest : α → Option β} {a : α}
    {result : Option β} (hpart : part = some a) (hrest : rest a = result) :
    (part >>= rest) = result := by
  rw [hpart]
  exact hrest

/-- What holds of each result of the rest holds of the result. -/
theorem of_bind {α β : Type} {part : Option α} {rest : α → Option β} {P : β → Prop}
    (hrest : ∀ a, part = some a → ∀ b, rest a = some b → P b) :
    ∀ b, (part >>= rest) = some b → P b := by
  intro b hb
  obtain ⟨a, ha, hb⟩ := Option.bind_eq_some_iff.1 hb
  exact hrest a ha b hb

/-- Reading all of a list is reading each of its items. -/
theorem mapM_eq_some_iff {α β : Type} {f : α → Option β} {as : List α} {bs : List β} :
    as.mapM f = some bs ↔ List.Forall₂ (fun a b => f a = some b) as bs := by
  induction as generalizing bs with
  | nil => simp [List.forall₂_nil_left_iff, eq_comm]
  | cons a as ih =>
    rw [List.mapM_cons, List.forall₂_cons_left_iff]
    constructor
    · intro h
      obtain ⟨b, hb, h⟩ := Option.bind_eq_some_iff.1 h
      obtain ⟨bs', hbs', h⟩ := Option.bind_eq_some_iff.1 h
      exact ⟨b, bs', hb, ih.1 hbs', (Option.some.inj h).symm⟩
    · rintro ⟨b, bs', hb, hbs', rfl⟩
      rw [hb, ih.2 hbs']
      rfl

private theorem forall₂_eq_map_iff {α β : Type} {f : β → α} {as : List α} {bs : List β} :
    List.Forall₂ (fun a b => a = f b) as bs ↔ as = bs.map f := by
  rw [← List.forall₂_eq_eq_eq, List.forall₂_map_right_iff]

namespace Json

variable {α : Type} {read : Json → Option α} {write : α → Json} {ms ms' : List (String × Json)}
  {name : String} {v : Json}

/-! ### Looking up -/

/-- Nothing is found among no members. -/
@[simp] theorem lookup_nil (name : String) : lookup name [] = none := rfl

/-- The first member counts if it has the name. -/
@[simp] theorem lookup_cons (name name' : String) (v : Json) (ms : List (String × Json)) :
    lookup name ((name', v) :: ms) = if name' = name then some v else lookup name ms := by
  by_cases hname : name' = name <;> simp [lookup, hname]

/-- Members that stand behind others count where those have none of the name. -/
@[simp] theorem lookup_append (name : String) (ms ms' : List (String × Json)) :
    lookup name (ms ++ ms') = (lookup name ms).or (lookup name ms') := by
  rw [lookup, List.find?_append, Option.map_or]
  rfl

/-- A value that is found is that of a member. -/
theorem mem_of_lookup (h : lookup name ms = some v) : (name, v) ∈ ms := by
  obtain ⟨m, hm, rfl⟩ := Option.map_eq_some_iff.1 h
  have hname : m.1 = name := by simpa using List.find?_some hm
  exact hname ▸ List.mem_of_find?_eq_some hm

/-- A member of an object is found among its members. -/
@[simp] theorem get?_object (name : String) (ms : List (String × Json)) :
    get? name (.object ms) = lookup name ms := rfl

/-- A member that is written is found if its value is present. -/
@[simp] theorem lookup_written? (name name' : String) (write : α → Json) (value : Option α) :
    lookup name (written? name' write value) =
      if name' = name then value.map write else none := by
  cases value <;> simp [written?, member?]

/-- A change that is not written. -/
theorem written?_map {value : Option α} {f : α → α} (hf : ∀ a ∈ value, write (f a) = write a) :
    written? name write (value.map f) = written? name write value := by
  cases value with
  | none => rfl
  | some a => exact congrArg (fun v => member? name (some v)) (hf a rfl)

/-! ### Members that may be missing -/

/-- A value that is present is read. -/
structure ReadsAs (read : Json → Option α) (v : Json) (a : α) : Prop where
  ne_null : v ≠ .null
  read_eq : read v = some a

/-- An optional member is absent if it is not there or `null`. -/
theorem optional_eq_none_iff :
    optional ms name read = some none ↔ lookup name ms = none ∨ lookup name ms = some .null := by
  unfold optional
  split
  · next hlookup => simp [hlookup]
  · next hlookup => simp [hlookup]
  · next v hnull hlookup =>
    have hne : v ≠ .null := hnull
    simp [hlookup, hne]

/-- An optional member is present if its value is not `null` and can be read. -/
theorem optional_eq_some_iff {a : α} :
    optional ms name read = some (some a) ↔
      ∃ v, lookup name ms = some v ∧ ReadsAs read v a := by
  unfold optional
  split
  · next hlookup => simp [hlookup]
  · next hlookup =>
    rw [hlookup]
    constructor
    · rintro ⟨⟩
    · rintro ⟨v, ⟨⟩, hread⟩
      exact absurd rfl hread.ne_null
  · next v hnull hlookup =>
    rw [hlookup, Option.map_eq_some_iff]
    constructor
    · rintro ⟨a, hread, ⟨⟩⟩
      exact ⟨v, rfl, hnull, hread⟩
    · rintro ⟨v, ⟨⟩, hread⟩
      exact ⟨a, hread.read_eq, rfl⟩

/-- A member is read as it was written. -/
theorem optional_of_lookup (value : Option α) {f : α → α}
    (hlookup : lookup name ms = value.map write)
    (hread : ∀ a ∈ value, ReadsAs read (write a) (f a)) :
    optional ms name read = some (value.map f) := by
  cases value with
  | none => exact optional_eq_none_iff.2 (Or.inl hlookup)
  | some a => exact optional_eq_some_iff.2 ⟨write a, hlookup, hread a rfl⟩

private theorem textOrEmpty_of_lookup {s : String} (hlookup : lookup name ms = some (.string s)) :
    textOrEmpty ms name = some s := by
  have hread : optional ms name text? = some (some s) :=
    optional_eq_some_iff.2 ⟨.string s, hlookup, Json.noConfusion, rfl⟩
  rw [textOrEmpty, hread]
  rfl

/-! The members of an object are read one after the other. -/

section Sequence

variable {β : Type} {result : Option β}

/-- Reading goes on with what is read from an optional member that was written, even if reading
changes it. -/
theorem bind_changed (value : Option α) {f : α → α} {rest : Option α → Option β}
    (hlookup : lookup name ms = value.map write)
    (hread : ∀ a ∈ value, ReadsAs read (write a) (f a)) (hrest : rest (value.map f) = result) :
    (optional ms name read >>= rest) = result :=
  bind_of_eq_some (optional_of_lookup value hlookup hread) hrest

/-- Reading goes on with the value of an optional member that was written. -/
theorem bind_written (value : Option α) {rest : Option α → Option β}
    (hlookup : lookup name ms = value.map write)
    (hread : ∀ a ∈ value, ReadsAs read (write a) a) (hrest : rest value = result) :
    (optional ms name read >>= rest) = result :=
  bind_changed (f := id) value hlookup hread (by rwa [Option.map_id, id])

/-- Reading goes on with a text that was written. -/
theorem bind_text (s : String) {rest : String → Option β}
    (hlookup : lookup name ms = some (.string s)) (hrest : rest s = result) :
    (textOrEmpty ms name >>= rest) = result :=
  bind_of_eq_some (textOrEmpty_of_lookup hlookup) hrest

end Sequence

/-! ### Exact readers -/

/-- A text is read from a string, and from nothing else. -/
theorem text?_eq_some {s : String} : text? v = some s ↔ v = .string s := by
  cases v <;> simp [text?]

/-- Members are read from an object, and from nothing else. -/
theorem members?_eq_some : members? v = some ms ↔ v = .object ms := by
  cases v <;> simp [members?]

/-- An integer is read from its number, and from nothing else. -/
theorem int?_eq_some {n : Int} : int? v = some n ↔ v = ofInt n := by
  cases v with
  | number value => cases value <;> simp [int?, ofInt]
  | _ => simp [int?, ofInt]

/-- An integer is read from its number if it lies in the range. -/
theorem readInt_eq_some {low high n : Int} :
    readInt low high v = some n ↔ v = ofInt n ∧ low ≤ n ∧ n ≤ high := by
  rw [readInt, Option.bind_eq_some_iff]
  constructor
  · rintro ⟨m, hm, h⟩
    split at h
    · next hrange =>
      cases h
      exact ⟨int?_eq_some.1 hm, hrange⟩
    · cases h
  · rintro ⟨hv, hrange⟩
    exact ⟨n, int?_eq_some.2 hv, if_pos hrange⟩

/-- An array is read item by item. -/
theorem readItems_eq_some {as : List α} :
    readItems read v = some as ↔
      ∃ items, v = .array items ∧ List.Forall₂ (fun i a => read i = some a) items as := by
  cases v <;> simp [readItems, mapM_eq_some_iff]

/-- What holds of all that a reader reads holds of the items that were read. -/
theorem forall_of_readItems {P : α → Prop} {as : List α} (hP : ∀ v a, read v = some a → P a)
    (h : readItems read v = some as) : ∀ a ∈ as, P a := by
  obtain ⟨items, -, hitems⟩ := readItems_eq_some.1 h
  clear h
  induction hitems with
  | nil => exact List.forall_mem_nil P
  | cons hitem _ ih => exact List.forall_mem_cons.2 ⟨hP _ _ hitem, ih⟩

/-- A list of texts is read from an array of strings, and from nothing else. -/
theorem readTextList_eq_some {texts : List String} :
    readItems text? v = some texts ↔ v = ofTextList texts := by
  simp only [readItems_eq_some, text?_eq_some, forall₂_eq_map_iff, ofTextList]
  constructor
  · rintro ⟨items, rfl, rfl⟩
    rfl
  · rintro rfl
    exact ⟨_, rfl, rfl⟩

/-- Named texts are read from an object of strings, and from nothing else. -/
theorem readTexts_eq_some {texts : List (String × String)} :
    readTexts v = some texts ↔ v = ofTexts texts := by
  have hmember (m : String × Json) (t : String × String) :
      (text? m.2).map (m.1, ·) = some t ↔ m = (t.1, Json.string t.2) := by
    rw [Option.map_eq_some_iff]
    simp only [text?_eq_some]
    constructor
    · rintro ⟨s, hs, rfl⟩
      rw [← hs]
    · rintro rfl
      exact ⟨t.2, rfl, rfl⟩
  cases v with
  | object members =>
    simp only [readTexts, readMembers, mapM_eq_some_iff, hmember, forall₂_eq_map_iff, ofTexts,
      Json.object.injEq]
  | _ => simp [readTexts, readMembers, ofTexts]

/-! ### Written values are read -/

/-- A string is read as its text. -/
theorem readsAs_string (s : String) : ReadsAs text? (.string s) s :=
  ⟨Json.noConfusion, rfl⟩

/-- A truth value is read as itself. -/
theorem readsAs_bool (b : Bool) : ReadsAs bool? (.bool b) b :=
  ⟨Json.noConfusion, rfl⟩

/-- An object is read as its members. -/
theorem readsAs_object (ms : List (String × Json)) : ReadsAs members? (.object ms) ms :=
  ⟨Json.noConfusion, rfl⟩

/-- An integer of the range is read as itself. -/
theorem readsAs_ofInt {low high n : Int} (hrange : low ≤ n ∧ n ≤ high) :
    ReadsAs (readInt low high) (ofInt n) n :=
  ⟨Json.noConfusion, readInt_eq_some.2 ⟨rfl, hrange⟩⟩

/-- Named texts are read as they were written. -/
theorem readsAs_ofTexts (texts : List (String × String)) :
    ReadsAs readTexts (ofTexts texts) texts :=
  ⟨Json.noConfusion, readTexts_eq_some.2 rfl⟩

/-- The items of an array are read as they were written. -/
theorem readsAs_array {as : List α} {f : α → α} (hread : ∀ a ∈ as, read (write a) = some (f a)) :
    ReadsAs (readItems read) (.array (as.map write)) (as.map f) := by
  refine ⟨Json.noConfusion, readItems_eq_some.2 ⟨_, rfl, ?_⟩⟩
  rw [List.forall₂_map_left_iff, List.forall₂_map_right_iff, List.forall₂_same]
  exact hread

/-- Items that can be read are read from their array. -/
theorem readsAs_items {as : List α} (hread : ∀ a ∈ as, read (write a) = some a) :
    ReadsAs (readItems read) (.array (as.map write)) as := by
  have hitems := readsAs_array (f := id) hread
  rwa [List.map_id] at hitems

/-- A list of texts is read as it was written. -/
theorem readsAs_ofTextList (texts : List String) :
    ReadsAs (readItems text?) (ofTextList texts) texts :=
  ⟨Json.noConfusion, readTextList_eq_some.2 rfl⟩

end Json

end RunOperator
