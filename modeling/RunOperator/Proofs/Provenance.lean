import RunOperator.Proofs.Broadcast
import RunOperator.Proofs.Versions

/-!
# The version of an object says which write it is

Whoever creates, modifies or replaces runs, and whatever versions they put into their objects, the
writes of a history carry the versions 1, 2, 3 and so on, across all runs (`Store.Chronicles`). Each
stored run is one of these writes and stands under its own key. So the version identifies the
object: at no two moments of a history do different objects carry the same
(`World.versions_identify_objects`).
-/

namespace RunOperator

/-- The run that is modified keeps its key. -/
def StoreChange.KeepsKeyIn (s : Store) : StoreChange → Prop
  | .modify k edit => ∀ r, s.runs.get? k = some r → (edit r).key = r.key
  | _ => True

namespace Store

variable {s s' : Store} {c : StoreChange} {written : Option Run} {writes : List Run}

/-- The object that a change has written, as it is answered to the writer. -/
def written? (s : Store) : StoreChange → Option Run
  | .insert r => some (s.insert r).1
  | .modify k edit => (s.modify k edit).1
  | .replace r => (s.replace r).1.toOption
  | _ => none

/-- What a change that keeps the keys can do to the runs, with the object that it writes. -/
inductive Records (s s' : Store) : Option Run → Prop where
  | still : s'.runs = s.runs → s'.lastVersion = s.lastVersion → Records s s' none
  | erases (k : RunKey) : s'.runs = s.runs.erase k → s'.lastVersion = s.lastVersion →
      Records s s' none
  | writes (r : Run) : s'.runs = s.runs.insert r.key (s.stampVersion r) →
      s'.lastVersion = s.lastVersion + 1 → Records s s' (some (s.stampVersion r))

/-- A replacement that succeeds writes one object, and one that fails writes nothing. -/
theorem records_replace (s : Store) (r : Run) :
    s.Records (s.replace r).2 (s.written? (.replace r)) := by
  rw [written?]
  cases hanswer : (s.replace r).1 with
  | error e =>
    obtain ⟨hruns, hlast⟩ := runs_replace_of_error hanswer
    exact .still hruns hlast
  | ok written =>
    obtain ⟨hruns, hlast⟩ := runs_replace_of_ok hanswer
    obtain ⟨-, -, rfl⟩ := replace_eq_ok_iff.1 hanswer
    exact .writes r hruns hlast

/-- A change that keeps the keys writes at most one object, under the key of the object. -/
theorem records_change (hs : s.Filed) (hc : c.KeepsKeyIn s) :
    s.Records (s.change c) (s.written? c) := by
  cases c with
  | insert r => exact .writes r rfl rfl
  | delete k =>
    simp only [change, delete, written?]
    split
    · exact .erases k rfl rfl
    · exact .still rfl rfl
  | modify k edit =>
    simp only [change, modify, written?]
    split
    · next r hr =>
      obtain rfl : (edit r).key = k := (hc r hr).trans (hs k r hr)
      exact .writes (edit r) rfl rfl
    · exact .still rfl rfl
  | get k => exact .still (runs_get s k) (lastVersion_get s k)
  | replace r => exact records_replace s r
  | _ => exact .still rfl rfl

/-- The store after some writes: each of them carries its number as its version, and each stored run
is one of them and stands under its own key. -/
structure Chronicles (s : Store) (writes : List Run) : Prop where
  lastVersion : s.lastVersion = writes.length
  carries : ∀ {n : Nat} {r : Run}, writes[n]? = some r → r.Carries (n + 1)
  filed : s.Filed
  stored : ∀ {k : RunKey} {r : Run}, s.runs.get? k = some r → r ∈ writes

/-- An empty store is one after no writes. -/
theorem chronicles_empty : Store.empty.Chronicles [] where
  lastVersion := rfl
  carries := by simp
  filed := filed_empty
  stored := by
    intro k r h
    cases h

/-- A change adds what it writes to the writes. -/
theorem Chronicles.records (h : s.Chronicles writes) (hrecords : s.Records s' written) :
    s'.Chronicles (writes ++ written.toList) := by
  cases hrecords with
  | still hruns hlast =>
    rw [Option.toList_none, List.append_nil]
    exact ⟨hlast.trans h.lastVersion, h.carries, h.filed.congr hruns,
      fun hr => h.stored (hruns ▸ hr)⟩
  | erases k hruns hlast =>
    have hkept {k' : RunKey} {r : Run} (hr : s'.runs.get? k' = some r) :
        s.runs.get? k' = some r := by
      rw [hruns, KeyMap.get?_erase] at hr
      split at hr
      · cases hr
      · exact hr
    rw [Option.toList_none, List.append_nil]
    exact ⟨hlast.trans h.lastVersion, h.carries, fun k' r hr => h.filed k' r (hkept hr),
      fun hr => h.stored (hkept hr)⟩
  | writes r hruns hlast =>
    rw [Option.toList_some]
    refine ⟨?_, ?_, h.filed.insert (key_stampVersion s r) hruns, ?_⟩
    · rw [hlast, h.lastVersion, List.length_append, List.length_singleton]
    · intro n r' hr'
      rw [List.getElem?_append] at hr'
      split at hr'
      · exact h.carries hr'
      · next hle =>
        obtain ⟨hn, rfl⟩ := List.getElem?_eq_some_iff.1 hr'
        have hlength : n = writes.length := by
          rw [List.length_singleton] at hn
          omega
        rw [List.getElem_singleton, hlength, ← h.lastVersion]
        exact s.stampVersion_carries r
    · intro k r' hr'
      rw [hruns, KeyMap.get?_insert] at hr'
      split at hr'
      · cases hr'
        exact List.mem_concat_self
      · exact List.mem_append_left _ (h.stored hr')

/-- Every object that was written carries a version between the first one and the last one. -/
theorem Chronicles.exists_carries (h : s.Chronicles writes) {r : Run} (hr : r ∈ writes) :
    ∃ v, 1 ≤ v ∧ v ≤ s.lastVersion ∧ r.Carries v := by
  obtain ⟨n, hn⟩ := List.mem_iff_getElem?.1 hr
  have hlt := (List.getElem?_eq_some_iff.1 hn).1
  exact ⟨n + 1, Nat.succ_pos n, by rw [h.lastVersion]; exact hlt, h.carries hn⟩

/-- Two writes that carry the same version are the same. -/
theorem Chronicles.eq_of_version (h : s.Chronicles writes) {r r' : Run} (hr : r ∈ writes)
    (hr' : r' ∈ writes) (hversion : r.metadata.resourceVersion = r'.metadata.resourceVersion) :
    r = r' := by
  obtain ⟨n, hn⟩ := List.mem_iff_getElem?.1 hr
  obtain ⟨n', hn'⟩ := List.mem_iff_getElem?.1 hr'
  have hsame : n' + 1 = n + 1 := ((h.carries hn').congr hversion).unique (h.carries hn)
  obtain rfl := Nat.succ.inj hsame
  exact Option.some.inj (hn.symm.trans hn')

end Store

namespace World

variable {w : World} {a : Action} {h : List Action}

/-- The action leaves the run that it modifies its key. -/
def KeepsKey (w : World) : Action → Prop
  | .store c => c.KeepsKeyIn w.store
  | _ => True

/-- The object that an action writes. -/
def written? (w : World) (a : Action) : Option Run := (w.change? a).bind w.store.written?

/-- The objects that the actions of a history write, in order. -/
def writes (w : World) : List Action → List Run
  | [] => []
  | a :: h => (w.written? a).toList ++ (w.act a).writes h

/-- The object that is stored under a key after the first actions of a history. -/
def storedAt (w : World) (h : List Action) (count : Nat) (k : RunKey) : Option Run :=
  (w.afterFirst h count).store.runs.get? k

/-- The writes of a history are those of its parts, one after the other. -/
theorem writes_append (w : World) (first second : List Action) :
    w.writes (first ++ second) = w.writes first ++ (w.after first).writes second := by
  induction first generalizing w with
  | nil => rfl
  | cons a first ih => rw [List.cons_append, writes, writes, ih, after_cons, List.append_assoc]

private theorem keepsKeyIn_of_change? {c : StoreChange} (ha : w.KeepsKey a)
    (hc : w.change? a = some c) : c.KeepsKeyIn w.store := by
  cases a with
  | store c' =>
    cases hc
    exact ha
  | monitor n =>
    simp only [change?] at hc
    split at hc <;> cases hc <;> trivial
  | dispatchWatch scope =>
    cases hc
    trivial
  | _ => cases hc

/-- An action writes at most one object, under the key of the object. -/
theorem records_act (hw : w.store.Filed) (ha : w.KeepsKey a) :
    w.store.Records (w.act a).store (w.written? a) := by
  have hother (hloop : ∀ n, a ≠ .loop n) : w.store.Records (w.act a).store (w.written? a) := by
    rw [store_act_eq hloop, written?]
    cases hc : w.change? a with
    | none => exact .still rfl rfl
    | some c => exact Store.records_change hw (keepsKeyIn_of_change? ha hc)
  cases a with
  | loop n =>
    obtain ⟨hruns, hlast⟩ := w.runs_act (a := .loop n) (by simp) (by simp)
    exact .still hruns hlast
  | _ => exact hother (by simp)

/-- After a history the store is one after the writes of the history. -/
theorem chronicles_after {earlier : List Run} (hw : w.store.Chronicles earlier)
    (hkeys : w.Along KeepsKey h) : (w.after h).store.Chronicles (earlier ++ w.writes h) := by
  induction h generalizing w earlier with
  | nil => rwa [writes, List.append_nil]
  | cons a h ih =>
    rw [writes, ← List.append_assoc]
    exact ih (hw.records (records_act hw.filed hkeys.1)) hkeys.2

/-- What is stored at some time of a history is one of its writes. -/
theorem mem_writes_of_storedAt (hw : w.store.Chronicles []) (hkeys : w.Along KeepsKey h)
    {count : Nat} {k : RunKey} {r : Run} (hr : w.storedAt h count k = some r) :
    r ∈ w.writes h := by
  have hmem : r ∈ w.writes (h.take count) := (chronicles_after hw (hkeys.take count)).stored hr
  rw [← List.take_append_drop count h, writes_append]
  exact List.mem_append_left _ hmem

/-- A write is stored with the version that comes after those of all earlier writes. -/
theorem written_act {earlier : List Run} {r : Run} (hw : w.store.Chronicles earlier)
    (ha : w.KeepsKey a) (hr : w.written? a = some r) :
    (w.act a).store.runs.get? r.key = some r ∧ r.Carries (earlier.length + 1) ∧
      (w.act a).store.lastVersion = earlier.length + 1 := by
  have hrecords := records_act hw.filed ha
  rw [hr] at hrecords
  cases hrecords with
  | writes r hruns hlast =>
    refine ⟨?_, hw.lastVersion ▸ w.store.stampVersion_carries r, by rw [hlast, hw.lastVersion]⟩
    rw [hruns]
    exact KeyMap.get?_insert_self _ _ _

/-- **Versions identify objects.** Take any history in which nobody gives a stored run another key,
whatever else is written into the objects. At each time every stored run stands under its own key
and carries the number of a write as its version, and no two stored runs carry the same. A write is
stored with a version that is greater than those of all writes before. At no two times are different
objects stored with the same version. -/
theorem versions_identify_objects (settings : Settings) (wall : Instant) (h : List Action)
    (hkeys : (initial settings wall).Along KeepsKey h) :
    (∀ t, ((initial settings wall).afterFirst h t).store.lastVersion =
      ((initial settings wall).writes (h.take t)).length) ∧
    (∀ t k r, (initial settings wall).storedAt h t k = some r → r.key = k ∧
      ∃ v, 1 ≤ v ∧ v ≤ ((initial settings wall).afterFirst h t).store.lastVersion ∧
        r.Carries v) ∧
    (∀ t k k' r r', (initial settings wall).storedAt h t k = some r →
      (initial settings wall).storedAt h t k' = some r' → k ≠ k' →
      r.metadata.resourceVersion ≠ r'.metadata.resourceVersion) ∧
    (∀ t a r, h[t]? = some a → ((initial settings wall).afterFirst h t).written? a = some r →
      (initial settings wall).storedAt h (t + 1) r.key = some r ∧
      ∃ v, ((initial settings wall).afterFirst h (t + 1)).store.lastVersion = v ∧ r.Carries v ∧
        ∀ earlier ∈ (initial settings wall).writes (h.take t), ∃ v', v' < v ∧
          earlier.Carries v') ∧
    (∀ t t' k k' r r', (initial settings wall).storedAt h t k = some r →
      (initial settings wall).storedAt h t' k' = some r' →
      r.metadata.resourceVersion = r'.metadata.resourceVersion → k = k' ∧ r = r') := by
  have hempty : (initial settings wall).store.Chronicles [] := Store.chronicles_empty
  have hall := chronicles_after hempty hkeys
  have hfirst (t : Nat) := chronicles_after hempty (hkeys.take t)
  -- The key of a stored object is its own, so equal objects have equal keys.
  have hunique {t t' : Nat} {k k' : RunKey} {r r' : Run}
      (hr : (initial settings wall).storedAt h t k = some r)
      (hr' : (initial settings wall).storedAt h t' k' = some r')
      (hversion : r.metadata.resourceVersion = r'.metadata.resourceVersion) : k = k' ∧ r = r' := by
    obtain rfl := hall.eq_of_version (mem_writes_of_storedAt hempty hkeys hr)
      (mem_writes_of_storedAt hempty hkeys hr') hversion
    exact ⟨((hfirst t).filed k r hr).symm.trans ((hfirst t').filed k' r hr'), rfl⟩
  refine ⟨fun t => (hfirst t).lastVersion, ?_, ?_, ?_, ?_⟩
  · intro t k r hr
    exact ⟨(hfirst t).filed k r hr, (hfirst t).exists_carries ((hfirst t).stored hr)⟩
  · intro t k k' r r' hr hr' hne hversion
    exact hne (hunique hr hr' hversion).1
  · intro t a r ha hr
    obtain ⟨hstored, hcarries, hlast⟩ := written_act (hfirst t) (hkeys.of_getElem? ha) hr
    rw [storedAt, afterFirst_succ _ ha]
    refine ⟨hstored, _, hlast, hcarries, ?_⟩
    intro earlier hearlier
    obtain ⟨v', -, hle, hcarries'⟩ := (hfirst t).exists_carries hearlier
    rw [(hfirst t).lastVersion] at hle
    exact ⟨v', Nat.lt_succ_of_le hle, hcarries'⟩
  · intro t t' k k' r r' hr hr' hversion
    exact hunique hr hr' hversion

/-- All writers claim the version "2" for what they write: those that create runs, one that modifies
a run, one that creates a run again after it was deleted, and two that replace a run. The first of
these two is refused, since what it would replace has the version "4". -/
def claimantHistory : List Action :=
  let a := (Run.named "ns" "a" RunSpec.empty).setVersion (some "2")
  let b := (Run.named "ns" "b" RunSpec.empty).setVersion (some "2")
  [.store (.insert a), .store (.insert b), .store (.modify a.key (·.setVersion (some "2"))),
    .store (.delete a.key), .store (.insert a), .store (.replace a), .store (.replace b)]

/-- The runs of the claimants carry the numbers of their writes. -/
theorem versions_identify_objects_of_claimantHistory :
    (initial .standard ⟨0, 0⟩).Along KeepsKey claimantHistory ∧
    ((initial .standard ⟨0, 0⟩).writes claimantHistory).map (·.metadata.resourceVersion) =
      [some "1", some "2", some "3", some "4", some "5"] ∧
    (∀ t t' k k' r r', (initial .standard ⟨0, 0⟩).storedAt claimantHistory t k = some r →
      (initial .standard ⟨0, 0⟩).storedAt claimantHistory t' k' = some r' →
      r.metadata.resourceVersion = r'.metadata.resourceVersion → k = k' ∧ r = r') := by
  have hkeys : (initial .standard ⟨0, 0⟩).Along KeepsKey claimantHistory :=
    ⟨trivial, trivial, fun _ _ => rfl, trivial, trivial, trivial, trivial, trivial⟩
  obtain ⟨-, -, -, -, hunique⟩ := versions_identify_objects .standard ⟨0, 0⟩ claimantHistory hkeys
  exact ⟨hkeys, rfl, hunique⟩

end World

end RunOperator
