import RunOperator.Proofs.ActionEffects

/-!
# What the operations of the store do to its runs

One lemma for each operation, and from them the three things that an action can do to the runs: it
leaves them, it writes one of them with the next version, or it deletes one (`evolves_act`).
-/

namespace RunOperator

/-- The word of a state is read back as the state. -/
theorem RunState.parse_word (s : RunState) : RunState.parse s.word = .ok s := by
  cases s <;> rfl

/-- A transition leads to its target, whatever version the run is given. -/
theorem Run.state_transition (r : Run) (source target : RunState) (now : Instant)
    (version : Option String) :
    ((r.transition source target now).setVersion version).state = .ok target :=
  target.parse_word

namespace Store

/-- A broadcast leaves the runs as they are. -/
@[simp] theorem runs_broadcast (s : Store) (k : RunKey) (e : WatchEvent) :
    (s.broadcast k e).runs = s.runs := rfl

/-- A write stores the object under its key with the next version. -/
@[simp] theorem runs_write (s : Store) (k : RunKey) (r : Run) :
    (s.write k r).2.runs = s.runs.insert k (s.stampVersion r) := rfl

/-- Reading changes no run. -/
@[simp] theorem runs_get (s : Store) (k : RunKey) : (s.get k).2.runs = s.runs := by
  unfold Store.get
  dsimp only
  split
  · rfl
  · split <;> rfl

/-- Reading a run takes no version. -/
@[simp] theorem lastVersion_get (s : Store) (k : RunKey) :
    (s.get k).2.lastVersion = s.lastVersion := by
  unfold Store.get
  dsimp only
  split
  · rfl
  · split <;> rfl

/-- Reading a run gives the stored object, unless an error stands in the way. -/
theorem get_eq_ok_iff {s : Store} {k : RunKey} {r : Run} :
    (s.get k).1 = .ok r ↔ s.getFailures.getD k [] = [] ∧ s.runs.get? k = some r := by
  unfold Store.get
  dsimp only
  split
  · next hfailures => simp [hfailures]
  · next hfailures =>
    split
    · next stored hstored => simp [hfailures, hstored]
    · next hstored => simp [hfailures, hstored]

/-- A replacement succeeds if and only if no error stands in its way, the run is stored, and the
object was made from the stored version. What is stored then is the object with the next version. -/
theorem replace_eq_ok_iff {s : Store} {r written : Run} :
    (s.replace r).1 = .ok written ↔ s.updateFailures.getD r.key [] = [] ∧
      (∃ stored, s.runs.get? r.key = some stored ∧
        r.metadata.resourceVersion = stored.metadata.resourceVersion) ∧
      written = s.stampVersion r := by
  unfold Store.replace
  dsimp only
  split
  · next hfailures => simp [hfailures]
  · next hfailures =>
    split
    · next hstored => simp [hfailures, hstored]
    · next stored hstored =>
      split
      · next hversion =>
        simp only [hfailures, hstored, hversion, true_and, Option.some.injEq, exists_eq_left',
          Except.ok.injEq]
        exact eq_comm
      · next hversion => simp [hfailures, hstored, hversion]

/-- The run that a replacement has stored stands under its key, and no other has changed. -/
theorem runs_replace_of_ok {s : Store} {r written : Run} (h : (s.replace r).1 = .ok written) :
    (s.replace r).2.runs = s.runs.insert r.key written ∧
      (s.replace r).2.lastVersion = s.lastVersion + 1 := by
  obtain ⟨hfailures, ⟨stored, hstored, hversion⟩, rfl⟩ := replace_eq_ok_iff.1 h
  unfold Store.replace
  simp only [hfailures, hstored, if_pos hversion]
  exact ⟨rfl, rfl⟩

/-- A replacement that fails changes no run. -/
theorem runs_replace_of_error {s : Store} {r : Run} {e : ClientError}
    (h : (s.replace r).1 = .error e) :
    (s.replace r).2.runs = s.runs ∧ (s.replace r).2.lastVersion = s.lastVersion := by
  unfold Store.replace at h ⊢
  dsimp only at h ⊢
  split
  · exact ⟨rfl, rfl⟩
  · next hfailures =>
    split
    · exact ⟨rfl, rfl⟩
    · next stored hstored =>
      split
      · next hversion =>
        simp [hfailures, hstored, hversion] at h
      · exact ⟨rfl, rfl⟩

/-- What can become of the runs in one action. -/
inductive Evolves (s s' : Store) : Prop where
  | still : s'.runs = s.runs → s'.lastVersion = s.lastVersion → Evolves s s'
  | writes (k : RunKey) (r : Run) : s'.runs = s.runs.insert k (s.stampVersion r) →
      s'.lastVersion = s.lastVersion + 1 → Evolves s s'
  | erases (k : RunKey) : s'.runs = s.runs.erase k → s'.lastVersion = s.lastVersion → Evolves s s'

/-- A store that stays as it is evolves. -/
theorem Evolves.refl (s : Store) : Evolves s s := .still rfl rfl

/-- No version is taken back. -/
theorem Evolves.lastVersion_le {s s' : Store} (h : Evolves s s') :
    s.lastVersion ≤ s'.lastVersion := by
  rcases h with ⟨-, hlast⟩ | ⟨-, -, -, hlast⟩ | ⟨-, -, hlast⟩ <;> omega

/-- A replacement writes its object or leaves the runs as they are. -/
theorem evolves_replace (s : Store) (r : Run) : Evolves s (s.replace r).2 := by
  cases h : (s.replace r).1 with
  | error e =>
    obtain ⟨hruns, hversion⟩ := runs_replace_of_error h
    exact .still hruns hversion
  | ok written =>
    obtain ⟨hruns, hversion⟩ := runs_replace_of_ok h
    obtain ⟨-, -, rfl⟩ := replace_eq_ok_iff.1 h
    exact .writes r.key r hruns hversion

/-- Every change writes one object, erases one or leaves the runs as they are. -/
theorem evolves_change (s : Store) (c : StoreChange) : Evolves s (s.change c) := by
  cases c with
  | insert r => exact .writes r.key r rfl rfl
  | delete k =>
    simp only [change, delete]
    split
    · exact .erases k rfl rfl
    · exact Evolves.refl s
  | modify k edit =>
    simp only [change, modify]
    split
    · next r _ => exact .writes k (edit r) rfl rfl
    · exact Evolves.refl s
  | get k => exact .still (runs_get s k) (lastVersion_get s k)
  | replace r => exact evolves_replace s r
  | _ => exact .still rfl rfl

/-- A call writes one object or leaves the runs as they are. -/
theorem evolves_call (s : Store) (call : ClientCall) : Evolves s (call.effect s) := by
  cases call with
  | get k => exact .still (runs_get s k) (lastVersion_get s k)
  | pods k => exact Evolves.refl s
  | replace r => exact evolves_replace s r

/-! ### Keys of stored runs -/

/-- Every run is stored under its own key. -/
def Filed (s : Store) : Prop :=
  ∀ k r, s.runs.get? k = some r → r.key = k

/-- In an empty store nothing stands under a wrong key. -/
theorem filed_empty : Store.empty.Filed := by
  intro k r h
  cases h

/-- The version of an object does not matter for its key. -/
@[simp] theorem key_stampVersion (s : Store) (r : Run) : (s.stampVersion r).key = r.key := rfl

/-- Whether the runs are filed depends on the runs alone. -/
theorem Filed.congr {s s' : Store} (h : s.Filed) (hruns : s'.runs = s.runs) : s'.Filed := by
  intro k r hr
  rw [hruns] at hr
  exact h k r hr

/-- An object that is stored under its own key is filed. -/
theorem Filed.insert {s s' : Store} {k : RunKey} {r : Run} (h : s.Filed) (hkey : r.key = k)
    (hruns : s'.runs = s.runs.insert k r) : s'.Filed := by
  intro k' r' hr'
  rw [hruns, KeyMap.get?_insert] at hr'
  split at hr'
  · next heq =>
    cases hr'
    exact hkey.trans heq
  · exact h k' r' hr'

/-- A replacement files its object. -/
theorem Filed.replace {s : Store} (h : s.Filed) (r : Run) : (s.replace r).2.Filed := by
  cases hanswer : (s.replace r).1 with
  | error e => exact h.congr (runs_replace_of_error hanswer).1
  | ok written =>
    obtain ⟨-, -, rfl⟩ := replace_eq_ok_iff.1 hanswer
    exact h.insert (key_stampVersion s r) (runs_replace_of_ok hanswer).1

/-- A call keeps the runs filed. -/
theorem Filed.call {s : Store} (h : s.Filed) (call : ClientCall) : (call.effect s).Filed := by
  cases call with
  | get k => exact h.congr (runs_get s k)
  | pods k => exact h
  | replace r => exact h.replace r

end Store

/-- Nobody gives a stored run another key. -/
def StoreChange.KeepsKeys : StoreChange → Prop
  | .modify _ edit => ∀ r, (edit r).key = r.key
  | _ => True

/-- A change that keeps the keys keeps the runs filed. -/
theorem Store.Filed.change {s : Store} {c : StoreChange} (h : s.Filed) (hc : c.KeepsKeys) :
    (s.change c).Filed := by
  have hwrite {k : RunKey} {r : Run} (hkey : r.key = k) : (s.write k r).2.Filed :=
    h.insert ((Store.key_stampVersion s r).trans hkey) (Store.runs_write s k r)
  cases c with
  | insert r => exact hwrite rfl
  | delete k =>
    intro k' r' hr'
    rw [Store.change, Store.delete] at hr'
    split at hr'
    · rw [Store.runs_broadcast, KeyMap.get?_erase] at hr'
      split at hr'
      · cases hr'
      · exact h k' r' hr'
    · exact h k' r' hr'
  | modify k edit =>
    rw [Store.change, Store.modify]
    split
    · next r hr => exact hwrite ((hc r).trans (h k r hr))
    · exact h
  | get k => exact h.congr (Store.runs_get s k)
  | replace r => exact h.replace r
  | _ => exact h

namespace World

/-- Only changes from outside and moves of monitors concern the stored runs. -/
theorem runs_act (w : World) {a : Action} (hstore : ∀ c, a ≠ .store c)
    (hmonitor : ∀ number, a ≠ .monitor number) :
    (w.act a).store.runs = w.store.runs ∧
      (w.act a).store.lastVersion = w.store.lastVersion := by
  cases a with
  | store c => exact absurd rfl (hstore c)
  | monitor number => exact absurd rfl (hmonitor number)
  | react e =>
    obtain ⟨_, _, heq⟩ := handle_eq w e
    rw [act, heq]
    exact ⟨rfl, rfl⟩
  | loop number =>
    rcases store_act_loop w number with h | ⟨watch, h⟩ <;> rw [h] <;> exact ⟨rfl, rfl⟩
  | abort number =>
    rcases act_abort_cases w number with heq | ⟨m, -, -, heq⟩ <;> rw [heq] <;> exact ⟨rfl, rfl⟩
  | emit number item =>
    obtain ⟨loops, heq⟩ := act_emit_eq w number item
    rw [heq]
    exact ⟨rfl, rfl⟩
  | _ => exact ⟨rfl, rfl⟩

/-- An action writes at most one run, with the next version, or deletes at most one. -/
theorem evolves_act (w : World) (a : Action) : w.store.Evolves (w.act a).store := by
  cases a with
  | store c => exact Store.evolves_change w.store c
  | monitor number =>
    rw [store_act_monitor]
    cases w.call? number with
    | none => exact Store.Evolves.refl w.store
    | some call => exact Store.evolves_call w.store call
  | _ => exact .still (w.runs_act (by simp) (by simp)).1 (w.runs_act (by simp) (by simp)).2

/-- A replacement that succeeds stores what it has written. -/
theorem get?_act_of_replace {w : World} {number : Nat} {r written : Run}
    (hcall : w.call? number = some (.replace r))
    (hwritten : (w.store.replace r).1 = .ok written) :
    (w.act (.monitor number)).store.runs.get? r.key = some written := by
  rw [store_act_monitor, hcall, Option.map_some, Option.getD_some, ClientCall.effect,
    (Store.runs_replace_of_ok hwritten).1, KeyMap.get?_insert_self]

/-- The runs stay under their own keys as long as nobody gives them others. -/
theorem filed_act {w : World} {a : Action} (hw : w.store.Filed)
    (ha : ∀ c, a = .store c → c.KeepsKeys) : (w.act a).store.Filed := by
  cases a with
  | store c => exact hw.change (ha c rfl)
  | monitor number =>
    rw [store_act_monitor]
    cases w.call? number with
    | none => exact hw
    | some call => exact hw.call call
  | _ => exact hw.congr (w.runs_act (by simp) (by simp)).1

/-- The runs stay filed through every history whose changes keep the keys. -/
theorem filed_after {w : World} {h : List Action} (hw : w.store.Filed)
    (hkeys : ∀ c, .store c ∈ h → c.KeepsKeys) : (w.after h).store.Filed := by
  induction h generalizing w with
  | nil => exact hw
  | cons a h ih =>
    refine ih (filed_act hw ?_) fun c hc => hkeys c (List.mem_cons_of_mem a hc)
    rintro c rfl
    exact hkeys c List.mem_cons_self

end World

end RunOperator
