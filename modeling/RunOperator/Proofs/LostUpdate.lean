import RunOperator.Proofs.PollRecord
import RunOperator.Proofs.Versions

/-!
# No update is lost

A monitor reads a run, lists its pods and replaces the run in three steps, and anything may happen
between them: other monitors work on the same run, the run is changed from outside, or it is deleted
and created again. `replace_overwrites_what_was_read` shows that a replacement succeeds only if the
stored object was, all the time since the poll has read it, the very object that was read. What the
monitor writes therefore takes nothing away that others have written.
-/

namespace RunOperator

/-- The change writes or deletes the run of a key whatever its version is. -/
def StoreChange.Forces (k : RunKey) : StoreChange → Prop
  | .insert r => r.key = k
  | .delete k' | .modify k' _ => k' = k
  | _ => False

/-- The two objects differ at most in the state, the stamps and the version. -/
def Run.AgreesOutsideLifecycle (r r' : Run) : Prop :=
  r' = { r with
    metadata := { r.metadata with resourceVersion := r'.metadata.resourceVersion }
    spec := { r.spec with
      state := r'.spec.state
      startTime := r'.spec.startTime
      endTime := r'.spec.endTime } }

/-- A transition that is written changes nothing but the state, the stamps and the version. -/
theorem Run.agreesOutsideLifecycle_transition (r : Run) (source target : RunState) (now : Instant)
    (s : Store) : r.AgreesOutsideLifecycle (s.stampVersion (r.transition source target now)) := rfl

namespace Store

/-- A run that is written gets another version than it had, and a run that is deleted is not
stored: after either, the object that was stored is gone. -/
theorem Held.gone_of_forces {s : Store} {k : RunKey} {r : Run} {c : StoreChange} (h : s.Held k r)
    (hstored : s.runs.get? k = some r) (hforces : c.Forces k) :
    (s.change c).runs.get? k ≠ some r := by
  obtain ⟨v, hv, hcarries⟩ := h.carries
  have hwrite (r' : Run) : (s.write k r').2.runs.get? k ≠ some r := by
    intro hback
    rw [runs_write, KeyMap.get?_insert_self] at hback
    have := hcarries.unique (Option.some.inj hback ▸ s.stampVersion_carries r')
    omega
  cases c with
  | insert r' =>
    cases hforces
    exact hwrite r'
  | delete k' =>
    cases hforces
    simp [change, delete, hstored, KeyMap.get?_erase]
  | modify k' edit =>
    cases hforces
    simp only [change, modify, hstored]
    exact hwrite (edit r)
  | _ => cases hforces

end Store

namespace World

variable {w : World} {h : List Action} {number place : Nat} {k : RunKey} {read : Run}

/-- What a poll has read was stored at that time. -/
theorem ReadAt.stored (hread : ReadAt w h number k read place) :
    (w.afterFirst h place).store.runs.get? k = some read :=
  (Store.get_eq_ok_iff.1 hread.2).2

/-- What a poll has read is known to the store ever after. -/
theorem ReadAt.held (hw : w.store.Versioned) (hread : ReadAt w h number k read place) {t : Nat}
    (ht : place ≤ t) : (w.afterFirst h t).store.Held k read := by
  have hheld : (w.afterFirst h place).store.Held k read :=
    (versioned_after hw _).held hread.stored
  rw [afterFirst_eq_after w h ht]
  exact held_after hheld _

/-- If the object that a poll has read is stored at the end, it was stored at all times since. -/
theorem ReadAt.stored_since (hw : w.store.Versioned) (hread : ReadAt w h number k read place)
    (hend : (w.after h).store.runs.get? k = some read) {t : Nat} (ht : place ≤ t) :
    (w.afterFirst h t).store.runs.get? k = some read := by
  rw [after_eq_after_drop w h t] at hend
  exact stored_of_stored_after (hread.held hw ht) _ hend

/-- If the object that a poll has read is stored at the end, nobody has overwritten or deleted it
since. -/
theorem ReadAt.not_forces (hw : w.store.Versioned) (hread : ReadAt w h number k read place)
    (hend : (w.after h).store.runs.get? k = some read) {t : Nat} {c : StoreChange}
    (ht : place < t) (hc : h[t]? = some (.store c)) : ¬ c.Forces k := by
  intro hforces
  have hlt : place ≤ t := Nat.le_of_lt ht
  have hbefore := hread.stored_since hw hend hlt
  have hafter := hread.stored_since hw hend (Nat.le_succ_of_le hlt)
  rw [afterFirst_succ w hc] at hafter
  exact (hread.held hw hlt).gone_of_forces hbefore hforces hafter

/-- A replacement by a monitor that succeeds overwrites the object that the poll of the monitor has
read. What it writes was made from this object and from the pods that the same poll has listed. -/
theorem record_of_replace (hmonitors : w.monitors = []) (hw : w.store.Versioned) {r written : Run}
    (hcall : (w.after h).call? number = some (.replace r))
    (hwritten : ((w.after h).store.replace r).1 = .ok written) :
    ∃ place read listed pods current target wall,
      ReadAt w h number r.key read place ∧ place < listed ∧
      ListedAt w h number r.key pods listed ∧
      (w.after h).store.runs.get? r.key = some read ∧
      read.state = .ok current ∧ current.isFinal = false ∧
      target = evaluate current read.cancelRequested pods ∧ target ≠ current ∧
      written = (w.after h).store.stampVersion (read.transition current target wall) := by
  obtain ⟨m, hm, hmcall⟩ := call?_eq_some hcall
  obtain ⟨-, c, target, hphase, -⟩ := Monitor.call?_eq_replace hmcall
  obtain ⟨place, read, listed, pods, current, wall, hread, hlt, hlisted, hstate, hfinal, htarget,
    hne, rfl⟩ := record_of_writing hmonitors h hm hphase
  obtain ⟨-, ⟨stored, hstored, hversion⟩, rfl⟩ := Store.replace_eq_ok_iff.1 hwritten
  have hheld := hread.held hw (Nat.le_of_lt hread.1.lt_length)
  rw [afterFirst_of_length_le w (Nat.le_refl _)] at hheld
  obtain ⟨hkey, rfl⟩ := hheld.only hstored hversion.symm
  rw [← hkey] at hread hlisted
  exact ⟨place, stored, listed, pods, current, target, wall, hread, hlt, hlisted, hstored, hstate,
    hfinal, htarget, hne, rfl⟩

/-- **No lost update.** After any history, of any number of monitors and with any changes from
outside in between, if the next move of a monitor is a replacement that succeeds, then the object
that it overwrites is the one that its poll has read. It was stored under the key at all times since
then, and nobody has inserted, deleted or modified the run in between. What is stored afterwards
differs from it at most in the state, the stamps and the version. -/
theorem replace_overwrites_what_was_read (settings : Settings) (wall : Instant) (h : List Action)
    {number : Nat} {r written : Run}
    (hcall : ((initial settings wall).after h).call? number = some (.replace r))
    (hwritten : (((initial settings wall).after h).store.replace r).1 = .ok written) :
    ∃ place read,
      ReadAt (initial settings wall) h number r.key read place ∧
      (∀ t, place < t → t ≤ h.length →
        ((initial settings wall).afterFirst h t).store.runs.get? r.key = some read) ∧
      (∀ t c, place < t → h[t]? = some (.store c) → ¬ c.Forces r.key) ∧
      ((initial settings wall).after (h ++ [.monitor number])).store.runs.get? r.key =
        some written ∧
      read.AgreesOutsideLifecycle written := by
  have hversioned : (initial settings wall).store.Versioned := Store.versioned_empty
  obtain ⟨place, read, -, -, current, target, now, hread, -, -, hstored, -, -, -, -, hmade⟩ :=
    record_of_replace rfl hversioned hcall hwritten
  refine ⟨place, read, hread, ?_, ?_, ?_, ?_⟩
  · intro t hlt _
    exact hread.stored_since hversioned hstored (Nat.le_of_lt hlt)
  · intro t c hlt hc
    exact hread.not_forces hversioned hstored hlt hc
  · rw [after_concat]
    exact get?_act_of_replace hcall hwritten
  · rw [hmade]
    exact Run.agreesOutsideLifecycle_transition read current target now _

/-- Two monitors work on a run that was deleted and created again: one that the dispatcher has
started, and one from elsewhere. The first is about to replace the run, and the second has just
read it. -/
def rivalHistory : List Action :=
  let r := Run.named "ns" "a" { RunSpec.empty with state := some "QUEUED" }
  [.store (.insert r), .store (.delete r.key), .store (.insert r),
    .store (.setPods r.key [.running]), .react (.create r.key), .start ⟨r.key, 7⟩, .pass 1000,
    .monitor 1, .monitor 0, .monitor 1, .monitor 0, .monitor 0, .monitor 1]

/-- The first of the two rivals overwrites what it has read. -/
theorem replace_overwrites_of_rivalHistory :
    ∃ r written,
      ((initial .standard ⟨0, 0⟩).after rivalHistory).call? 0 = some (.replace r) ∧
      (((initial .standard ⟨0, 0⟩).after rivalHistory).store.replace r).1 = .ok written ∧
      ∃ place read,
        ReadAt (initial .standard ⟨0, 0⟩) rivalHistory 0 r.key read place ∧
        (∀ t, place < t → t ≤ rivalHistory.length →
          ((initial .standard ⟨0, 0⟩).afterFirst rivalHistory t).store.runs.get? r.key =
            some read) ∧
        (∀ t c, place < t → rivalHistory[t]? = some (.store c) → ¬ c.Forces r.key) ∧
        ((initial .standard ⟨0, 0⟩).after (rivalHistory ++ [.monitor 0])).store.runs.get? r.key =
          some written ∧
        read.AgreesOutsideLifecycle written :=
  ⟨_, _, rfl, rfl, replace_overwrites_what_was_read .standard ⟨0, 0⟩ rivalHistory rfl rfl⟩

end World

end RunOperator
