import RunOperator.Proofs.Feed
import RunOperator.Proofs.RunViews
import RunOperator.Proofs.Versions

/-!
# What changes of the store are to a run

A change of the store that is about other runs leaves the object of the run and shows nothing of
itself (`alikeFor_change`). A change that is about the run, or about all runs, changes its view by
what it was before, so that no version and no other run matters (`view_change`). So do the client
calls of the monitors: whether a replacement applies depends on the view and on whether the object
is current (`answer_replace`, `view_replace`).
-/

namespace RunOperator

/-! ### Bare objects -/

/-- The version of an object is not part of its bare form. -/
@[simp] theorem Store.bare_stampVersion (s : Store) (r : Run) : (s.stampVersion r).bare = r.bare :=
  rfl

/-- The answer of a client call without versions. -/
def Run.bareAnswer (answer : Except ClientError Run) : Except ClientError Run :=
  answer.map Run.bare

/-- An answered run is shown bare. -/
@[simp] theorem Run.bareAnswer_ok (r : Run) : Run.bareAnswer (.ok r) = .ok r.bare := rfl

/-- An error is shown as it is. -/
@[simp] theorem Run.bareAnswer_error (e : ClientError) : Run.bareAnswer (.error e) = .error e := rfl

/-! ### Watches -/

namespace Watch

variable {w : Watch} {k k' : RunKey} {e e' : WatchEvent}

/-- News about the run are seen in what a watch says about it. -/
theorem about_notify (h : e.about k = some e') :
    (Store.notify k' e w).about k = Store.notify k' e' (w.about k) := by
  unfold Store.notify
  split
  · next hscope =>
    rw [if_pos (by exact hscope)]
    simp [about, List.filterMap_append, h]
  · next hscope => rw [if_neg (by exact hscope)]

/-- News about other runs are not seen in what a watch says about this one. -/
theorem about_notify_of_other (h : e.about k = none) :
    (Store.notify k' e w).about k = w.about k := by
  unfold Store.notify
  split
  · simp [about, List.filterMap_append, h]
  · rfl

end Watch

/-- Of the entries of a map one at most has the key. -/
theorem KeyMap.filterMap_entries {α β : Type} (m : KeyMap α) (k : RunKey) (f : α → β) :
    m.entries.filterMap (fun e => if e.1 = k then some (f e.2) else none) =
      ((m.get? k).map f).toList := by
  obtain ⟨entries, increasing⟩ := m
  simp only [get?, findEntry]
  induction entries with
  | nil => rfl
  | cons d rest ih =>
    obtain ⟨hd, hrest⟩ := List.pairwise_cons.1 increasing
    by_cases hkey : d.1 = k
    · have hlater : rest.filterMap (fun e => if e.1 = k then some (f e.2) else none) = [] := by
        rw [List.filterMap_eq_nil_iff]
        intro e he
        have hne : e.1 ≠ k := fun heq => RunKey.ne_of_lt (hd e he) (hkey.trans heq.symm)
        rw [if_neg hne]
      simp [hkey, hlater]
    · simpa [hkey] using ih hrest

/-- A value that was put under a key is found there, and the others stay. -/
theorem KeyMap.getD_insert {α : Type} (m : KeyMap α) (k k' : RunKey) (a fallback : α) :
    (m.insert k a).getD k' fallback = if k = k' then a else m.getD k' fallback := by
  rw [getD, get?_insert]
  split <;> rfl

/-- A change of one element is a change of its image. -/
theorem map_modify {α β : Type} {f : α → β} {g : α → α} {h : β → β} {l : List α} {n : Nat}
    (hf : ∀ a, l[n]? = some a → f (g a) = h (f a)) :
    (l.modify n g).map f = (l.map f).modify n h := by
  refine List.ext_getElem? fun i => ?_
  rw [List.getElem?_map, List.getElem?_modify, List.getElem?_modify, List.getElem?_map]
  by_cases hi : n = i
  · subst hi
    cases ha : l[n]? with
    | none => rfl
    | some a => simp [hf a ha]
  · cases l[i]? <;> simp [hi]

/-! ### The store as a run sees it -/

namespace StoreView

variable (k : RunKey) (v : StoreView)

/-- A change is reported to the watches. -/
def told (e : WatchEvent) : StoreView := { v with watches := v.watches.map (Store.notify k e) }

/-- The run is written. -/
def written (r : Run) : StoreView := { v with run := some r }.told k (.apply r)

/-- The events of a listing that are about the run. -/
def listing (scope : Option String) : List WatchEvent :=
  .init :: (if k.inScope scope then v.run.toList.map .initApply else []) ++ [.initDone]

/-- A watch is opened. -/
def watched (scope : Option String) : StoreView :=
  { v with watches := v.watches ++ [⟨scope, v.listing k scope, false⟩] }

/-- The answer to who reads the run. -/
def readAnswer : Except ClientError Run :=
  match v.getFailures, v.run with
  | e :: _, _ => .error e
  | [], some r => .ok r
  | [], none => .error (.runNotFound k)

/-- The run is read. -/
def read : StoreView := { v with gets := v.gets + 1, getFailures := v.getFailures.tail }

/-- The answer to who replaces the run by an object that is current, or is not. -/
def replaceAnswer (current : Bool) (r : Run) : Except ClientError Run :=
  match v.updateFailures, v.run with
  | e :: _, _ => .error e
  | [], none => .error (.runNotFound k)
  | [], some _ => if current then .ok r else .error (.conflict k)

/-- A replacement of the run applies if no error stands in its way and its object is current. -/
def applies (current : Bool) : Bool := v.updateFailures.isEmpty && current

/-- The run is replaced, by an object that is current or is not. -/
def replaced (current : Bool) (r : Run) : StoreView :=
  let counted := { v with updates := v.updates + 1, updateFailures := v.updateFailures.tail }
  if v.applies current then counted.written k r else counted

/-- The view after a change that concerns the run. -/
def change : StoreChange → StoreView
  | .insert r => v.written k r
  | .delete _ =>
    match v.run with
    | some r => { v with run := none }.told k (.delete r)
    | none => v
  | .modify _ edit =>
    match v.run with
    | some r => v.written k (edit r).bare
    | none => v
  | .setPods _ pods => { v with pods }
  | .failGets _ errors => { v with getFailures := v.getFailures ++ errors }
  | .failUpdates _ errors => { v with updateFailures := v.updateFailures ++ errors }
  | .setLatency latency => { v with latency }
  | .get _ => v.read
  | .replace _ => v
  | .openWatch scope => v.watched k scope
  | .drain number =>
    { v with watches := v.watches.modify number fun w => { w with pending := [] } }
  | .closeWatches => { v with watches := v.watches.map fun w => { w with closed := true } }

end StoreView

/-- Whoever changes the run does so whatever its version is, and no client but the monitors replaces
it. -/
def StoreChange.IgnoresVersions (k : RunKey) : StoreChange → Prop
  | .modify k' edit => k' = k → ∀ r version, (edit (r.setVersion version)).bare = (edit r).bare
  | .replace r => r.key ≠ k
  | _ => True

/-- The change writes or deletes a run. -/
def StoreChange.rewrites : StoreChange → Bool
  | .insert _ | .delete _ | .modify _ _ => true
  | _ => false

namespace Store

variable {s : Store} {k k' : RunKey} {r : Run} {c c' : StoreChange} {e e' : WatchEvent}

/-- A view shows the stored object bare. -/
@[simp] theorem run_view (s : Store) (k : RunKey) :
    (s.view k).run = (s.runs.get? k).map Run.bare := rfl

/-- A view shows the failures of the reads of its run. -/
@[simp] theorem getFailures_view (s : Store) (k : RunKey) :
    (s.view k).getFailures = s.getFailures.getD k [] := rfl

/-- A view shows the failures of the updates of its run. -/
@[simp] theorem updateFailures_view (s : Store) (k : RunKey) :
    (s.view k).updateFailures = s.updateFailures.getD k [] := rfl

/-! ### Other runs -/

/-- Two stores hold the same object of a run and show the same of it. -/
structure AlikeFor (k : RunKey) (s s' : Store) : Prop where
  stored : s'.runs.get? k = s.runs.get? k
  view : s'.view k = s.view k

/-- Every store is like itself. -/
theorem AlikeFor.refl (k : RunKey) (s : Store) : AlikeFor k s s := ⟨rfl, rfl⟩

/-- A broadcast about another run is not seen. -/
theorem view_broadcast_of_other (h : e.about k = none) :
    (s.broadcast k' e).view k = s.view k := by
  simp [view, broadcast, podsOf, Function.comp_def, Watch.about_notify_of_other h]

/-- A write to another run is not seen. -/
theorem alikeFor_write (hkey : r.key = k') (hne : k' ≠ k) : AlikeFor k s (s.write k' r).2 where
  stored := by rw [runs_write, KeyMap.get?_insert, if_neg hne]
  view := by
    have hevent : (WatchEvent.apply (s.stampVersion r)).about k = none := if_neg (hkey ▸ hne)
    rw [write, view_broadcast_of_other hevent]
    simp [view, podsOf, KeyMap.get?_insert, hne]

/-- A read of another run is not seen. -/
theorem alikeFor_get (hne : k' ≠ k) : AlikeFor k s (s.get k').2 where
  stored := by rw [runs_get]
  view := by
    unfold Store.get
    dsimp only
    split
    · simp [view, podsOf, KeyMap.getD_insert, hne]
    · split <;> simp [view, podsOf, KeyMap.getD_insert, hne]

/-- A replacement of another run is not seen. -/
theorem alikeFor_replace (hne : r.key ≠ k) : AlikeFor k s (s.replace r).2 := by
  let counted := { s with updates := s.updates.insert r.key (s.updates.getD r.key 0 + 1) }
  have hcounted : AlikeFor k s counted := by
    refine ⟨rfl, ?_⟩
    simp [counted, view, podsOf, KeyMap.getD_insert, hne]
  unfold Store.replace
  dsimp only
  split
  · refine ⟨rfl, ?_⟩
    simp [view, podsOf, KeyMap.getD_insert, hne]
  · split
    · exact hcounted
    · split
      · have hwritten : AlikeFor k counted (counted.write r.key r).2 := alikeFor_write rfl hne
        exact ⟨hwritten.stored.trans hcounted.stored, hwritten.view.trans hcounted.view⟩
      · exact hcounted

/-- A change that is about another run shows nothing of itself. -/
theorem alikeFor_change (hs : s.Filed) (hc : c.KeepsKeys) (hother : c.about k = none) :
    AlikeFor k s (s.change c) := by
  cases c with
  | insert r => exact alikeFor_write rfl (ne_of_ite_eq_none hother)
  | delete k' =>
    rw [change, delete]
    split
    · next r hr =>
      have hne : k' ≠ k := ne_of_ite_eq_none hother
      have hevent : (WatchEvent.delete r).about k = none := if_neg (hs k' r hr ▸ hne)
      constructor
      · rw [runs_broadcast, KeyMap.get?_erase, if_neg hne]
      · rw [view_broadcast_of_other hevent]
        simp [view, podsOf, KeyMap.get?_erase, hne]
    · exact AlikeFor.refl k s
  | modify k' edit =>
    rw [change, modify]
    split
    · next r hr => exact alikeFor_write ((hc r).trans (hs k' r hr)) (ne_of_ite_eq_none hother)
    · exact AlikeFor.refl k s
  | get k' => exact alikeFor_get (ne_of_ite_eq_none hother)
  | replace r => exact alikeFor_replace (ne_of_ite_eq_none hother)
  | setPods k' pods | failGets k' errors | failUpdates k' errors =>
    refine ⟨rfl, ?_⟩
    simp [change, setPods, failGets, failUpdates, view, podsOf, KeyMap.getD_insert,
      ne_of_ite_eq_none hother]
  | setLatency latency | openWatch scope | drain number | closeWatches => cases hother

/-- The call of a client that is about another run shows nothing of itself. -/
theorem alikeFor_call {call : ClientCall} (hne : call.key ≠ k) : AlikeFor k s (call.effect s) := by
  cases call with
  | get k' => exact alikeFor_get hne
  | pods k' => exact AlikeFor.refl k s
  | replace r => exact alikeFor_replace hne

/-! ### The run itself -/

/-- A broadcast about the run adds to what its watches say. -/
theorem view_broadcast (h : e.about k = some e') :
    (s.broadcast k e).view k = (s.view k).told k e' := by
  simp [view, broadcast, podsOf, StoreView.told, Function.comp_def, Watch.about_notify h]

/-- A write to the run is seen as one of its bare form. -/
theorem view_write (hkey : r.key = k) : (s.write k r).2.view k = (s.view k).written k r.bare := by
  have hevent : (WatchEvent.apply (s.stampVersion r)).about k = some (.apply r.bare) :=
    if_pos hkey
  rw [write, view_broadcast hevent]
  simp [view, podsOf, StoreView.written]

/-- A read of the run is seen as one. -/
theorem view_get (s : Store) (k : RunKey) : (s.get k).2.view k = (s.view k).read := by
  unfold Store.get
  dsimp only
  split
  · next e rest hfailures => simp [view, podsOf, StoreView.read, KeyMap.getD_insert, hfailures]
  · next hfailures =>
    split <;> simp [view, podsOf, StoreView.read, KeyMap.getD_insert, hfailures]

/-- What a listing tells of a run is the stored object, if it lies in the scope. -/
theorem filterMap_listing (hs : s.Filed) (k : RunKey) (scope : Option String) :
    (s.listing scope).filterMap (WatchEvent.about k) = (s.view k).listing k scope := by
  have hruns : ((s.list scope .all).map WatchEvent.initApply).filterMap (WatchEvent.about k) =
      ((s.runs.restrict (·.inScope scope)).get? k).toList.map (.initApply ∘ Run.bare) := by
    rw [list, RunFilter.apply_all, KeyMap.values, List.map_map, List.filterMap_map,
      ← Option.toList_map, ← KeyMap.filterMap_entries]
    refine List.filterMap_congr ?_
    rintro ⟨k', r⟩ hmem
    rw [KeyMap.mem_entries_iff, KeyMap.get?_restrict] at hmem
    split at hmem
    · rw [Function.comp_apply, Function.comp_apply, WatchEvent.about, hs k' r hmem]
      rfl
    · cases hmem
  rw [listing, List.filterMap_append, List.filterMap_cons, hruns, KeyMap.get?_restrict]
  cases hscope : k.inScope scope with
  | true => cases hr : s.runs.get? k <;> simp [StoreView.listing, hscope, hr, WatchEvent.about]
  | false => simp [StoreView.listing, hscope, WatchEvent.about]

/-- A change that is about the run, or about all runs, changes its view by what it was before. -/
theorem view_change (hs : s.Filed) (hc : c.KeepsKeys) (hignores : c.IgnoresVersions k)
    (habout : c.about k = some c') : (s.change c).view k = (s.view k).change k c' := by
  cases c with
  | insert r =>
    obtain ⟨hkey, rfl⟩ := eq_of_ite_eq_some habout
    rw [change, insert, hkey]
    exact view_write hkey
  | delete k' =>
    obtain ⟨rfl, rfl⟩ := eq_of_ite_eq_some habout
    rw [change, delete]
    cases hr : s.runs.get? k' with
    | none => simp [StoreView.change, hr]
    | some r =>
      have hevent : (WatchEvent.delete r).about k' = some (.delete r.bare) := if_pos (hs k' r hr)
      rw [view_broadcast hevent]
      simp [StoreView.change, view, podsOf, hr, KeyMap.get?_erase]
  | modify k' edit =>
    obtain ⟨rfl, rfl⟩ := eq_of_ite_eq_some habout
    rw [change, modify]
    cases hr : s.runs.get? k' with
    | none => simp [StoreView.change, hr]
    | some r =>
      have hedit : (edit r.bare).bare = (edit r).bare := hignores rfl r none
      rw [view_write ((hc r).trans (hs k' r hr))]
      simp [StoreView.change, hr, hedit]
  | get k' =>
    obtain ⟨rfl, rfl⟩ := eq_of_ite_eq_some habout
    exact view_get s k'
  | replace r => exact absurd (eq_of_ite_eq_some habout).1 hignores
  | setPods k' pods | failGets k' errors | failUpdates k' errors =>
    obtain ⟨rfl, rfl⟩ := eq_of_ite_eq_some habout
    simp [change, setPods, failGets, failUpdates, view, podsOf, KeyMap.getD_insert,
      StoreView.change]
  | setLatency latency =>
    cases habout
    rfl
  | openWatch scope =>
    cases habout
    rw [StoreView.change, StoreView.watched, ← filterMap_listing hs]
    simp [change, openWatch, view, podsOf, Watch.about]
  | drain number =>
    cases habout
    simp only [change, drain, StoreView.change, view, podsOf, StoreView.mk.injEq, true_and]
    refine map_modify ?_
    intro w _
    rfl
  | closeWatches =>
    cases habout
    simp [change, closeWatches, StoreView.change, view, podsOf, Watch.about]

/-- A change that writes or deletes the run leaves no object of it with an old version. Any other
change leaves the stored object. -/
theorem stored_change (hignores : c.IgnoresVersions k) (habout : c.about k = some c') :
    if c'.rewrites then
      ∀ r, (s.change c).runs.get? k = some r → r.Carries (s.lastVersion + 1)
    else (s.change c).runs.get? k = s.runs.get? k := by
  have hwritten {r r' : Run} (h : (s.write k r).2.runs.get? k = some r') :
      r'.Carries (s.lastVersion + 1) := by
    rw [runs_write, KeyMap.get?_insert_self] at h
    rw [← Option.some.inj h]
    exact s.stampVersion_carries r
  cases c with
  | insert r =>
    obtain ⟨rfl, rfl⟩ := eq_of_ite_eq_some habout
    exact fun r' hr' => hwritten hr'
  | delete k' =>
    obtain ⟨rfl, rfl⟩ := eq_of_ite_eq_some habout
    intro r' hr'
    rw [change, delete] at hr'
    split at hr'
    · rw [runs_broadcast, KeyMap.get?_erase, if_pos rfl] at hr'
      cases hr'
    · next hnone => cases hnone.symm.trans hr'
  | modify k' edit =>
    obtain ⟨rfl, rfl⟩ := eq_of_ite_eq_some habout
    intro r' hr'
    rw [change, modify] at hr'
    split at hr'
    · exact hwritten hr'
    · next hnone => cases hnone.symm.trans hr'
  | get k' =>
    obtain ⟨rfl, rfl⟩ := eq_of_ite_eq_some habout
    exact congrArg (KeyMap.get? · k') (runs_get s k')
  | replace r => exact absurd (eq_of_ite_eq_some habout).1 hignores
  | setPods k' pods | failGets k' errors | failUpdates k' errors =>
    obtain ⟨rfl, rfl⟩ := eq_of_ite_eq_some habout
    rfl
  | setLatency latency | openWatch scope | drain number | closeWatches =>
    cases habout
    rfl

/-! ### Client calls of monitors -/

/-- The answer to a monitor that reads its run, up to the version. -/
theorem answer_get (s : Store) (k : RunKey) :
    Run.bareAnswer (s.get k).1 = (s.view k).readAnswer k := by
  unfold Store.get
  dsimp only
  split
  · next e rest hfailures => simp [StoreView.readAnswer, hfailures]
  · next hfailures =>
    split
    · next r hr => simp [StoreView.readAnswer, hfailures, hr]
    · next hr => simp [StoreView.readAnswer, hfailures, hr]

/-- An object is current if it has the version of the stored one. -/
theorem isCurrent_of_stored {stored : Run} (hr : s.runs.get? r.key = some stored) :
    s.isCurrent r = decide (r.metadata.resourceVersion = stored.metadata.resourceVersion) := by
  rw [isCurrent, hr, Option.any_some, Bool.eq_iff_iff, beq_iff_eq, decide_eq_true_iff]

/-- The answer to a monitor that replaces its run, up to the version. -/
theorem answer_replace (hkey : r.key = k) :
    Run.bareAnswer (s.replace r).1 = (s.view k).replaceAnswer k (s.isCurrent r) r.bare := by
  subst hkey
  unfold Store.replace
  dsimp only
  split
  · next e rest hfailures => simp [StoreView.replaceAnswer, hfailures]
  · next hfailures =>
    split
    · next hr => simp [StoreView.replaceAnswer, hfailures, hr]
    · next stored hr =>
      have hcurrent := isCurrent_of_stored hr
      split
      · next hversion =>
        simp [StoreView.replaceAnswer, hfailures, hr, hcurrent, hversion]
        rfl
      · next hversion => simp [StoreView.replaceAnswer, hfailures, hr, hcurrent, hversion]

/-- A replacement of the run is seen as one of its bare form. -/
theorem view_replace (hkey : r.key = k) :
    (s.replace r).2.view k = (s.view k).replaced k (s.isCurrent r) r.bare := by
  subst hkey
  let counted := { s with updates := s.updates.insert r.key (s.updates.getD r.key 0 + 1) }
  have hcounted (hfailures : s.updateFailures.getD r.key [] = []) : counted.view r.key =
      { s.view r.key with
        updates := (s.view r.key).updates + 1
        updateFailures := (s.view r.key).updateFailures.tail } := by
    simp [counted, view, podsOf, KeyMap.getD_insert, hfailures]
  unfold Store.replace StoreView.replaced StoreView.applies
  dsimp only
  split
  · next e rest hfailures => simp [view, podsOf, hfailures, KeyMap.getD_insert]
  · next hfailures =>
    split
    · next hr =>
      have hcurrent : s.isCurrent r = false := by rw [isCurrent, hr]; rfl
      rw [hcurrent, Bool.and_false]
      exact hcounted hfailures
    · next stored hr =>
      rw [isCurrent_of_stored hr, ← hcounted hfailures, updateFailures_view, hfailures]
      split
      · next hversion =>
        rw [decide_eq_true hversion]
        exact view_write (s := counted) rfl
      · next hversion =>
        rw [decide_eq_false hversion]
        rfl

end Store

end RunOperator
