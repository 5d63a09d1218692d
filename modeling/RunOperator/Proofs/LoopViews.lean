import RunOperator.Proofs.LeaseViews
import RunOperator.Proofs.StoreViews

/-!
# What the moves of loops are to a run

A roster tells of each run what it has seen of that run alone (`Roster.about_observe`). A loop that
takes in an event of another run therefore shows nothing of it, and a loop that takes in an event of
the run changes its view by what it was before (`view_act_loop`).
-/

namespace RunOperator

/-! ### Rosters -/

namespace KeySet

variable {k k' : RunKey}

/-- Of a set only one key is left, if it is contained. -/
@[simp] theorem contains_only (s : KeySet) (k k' : RunKey) :
    (s.only k).contains k' = (decide (k' = k) && s.contains k') := by
  rw [only, KeyMap.contains, KeyMap.get?_restrict]
  by_cases heq : k' = k <;> simp [heq, KeyMap.contains]

private theorem keys_only (s : KeySet) (k : RunKey) : (s.only k).keys = s.keys.filter (· = k) := by
  rw [KeyMap.keys, KeyMap.keys, List.filter_map]
  rfl

/-- Leaving one key twice is leaving it once. -/
@[simp] theorem only_only (s : KeySet) (k : RunKey) : (s.only k).only k = s.only k := by
  refine ext_contains fun k' => ?_
  simp

private theorem only_add (s : KeySet) (k : RunKey) :
    (s.add k).only k = ((s.only k).add k).only k := by
  refine ext_contains fun k' => ?_
  by_cases heq : k' = k <;> simp [contains_add, heq]

private theorem only_add_of_other (s : KeySet) (hne : k' ≠ k) : (s.add k').only k = s.only k := by
  refine ext_contains fun k'' => ?_
  by_cases heq : k'' = k <;> simp [contains_add, heq, hne]

private theorem only_erase (s : KeySet) (k : RunKey) :
    only k (s.erase k) = only k ((s.only k).erase k) := by
  refine ext_contains fun k' => ?_
  by_cases heq : k' = k <;> simp [KeyMap.contains_erase, heq]

private theorem only_erase_of_other (s : KeySet) (hne : k' ≠ k) :
    only k (s.erase k') = s.only k := by
  refine ext_contains fun k'' => ?_
  by_cases heq : k'' = k <;> simp [KeyMap.contains_erase, heq, hne]

end KeySet

namespace Roster

variable {t : Roster} {e e' : WatchEvent} {k k' : RunKey}

private theorem appearance_only (known : KeySet) (k : RunKey) :
    appearance (known.only k) k = appearance known k := by
  simp [appearance]

private theorem filterMap_appearance (known : KeySet) (k : RunKey) :
    (appearance known k).filterMap (RunEvent.about k) = appearance known k := by
  unfold appearance
  split <;> simp [RunEvent.about]

private theorem filterMap_appearance_of_other (known : KeySet) (hne : k' ≠ k) :
    (appearance known k').filterMap (RunEvent.about k) = [] := by
  unfold appearance
  split <;> simp [RunEvent.about, hne]

/-- Of the deletions that a listing shows those of a run are shown by what is known of it. -/
theorem filterMap_deletions (before after : KeySet) (k : RunKey) :
    (deletions before after).filterMap (RunEvent.about k) =
      deletions (before.only k) (after.only k) := by
  rw [deletions, deletions, KeySet.keys_only]
  induction before.keys with
  | nil => rfl
  | cons k' rest ih =>
    by_cases heq : k' = k
    · subst heq
      cases hafter : after.contains k' <;> simpa [hafter, RunEvent.about] using ih
    · cases hafter : after.contains k' <;> simpa [hafter, RunEvent.about, heq] using ih

/-- Of an event of another run a roster keeps nothing that is about the run. -/
theorem about_observe_of_other (h : e.about k = none) :
    (t.observe e).1.filterMap (RunEvent.about k) = [] ∧ (t.observe e).2.about k = t.about k := by
  cases e with
  | init | initDone => cases h
  | initApply r =>
    constructor
    · rw [observe]
      split
      · exact filterMap_appearance_of_other t.known (ne_of_ite_eq_none h)
      · simp [RunEvent.about, ne_of_ite_eq_none h]
    · simp [observe, about, KeySet.only_add_of_other _ (ne_of_ite_eq_none h)]
  | apply r =>
    exact ⟨filterMap_appearance_of_other t.known (ne_of_ite_eq_none h),
      by simp [observe, about, KeySet.only_add_of_other _ (ne_of_ite_eq_none h)]⟩
  | delete r =>
    exact ⟨by simp [observe, RunEvent.about, ne_of_ite_eq_none h],
      by simp [observe, about, KeySet.only_erase_of_other _ (ne_of_ite_eq_none h)]⟩

/-- What a roster tells of a run, and holds of it afterwards, is what it would if it had seen that
run alone. -/
theorem about_observe (h : e.about k = some e') :
    (t.observe e).1.filterMap (RunEvent.about k) = ((t.about k).observe e').1 ∧
      (t.observe e).2.about k = ((t.about k).observe e').2.about k := by
  cases e with
  | init =>
    cases h
    simp [observe, about]
  | initDone =>
    cases h
    simp [observe, about, filterMap_deletions]
  | initApply r =>
    obtain ⟨rfl, rfl⟩ := eq_of_ite_eq_some h
    constructor
    · cases hlisted : t.listed with
      | true => simp [observe, about, hlisted, filterMap_appearance, appearance_only]
      | false => simp [observe, about, hlisted, RunEvent.about]
    · simp [observe, about, ← KeySet.only_add]
  | apply r =>
    obtain ⟨rfl, rfl⟩ := eq_of_ite_eq_some h
    constructor
    · simp [observe, about, filterMap_appearance, appearance_only]
    · simp [observe, about, ← KeySet.only_add]
  | delete r =>
    obtain ⟨rfl, rfl⟩ := eq_of_ite_eq_some h
    constructor
    · simp [observe, RunEvent.about]
    · simp [observe, about, ← KeySet.only_erase]

end Roster

/-! ### Watches -/

namespace StoreView

variable (v : StoreView)

/-- What a watch still has to tell of the run. -/
def pendingOf (number : Nat) : List WatchEvent :=
  ((v.watches[number]?).map Watch.pending).getD []

/-- The next event of a watch that is about the run is taken. -/
def takeEvent (number : Nat) : StoreView :=
  { v with watches := v.watches.modify number fun w => { w with pending := w.pending.tail } }

end StoreView

namespace Store

variable {s : Store} {k : RunKey} {number : Nat} {e : WatchEvent} {rest : List WatchEvent}

/-- The pending events of a view are the pending events about the run. -/
theorem pendingOf_view (s : Store) (k : RunKey) (number : Nat) :
    (s.view k).pendingOf number = (s.pendingOf number).filterMap (WatchEvent.about k) := by
  rw [StoreView.pendingOf, pendingOf, view, List.getElem?_map]
  cases s.watches[number]? <;> rfl

private theorem pending_of_pendingOf {w : Watch} (h : s.pendingOf number = e :: rest)
    (hw : s.watches[number]? = some w) : w.pending = e :: rest := by
  rwa [pendingOf, hw] at h

/-- Taking an event about the run is taking an event from its view. -/
theorem view_takeEvent {e' : WatchEvent} (h : s.pendingOf number = e :: rest)
    (habout : e.about k = some e') :
    (s.takeEvent number).view k = (s.view k).takeEvent number := by
  simp only [view, takeEvent, StoreView.takeEvent, podsOf, StoreView.mk.injEq, true_and]
  refine map_modify ?_
  intro w hw
  simp [Watch.about, pending_of_pendingOf h hw, habout]

/-- Taking an event about another run is not seen. -/
theorem view_takeEvent_of_other (h : s.pendingOf number = e :: rest) (hother : e.about k = none) :
    (s.takeEvent number).view k = s.view k := by
  simp only [view, takeEvent, podsOf, StoreView.mk.injEq, true_and]
  rw [map_modify (h := id), List.modify_id]
  intro w hw
  simp [Watch.about, pending_of_pendingOf h hw, hother]

end Store

/-! ### Loops -/

namespace RunView

variable (k : RunKey) (v : RunView)

/-- The view with another state of a loop. -/
def putLoop (number : Nat) (l : Loop) : RunView := { v with loops := v.loops.set number l }

/-- A loop is started. -/
def startLoop (input : LoopInput) : RunView :=
  { v with loops := v.loops ++ [Loop.about k ⟨input, .initial, false, false⟩] }

/-- A loop takes in an event about the run. -/
def takeIn (number : Nat) (l : Loop) (e : WatchEvent) : RunView :=
  (l.roster.observe e).1.foldl handle
    (v.putLoop number { l with roster := (l.roster.observe e).2.about k })

/-- A loop makes a move that concerns the run. -/
def loop (number : Nat) : RunView :=
  match v.loops[number]? with
  | none => v
  | some l =>
    if l.stopping then v.putLoop number { l with ended := true }
    else match l.input with
      | .watch watch =>
        match v.store.pendingOf watch with
        | e :: _ => { v with store := v.store.takeEvent watch }.takeIn k number l e
        | [] => v.putLoop number { l with ended := true }
      | .script (.ok e :: rest) closed =>
        v.takeIn k number { l with input := .script rest closed } e
      | .script (.error _ :: rest) closed =>
        v.putLoop number { l with input := .script rest closed }
      | .script [] _ => v.putLoop number { l with ended := true }

/-- A loop is started on a new watch of the store. -/
def dispatchWatch (scope : Option String) : RunView :=
  { v with store := v.store.watched k scope }.startLoop k (.watch v.store.watches.length)

/-- A loop is told to stop. -/
def stopLoop (number : Nat) : RunView :=
  { v with loops := v.loops.modify number fun l => { l with stopping := true } }

/-- The script of a loop ends. -/
def endScript (number : Nat) : RunView :=
  { v with loops := v.loops.modify number fun l =>
      match l.input with
      | .script pending _ => { l with input := .script pending true }
      | .watch _ => l }

/-- An event about the run, or an error, is added to the script of a loop. -/
def emit (number : Nat) (item : Except ClientError WatchEvent) : RunView :=
  match v.loops[number]? with
  | some l =>
    match l.input with
    | .script pending false =>
      if l.ended then v
      else v.putLoop number { l with input := .script (pending ++ [item]) false }
    | _ => v
  | none => v

end RunView

namespace World

variable {w : World} {k : RunKey} {number : Nat} {l l₀ : Loop} {e e' : WatchEvent}

private theorem view_putLoop (w : World) (number : Nat) (l : Loop) :
    (w.putLoop number l).view k = (w.view k).putLoop number (l.about k) := by
  simp [view, putLoop, RunView.putLoop, monitorsOf, List.map_set]

/-- A loop that holds the same of a run shows nothing of a change. -/
theorem view_putLoop_of_same (hl : w.loops[number]? = some l₀) (hsame : l.about k = l₀.about k) :
    (w.putLoop number l).view k = w.view k := by
  have hset : (w.loops.map (Loop.about k)).set number (l₀.about k) =
      w.loops.map (Loop.about k) := by
    refine List.ext_getElem? fun i => ?_
    rw [List.getElem?_set]
    split
    · next heq =>
      subst heq
      rw [List.length_map, if_pos (List.getElem?_eq_some_iff.1 hl).1, List.getElem?_map, hl]
      rfl
    · rfl
  rw [view_putLoop, hsame]
  simp only [view, RunView.putLoop, hset]

/-- Taking in an event about the run is taking it in in its view. -/
theorem view_takeIn (hw : w.KeepsApart) (habout : e.about k = some e') :
    (w.takeIn number l e).view k = (w.view k).takeIn k number (l.about k) e' := by
  obtain ⟨hevents, hroster⟩ := Roster.about_observe (t := l.roster) habout
  have hput : (w.putLoop number { l with roster := (l.roster.observe e).2 }).KeepsApart := hw
  rw [takeIn]
  dsimp only
  rw [view_foldl_handle hput, hevents, view_putLoop]
  simp only [RunView.takeIn, Loop.about, hroster]

/-- A loop that takes in an event of another run shows nothing but what is left of its input. -/
theorem view_takeIn_of_other (hw : w.KeepsApart) (hother : e.about k = none) :
    (w.takeIn number l e).view k = (w.putLoop number l).view k := by
  obtain ⟨hevents, hroster⟩ := Roster.about_observe_of_other (t := l.roster) hother
  have hput : (w.putLoop number { l with roster := (l.roster.observe e).2 }).KeepsApart := hw
  rw [takeIn]
  dsimp only
  rw [view_foldl_handle hput, hevents, List.foldl_nil, view_putLoop, view_putLoop]
  simp only [Loop.about, hroster]

/-- A move of a loop changes the view of a run by what it was before if it concerns the run, and
leaves it otherwise. -/
theorem view_act_loop (hw : w.KeepsApart) (number : Nat) :
    (w.act (.loop number)).view k =
      if w.loopConcerns k number then (w.view k).loop k number else w.view k := by
  have hview : (w.view k).loops[number]? = (w.loops[number]?).map (Loop.about k) :=
    List.getElem?_map
  have hpending (watch : Nat) : (w.view k).store.pendingOf watch =
      (w.store.pendingOf watch).filterMap (WatchEvent.about k) := w.store.pendingOf_view k watch
  simp only [act, nudgeLoop, moveLoop?, loopConcerns, RunView.loop, hview]
  cases hl : w.loops[number]? with
  | none => rfl
  | some l =>
    obtain ⟨input, roster, stopping, ended⟩ := l
    simp only [Option.bind_eq_bind, Option.bind_some, Option.map_some, Loop.about]
    cases ended with
    | true => rfl
    | false =>
    cases stopping with
    | true => exact view_putLoop w number _
    | false =>
    cases input with
    | watch watch =>
      simp only [LoopInput.about, hpending]
      cases hevents : w.store.pendingOf watch with
      | nil =>
        cases w.store.isExhausted watch with
        | true => exact view_putLoop w number _
        | false => rfl
      | cons e rest =>
        have htaken : { w with store := w.store.takeEvent watch }.KeepsApart := hw
        cases habout : e.about k with
        | some e' =>
          have htake : { w with store := w.store.takeEvent watch }.view k =
              { w.view k with store := (w.view k).store.takeEvent watch } := by
            simp only [view, Store.view_takeEvent hevents habout]
            rfl
          simp only [List.filterMap_cons, habout]
          refine (view_takeIn htaken habout).trans ?_
          rw [htake]
          rfl
        | none =>
          have htake : { w with store := w.store.takeEvent watch }.view k = w.view k := by
            simp only [view, Store.view_takeEvent_of_other hevents habout]
            rfl
          simp only [habout]
          refine (view_takeIn_of_other htaken habout).trans ?_
          refine (view_putLoop_of_same (w := { w with store := w.store.takeEvent watch }) hl ?_).trans
            htake
          rfl
    | script pending closed =>
      cases pending with
      | nil =>
        cases closed with
        | true => exact view_putLoop w number _
        | false => rfl
      | cons item rest =>
        cases item with
        | ok e =>
          cases habout : e.about k with
          | some e' =>
            simp only [LoopInput.about, WatchEvent.itemAbout, habout, List.filterMap_cons,
              Option.map_some]
            exact view_takeIn hw habout
          | none =>
            simp only [WatchEvent.itemAbout, habout, Option.map_none]
            refine (view_takeIn_of_other hw habout).trans (view_putLoop_of_same hl ?_)
            simp [Loop.about, LoopInput.about, WatchEvent.itemAbout, habout]
        | error e => exact view_putLoop w number _

/-! ### Loops from outside -/

/-- A loop that is started is started in every view. -/
theorem view_startLoop (w : World) (k : RunKey) (input : LoopInput) :
    (w.startLoop input).2.view k = (w.view k).startLoop k input := by
  simp [view, startLoop, RunView.startLoop, monitorsOf]

/-- A loop on a new watch is started in every view, with what the watch lists of the run. -/
theorem view_dispatchWatch (hs : w.store.Filed) (scope : Option String) :
    (w.dispatchWatch scope).2.view k = (w.view k).dispatchWatch k scope := by
  have hwatched : (w.store.openWatch scope).2.view k = (w.store.view k).watched k scope :=
    Store.view_change (c := .openWatch scope) hs trivial trivial rfl
  have hopened : { w with store := (w.store.openWatch scope).2 }.view k =
      { w.view k with store := (w.view k).store.watched k scope } := by
    simp only [view, hwatched]
    rfl
  have hnumber : (w.store.openWatch scope).1 = (w.view k).store.watches.length :=
    (List.length_map _).symm
  rw [RunView.dispatchWatch, ← hopened, ← hnumber]
  exact view_startLoop _ k _

/-- A loop that is told to stop is told so in every view. -/
theorem view_stopLoop (w : World) (k : RunKey) (number : Nat) :
    (w.stopLoop number).view k = (w.view k).stopLoop number := by
  simp only [view, stopLoop, RunView.stopLoop, monitorsOf, RunView.mk.injEq, true_and]
  refine map_modify ?_
  intro l _
  rfl

/-- A script that is ended is ended in every view. -/
theorem view_endScript (w : World) (k : RunKey) (number : Nat) :
    (w.endScript number).view k = (w.view k).endScript number := by
  simp only [view, endScript, RunView.endScript, monitorsOf, RunView.mk.injEq, true_and]
  refine map_modify ?_
  rintro ⟨input, roster, stopping, ended⟩ _
  cases input <;> rfl

/-- What is sent to a loop changes the view of a run if it is about the run, and leaves it
otherwise. -/
theorem view_emit (w : World) (k : RunKey) (number : Nat)
    (item : Except ClientError WatchEvent) :
    (w.emit number item).2.view k =
      (WatchEvent.itemAbout k item).elim (w.view k) ((w.view k).emit number) := by
  have hview : (w.view k).loops[number]? = (w.loops[number]?).map (Loop.about k) :=
    List.getElem?_map
  have hsame : (WatchEvent.itemAbout k item).elim (w.view k) (fun _ => w.view k) = w.view k := by
    cases WatchEvent.itemAbout k item <;> rfl
  unfold emit RunView.emit
  rw [hview]
  cases hl : w.loops[number]? with
  | none => exact hsame.symm
  | some l =>
    obtain ⟨input, roster, stopping, ended⟩ := l
    cases input with
    | watch watch => exact hsame.symm
    | script pending closed =>
    cases closed with
    | true => exact hsame.symm
    | false =>
    cases ended with
    | true => exact hsame.symm
    | false =>
      cases habout : WatchEvent.itemAbout k item with
      | none =>
        refine view_putLoop_of_same hl ?_
        simp [Loop.about, LoopInput.about, habout]
      | some item' =>
        refine (view_putLoop w number _).trans ?_
        simp [Loop.about, LoopInput.about, habout]

end World

end RunOperator
