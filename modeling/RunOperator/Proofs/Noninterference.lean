import RunOperator.Proofs.LoopViews
import RunOperator.Proofs.MonitorViews

/-!
# Runs do not influence one another

What the world shows of a run after a history is determined by the trace of the run, the steps that
concern it (`view_after`). All that the runs share, the numbers of versions and leases among it,
carries nothing from one to another: in two histories that differ in steps of other runs only, the
run, its counters, its registration and the exits of its monitors are the same at all points that
correspond (`runs_do_not_interfere`).
-/

namespace RunOperator

/-- What others do takes no notice of concrete versions and numbers of leases of the run, gives no
stored run another key, and starts no monitors of other operators. -/
def Action.Separable (k : RunKey) : Action → Prop
  | .start _ => False
  | .registry c => c.Separable k
  | .store c => c.KeepsKeys ∧ c.IgnoresVersions k
  | _ => True

namespace RunView

/-- The view after an action that concerns the run. -/
def act (k : RunKey) (v : RunView) : Action → RunView
  | .store c =>
    let v' := { v with store := v.store.change k c }
    if c.rewrites then v'.outdate else v'
  | .registry c => v.changeRegistry c
  | .start _ => v
  | .configure settings => { v with settings }
  | .pass time => { v with clock := v.clock + time }
  | .setWall wall => { v with wall }
  | .monitor rank => v.moveMonitor k rank
  | .abort rank => v.abort rank
  | .react e => v.handle e
  | .shutdown => v.cancel
  | .dispatchWatch scope => v.dispatchWatch k scope
  | .dispatchScript => v.startLoop k (.script [] false)
  | .emit number item => v.emit number item
  | .endScript number => v.endScript number
  | .stopLoop number => v.stopLoop number
  | .loop number => v.loop k number

/-- The view after some actions that concern the run. -/
def after (k : RunKey) (v : RunView) (h : List Action) : RunView := h.foldl (act k) v

end RunView

namespace World

variable {w : World} {k : RunKey} {a : Action}

/-! ### Order -/

/-- The runs are stored under their keys with versions that were issued, the leases of different
runs have different numbers, and monitors carry objects of their own runs. -/
structure InOrder (w : World) : Prop where
  filed : w.store.Filed
  versioned : w.store.Versioned
  apart : w.KeepsApart
  carried : ∀ m ∈ w.monitors, m.CarriesOwn w.store

/-- Nothing is out of order at the start. -/
theorem inOrder_initial (settings : Settings) (wall : Instant) :
    (initial settings wall).InOrder where
  filed := Store.filed_empty
  versioned := Store.versioned_empty
  apart := Registry.keepsApart_empty
  carried := by
    intro m hm
    cases hm

/-- A monitor that goes on or ends keeps runs apart. -/
theorem KeepsApart.putMonitor {number : Nat} {m m' : Monitor} (hw : w.KeepsApart)
    (hm : w.monitors[number]? = some m) (hlease : m'.lease = m.lease) :
    (w.putMonitor number m').KeepsApart := by
  have hset : w.registry.KeepsApart (w.monitors.set number m') := by
    refine Registry.KeepsApart.staff hw ?_
    intro m₀ hm₀
    rcases List.mem_or_eq_of_mem_set hm₀ with hkept | rfl
    · exact Or.inl ⟨m₀, hkept, rfl⟩
    · exact Or.inl ⟨m, List.mem_of_getElem? hm, hlease.symm⟩
  unfold World.putMonitor
  cases m'.isOver with
  | false => exact hset
  | true => exact hset.release m'.lease

/-- An action that a run may be separated from keeps runs apart. -/
theorem KeepsApart.act (hw : w.KeepsApart) (ha : a.Separable k) : (w.act a).KeepsApart := by
  cases a with
  | start lease => cases ha
  | registry c => exact hw.changeRegistry ha
  | monitor number =>
    rcases act_monitor_cases w number with heq | ⟨m, m', s', hm, hstep, heq⟩ <;> rw [heq]
    · exact hw
    · have hstored : World.KeepsApart { w with store := s' } := hw
      exact hstored.putMonitor hm (Monitor.step_of_step? hstep).lease_eq
  | abort number =>
    rcases act_abort_cases w number with heq | ⟨m, hm, -, heq⟩ <;> rw [heq]
    · exact hw
    · exact hw.putMonitor hm rfl
  | react e => exact hw.handle e
  | loop number =>
    obtain ⟨store, loops, events, heq⟩ := act_loop_eq w number
    have hmoved : World.KeepsApart { w with store, loops } := hw
    rw [heq]
    exact hmoved.foldl_handle events
  | shutdown => exact Registry.KeepsApart.cancelAll hw
  | emit number item =>
    obtain ⟨loops, heq⟩ := act_emit_eq w number item
    rw [heq]
    exact hw
  | _ => exact hw

/-- An action that a run may be separated from keeps the world in order. -/
theorem InOrder.act (hw : w.InOrder) (ha : a.Separable k) : (w.act a).InOrder where
  filed := by
    refine filed_act hw.filed ?_
    rintro c rfl
    exact ha.1
  versioned := hw.versioned.evolves (w.evolves_act a)
  apart := hw.apart.act ha
  carried := by
    intro m' hm'
    obtain ⟨number, hm'⟩ := List.getElem?_of_mem hm'
    cases fate_of_act hm' with
    | kept hm =>
      intro r hr
      obtain ⟨hkey, v, hv, hcarries⟩ := hw.carried m' (List.mem_of_getElem? hm) r hr
      exact ⟨hkey, v, Nat.le_trans hv (w.evolves_act a).lastVersion_le, hcarries⟩
    | moved m _ hm hstep =>
      exact (hw.carried m (List.mem_of_getElem? hm)).step hw.filed hw.versioned hstep
    | aborted m _ _ heq =>
      intro r hr
      rw [heq] at hr
      cases hr
    | started lease _ heq =>
      intro r hr
      rw [heq] at hr
      cases hr

/-! ### The view after an action -/

/-- A change of the store is seen as what it is about the run. -/
theorem view_act_store {c : StoreChange} (hw : w.InOrder) (hc : c.KeepsKeys)
    (hignores : c.IgnoresVersions k) :
    (w.act (.store c)).view k =
      ((c.about k).map Action.store).elim (w.view k) ((w.view k).act k) := by
  cases habout : c.about k with
  | none =>
    have halike := Store.alikeFor_change hw.filed hc habout
    exact (view_store hw.carried halike.stored).trans (by rw [halike.view]; rfl)
  | some c' =>
    have hview := Store.view_change hw.filed hc hignores habout
    have hstored := Store.stored_change (s := w.store) hignores habout
    rw [Option.map_some, Option.elim_some, RunView.act]
    split at hstored
    · next hrewrites =>
      rw [if_pos hrewrites]
      exact (view_store_rewritten hw.carried hstored).trans (by rw [hview]; rfl)
    · next hkeeps =>
      rw [if_neg hkeeps]
      exact (view_store hw.carried hstored).trans (by rw [hview]; rfl)

/-- A monitor that was not started does nothing. -/
theorem act_of_getElem?_eq_none {number : Nat} (hm : w.monitors[number]? = none) :
    w.act (.monitor number) = w ∧ w.act (.abort number) = w := by
  constructor
  · simp [act, nudgeMonitor, moveMonitor?, hm]
  · simp [act, abort, hm]

/-- An action that concerns a run changes its view by what it was before, and any other action
leaves it. -/
theorem view_act (hw : w.InOrder) (ha : a.Separable k) :
    (w.act a).view k = (w.concern? k a).elim (w.view k) ((w.view k).act k) := by
  cases a with
  | store c => exact view_act_store hw ha.1 ha.2
  | registry c =>
    rw [concern?]
    refine (view_changeRegistry hw.apart ha).trans ?_
    cases c.about k <;> rfl
  | start lease => cases ha
  | configure settings | pass time | setWall wall => rfl
  | monitor number =>
    rw [concern?]
    cases hm : w.monitors[number]? with
    | none => rw [(act_of_getElem?_eq_none hm).1]; rfl
    | some m =>
      by_cases hkey : m.lease.key = k
      · rw [view_act_monitor hw.filed hw.carried hm hkey, if_pos (by simp [Monitor.isFor, hkey])]
        rfl
      · rw [view_act_monitor_of_other hw.carried hm hkey, if_neg (by simp [Monitor.isFor, hkey])]
        rfl
  | abort number =>
    rw [concern?]
    cases hm : w.monitors[number]? with
    | none => rw [(act_of_getElem?_eq_none hm).2]; rfl
    | some m =>
      by_cases hkey : m.lease.key = k
      · rw [if_pos (by simp [Monitor.isFor, hkey])]
        exact view_abort hm hkey
      · rw [if_neg (by simp [Monitor.isFor, hkey])]
        exact view_abort_of_other hm hkey
  | react e =>
    rw [concern?]
    refine (view_handle hw.apart e k).trans ?_
    cases e.about k <;> rfl
  | shutdown => exact view_cancelAll hw.apart k
  | dispatchWatch scope => exact view_dispatchWatch hw.filed scope
  | dispatchScript => exact view_startLoop w k _
  | emit number item =>
    rw [concern?]
    refine (view_emit w k number item).trans ?_
    cases WatchEvent.itemAbout k item <;> rfl
  | endScript number => exact view_endScript w k number
  | stopLoop number => exact view_stopLoop w k number
  | loop number =>
    rw [concern?, view_act_loop hw.apart]
    split <;> rfl

/-- What the world shows of a run after a history is determined by its trace. -/
theorem view_after (hw : w.InOrder) {h : List Action} (hh : ∀ a ∈ h, a.Separable k) :
    (w.after h).view k = (w.view k).after k (w.trace k h) := by
  induction h generalizing w with
  | nil => rfl
  | cons a h ih =>
    have ha := hh a List.mem_cons_self
    rw [after_cons, ih (hw.act ha) fun b hb => hh b (List.mem_cons_of_mem a hb), view_act hw ha,
      trace]
    cases w.concern? k a <;> rfl

/-! ### Corresponding points -/

private theorem trace_take_isPrefix (w : World) (k : RunKey) (h : List Action) (i : Nat) :
    w.trace k (h.take i) <+: w.trace k h := by
  induction h generalizing w i with
  | nil => simp
  | cons a h ih =>
    cases i with
    | zero => exact List.nil_prefix
    | succ i =>
      rw [List.take_succ_cons, trace, trace, List.prefix_append_right_inj]
      exact ih (w.act a) i

/-- Every beginning of a trace is the trace of a beginning of the history. -/
theorem exists_trace_take_eq {t : List Action} {w : World} {h : List Action}
    (ht : t <+: w.trace k h) : ∃ j, w.trace k (h.take j) = t := by
  induction h generalizing w t with
  | nil => exact ⟨0, (List.prefix_nil.1 ht).symm⟩
  | cons a h ih =>
    rw [trace] at ht
    cases hconcern : w.concern? k a with
    | none =>
      rw [hconcern] at ht
      obtain ⟨j, hj⟩ := ih ht
      refine ⟨j + 1, ?_⟩
      rw [List.take_succ_cons, trace, hconcern, hj]
      rfl
    | some a' =>
      rw [hconcern] at ht
      rcases List.prefix_cons_iff.1 ht with rfl | ⟨t', rfl, ht'⟩
      · exact ⟨0, rfl⟩
      · obtain ⟨j, hj⟩ := ih ht'
        refine ⟨j + 1, ?_⟩
        rw [List.take_succ_cons, trace, hconcern, hj]
        rfl

/-- Two worlds hold the same of a run: its object up to the version, the numbers of its reads and
replacements, its registration and the exits of its monitors. -/
structure SameFor (k : RunKey) (w₁ w₂ : World) : Prop where
  stored : (w₁.store.runs.get? k).map Run.bare = (w₂.store.runs.get? k).map Run.bare
  gets : w₁.store.gets.getD k 0 = w₂.store.gets.getD k 0
  updates : w₁.store.updates.getD k 0 = w₂.store.updates.getD k 0
  registered : w₁.registry.contains k = w₂.registry.contains k
  cancelled : (w₁.registry.entries.get? k).map w₁.registry.isCancelled =
    (w₂.registry.entries.get? k).map w₂.registry.isCancelled
  exits : (w₁.monitorsOf k).map Monitor.exit? = (w₂.monitorsOf k).map Monitor.exit?

/-- Worlds with the same view of a run are the same for it. -/
theorem sameFor_of_view_eq {w₁ w₂ : World} (h : w₁.view k = w₂.view k) : SameFor k w₁ w₂ where
  stored := congrArg (fun v => v.store.run) h
  gets := congrArg (fun v => v.store.gets) h
  updates := congrArg (fun v => v.store.updates) h
  registered := by rw [← isSome_entry, ← isSome_entry, h]
  cancelled := congrArg RunView.entry h
  exits := by
    have hexits (w : World) : (w.monitorsOf k).map Monitor.exit? =
        (w.view k).team.map fun m => m.monitor.exit? := by
      rw [view, List.map_map]
      exact List.map_congr_left fun m _ => m.exit?_bare.symm
    rw [hexits, hexits, h]

/-- **Runs do not influence one another.** Let two histories have the same trace of a run, so that
they differ in steps of other runs only. Then every point of the one corresponds to a point of the
other, up to which the traces are the same, and at all points that correspond the two worlds hold
the same of the run. -/
theorem runs_do_not_interfere (settings : Settings) (wall : Instant) (k : RunKey)
    {h₁ h₂ : List Action} (hh₁ : ∀ a ∈ h₁, a.Separable k) (hh₂ : ∀ a ∈ h₂, a.Separable k)
    (htrace : (initial settings wall).trace k h₁ = (initial settings wall).trace k h₂) :
    (∀ i, ∃ j, (initial settings wall).trace k (h₁.take i) =
      (initial settings wall).trace k (h₂.take j)) ∧
    ∀ i j, (initial settings wall).trace k (h₁.take i) =
        (initial settings wall).trace k (h₂.take j) →
      SameFor k ((initial settings wall).afterFirst h₁ i)
        ((initial settings wall).afterFirst h₂ j) := by
  constructor
  · intro i
    have hbegins := trace_take_isPrefix (initial settings wall) k h₁ i
    rw [htrace] at hbegins
    obtain ⟨j, hj⟩ := exists_trace_take_eq hbegins
    exact ⟨j, hj.symm⟩
  · intro i j hpoints
    refine sameFor_of_view_eq ?_
    rw [afterFirst, afterFirst,
      view_after (inOrder_initial settings wall) fun a ha => hh₁ a (List.mem_of_mem_take ha),
      view_after (inOrder_initial settings wall) fun a ha => hh₂ a (List.mem_of_mem_take ha),
      hpoints]

/-- A run is found by a loop, its monitor replaces it, and it is deleted. -/
def quietHistory : List Action :=
  let a := Run.named "ns" "a" { RunSpec.empty with state := some "QUEUED" }
  [.store (.insert a), .store (.setPods a.key [.running]), .dispatchScript,
    .emit 0 (.ok (.initApply a)), .loop 0, .pass 1000, .monitor 0, .monitor 0, .monitor 0,
    .monitor 0, .emit 0 (.ok (.delete a)), .loop 0, .monitor 0]

/-- The same happens while another run is found, read, changed and deleted. -/
def busyHistory : List Action :=
  let a := Run.named "ns" "a" { RunSpec.empty with state := some "QUEUED" }
  let b := Run.named "ns" "b" { RunSpec.empty with state := some "QUEUED" }
  [.store (.insert b), .store (.insert a), .store (.failGets b.key [.timeout]),
    .store (.setPods a.key [.running]), .dispatchScript, .emit 0 (.ok (.initApply b)),
    .emit 0 (.ok (.initApply a)), .loop 0, .loop 0, .pass 1000, .monitor 0, .monitor 1,
    .monitor 1, .store (.modify b.key id), .monitor 1, .monitor 0, .monitor 1,
    .store (.delete b.key), .emit 0 (.ok (.delete a)), .react (.delete b.key), .loop 0,
    .monitor 0, .monitor 1]

/-- The other run shows in nothing that is left of the run and its monitor, which was cancelled. -/
theorem runs_do_not_interfere_of_busyHistory :
    let w₁ := (initial .standard ⟨0, 0⟩).after quietHistory
    let w₂ := (initial .standard ⟨0, 0⟩).after busyHistory
    (∀ a ∈ quietHistory, a.Separable ⟨"ns", "a"⟩) ∧
      (∀ a ∈ busyHistory, a.Separable ⟨"ns", "a"⟩) ∧
      (initial .standard ⟨0, 0⟩).trace ⟨"ns", "a"⟩ quietHistory =
        (initial .standard ⟨0, 0⟩).trace ⟨"ns", "a"⟩ busyHistory ∧
      (w₁.monitorsOf ⟨"ns", "a"⟩).map Monitor.exit? = [some .cancelled] ∧
      SameFor ⟨"ns", "a"⟩ w₁ w₂ := by
  have hquiet : ∀ a ∈ quietHistory, a.Separable ⟨"ns", "a"⟩ := by
    simp [quietHistory, Action.Separable, StoreChange.KeepsKeys, StoreChange.IgnoresVersions]
  have hbusy : ∀ a ∈ busyHistory, a.Separable ⟨"ns", "a"⟩ := by
    have hbare (r : Run) (version : Option String) : (r.setVersion version).bare = r.bare := rfl
    simp [busyHistory, Action.Separable, StoreChange.KeepsKeys, StoreChange.IgnoresVersions, hbare]
  -- The history of the run alone is its own trace, and the trace of the busy one.
  have hown : (initial .standard ⟨0, 0⟩).trace ⟨"ns", "a"⟩ quietHistory = quietHistory := rfl
  have hshared : (initial .standard ⟨0, 0⟩).trace ⟨"ns", "a"⟩ busyHistory = quietHistory := rfl
  have htrace := hown.trans hshared.symm
  exact ⟨hquiet, hbusy, htrace, rfl,
    (runs_do_not_interfere .standard ⟨0, 0⟩ ⟨"ns", "a"⟩ hquiet hbusy htrace).2 13 23 htrace⟩

end World

end RunOperator
