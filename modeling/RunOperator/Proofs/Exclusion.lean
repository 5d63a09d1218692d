import RunOperator.Proofs.Dispatch
import RunOperator.Proofs.LostUpdate

/-!
# At most one active monitor per run

Monitors that were replaced or told to stop go on for a while: they sleep, or wait for an answer,
until they notice. `exclusive_after` shows that none of this is seen from outside. As long as only
the dispatcher starts monitors, the client calls for a run are made by a single monitor, the one
that the registry has recorded for the run.
-/

namespace RunOperator

namespace World

variable {w : World} {number : Nat} {k : RunKey}

/-- Each run has at most one monitor at work. -/
structure Exclusive (w : World) : Prop where
  /-- A monitor at work is recorded. -/
  recorded : ∀ i k, w.WorksFor i k → w.RecordedFor i k
  /-- No two monitors work for one run. -/
  unique : ∀ i j k, w.WorksFor i k → w.WorksFor j k → i = j
  /-- Who makes a client call for a run works for it. -/
  caller : ∀ i call, w.call? i = some call → w.WorksFor i call.key
  /-- Without a client call, a move of a monitor does nothing to the store. -/
  silent : ∀ i, w.call? i = none → (w.act (.monitor i)).store = w.store
  /-- When another monitor was started later for the same run, a monitor makes no client call any
  more. -/
  superseded : ∀ i j m m' later, i < j → w.monitors[i]? = some m → w.monitors[j]? = some m' →
    m.lease.key = m'.lease.key → (w.after later).call? i = none
  /-- Once the dispatcher has been told of the creation of a run, the monitors that were started
  for it before neither read nor write the store any more. -/
  created : ∀ k i m later, w.monitors[i]? = some m → m.lease.key = k →
    ((w.onCreate k).after later).call? i = none ∧
      (((w.onCreate k).after later).act (.monitor i)).store =
        ((w.onCreate k).after later).store

/-- The object that a poll has read bears the key of the monitor, as long as nobody gives a run
another key. -/
theorem ReadAt.key_eq {h : List Action} {place : Nat} {read : Run} (hw : w.store.Filed)
    (hkeys : ∀ c, .store c ∈ h → c.KeepsKeys) (hread : ReadAt w h number k read place) :
    read.key = k := by
  have hfiled : (w.afterFirst h place).store.Filed :=
    filed_after hw fun c hc => hkeys c (List.mem_of_mem_take hc)
  exact hfiled k read hread.stored

/-- A client call of a monitor is about the run that the monitor was started for. -/
theorem key_of_call? (hw : w.monitors = []) (hfiled : w.store.Filed) {h : List Action}
    (hkeys : ∀ c, .store c ∈ h → c.KeepsKeys) {m : Monitor} {call : ClientCall}
    (hm : (w.after h).monitors[number]? = some m)
    (hcall : m.call? (w.after h).clock ((w.after h).registry.isCancelled m.lease.id) =
      some call) :
    m.lease.key = call.key := by
  cases call with
  | get k => exact (Monitor.call?_eq_get hcall).2.1
  | pods k => exact (Monitor.call?_eq_pods hcall).2.1
  | replace r =>
    obtain ⟨-, c, target, hphase, -⟩ := Monitor.call?_eq_replace hcall
    obtain ⟨place, read, -, -, current, wall, hread, -, -, -, -, -, -, hr⟩ :=
      record_of_writing hw h hm hphase
    have hkey : read.key = m.lease.key := hread.key_eq hfiled hkeys
    rw [ClientCall.key, hr, ← hkey]
    rfl

/-- A monitor that is not active never makes a client call again. -/
theorem call?_after_of_idle {m : Monitor} (hm : w.monitors[number]? = some m)
    (hidle : ¬ m.ActiveIn w.registry) (later : List Action) :
    (w.after later).call? number = none :=
  (Retired.after ⟨m, hm, hidle⟩ later).call?_eq_none

/-- The creation of a run retires the monitors that it had. -/
theorem Governed.retired_onCreate (hw : w.Governed) {m : Monitor}
    (hm : w.monitors[number]? = some m) (hkey : m.lease.key = k) :
    (w.onCreate k).Retired number := by
  have hcreated : (w.onCreate k).Governed := hw.handle (.create k)
  have hlt := (List.getElem?_eq_some_iff.1 hm).1
  have hmonitors : (w.onCreate k).monitors =
      w.monitors ++ [Monitor.start w.settings w.clock (w.registry.registerReplacing k).1] := rfl
  obtain ⟨r, -, hlease, -⟩ := w.registry.registerReplacing_eq k
  have hold : (w.onCreate k).monitors[number]? = some m := by
    rw [hmonitors, List.getElem?_append_left hlt, hm]
  have hnew : (w.onCreate k).monitors[w.monitors.length]? =
      some (Monitor.start w.settings w.clock (w.registry.registerReplacing k).1) := by
    rw [hmonitors, List.getElem?_concat_length]
  refine ⟨m, hold, hcreated.superseded hlt hold hnew ?_⟩
  rw [hlease, hkey]
  rfl

/-- **At most one active monitor per run.** After any history in which only the dispatcher starts
monitors, with any moves, ends and aborts of the monitors and any changes of the store in between,
a run has at most one monitor at work. It is the one that is recorded, and all client calls for the
run are its own. -/
theorem exclusive_after (settings : Settings) (wall : Instant) (h : List Action)
    (horderly : ∀ a ∈ h, a.Orderly) : ((initial settings wall).after h).Exclusive := by
  have hgoverned : ((initial settings wall).after h).Governed :=
    Along.invariant Governed (fun w a ha hw => governed_act hw ha) (along_of_forall horderly)
      (Registry.governs_nil _)
  constructor
  · rintro i k ⟨m, hm, rfl, hactive⟩
    exact ⟨m, hm, rfl, hgoverned.registered hm hactive⟩
  · intro i j k hi hj
    exact hgoverned.eq_of_worksFor hi hj
  · intro i call hcall
    obtain ⟨m, hm, hmcall⟩ := call?_eq_some hcall
    obtain ⟨m', hm', hactive⟩ := active_of_call? hcall
    obtain rfl := Option.some.inj (hm.symm.trans hm')
    have hkey : m.lease.key = call.key :=
      key_of_call? rfl Store.filed_empty (fun c hc => horderly _ hc) hm hmcall
    exact ⟨m, hm, hkey, hactive⟩
  · intro i hcall
    rw [store_act_monitor, hcall, Option.map_none, Option.getD_none]
  · intro i j m m' later hlt hm hm' hkey
    exact call?_after_of_idle hm (hgoverned.superseded hlt hm hm' hkey) later
  · intro k i m later hm hkey
    have hretired := (hgoverned.retired_onCreate hm hkey).after later
    refine ⟨hretired.call?_eq_none, ?_⟩
    rw [store_act_monitor, hretired.call?_eq_none, Option.map_none, Option.getD_none]

/-- A run is created, resumed and created again before its first monitor wakes. The second monitor
is about to read the run. -/
def recreationHistory : List Action :=
  let r := Run.named "ns" "a" RunSpec.empty
  [.store (.insert r), .react (.create r.key), .react (.resume r), .react (.create r.key),
    .pass 1000, .monitor 1]

/-- It is the second monitor that reads, and it is recorded. -/
theorem exclusive_after_recreation :
    (∀ a ∈ recreationHistory, a.Orderly) ∧
      ((initial .standard ⟨0, 0⟩).after recreationHistory).call? 1 =
        some (.get ⟨"ns", "a"⟩) ∧
      ((initial .standard ⟨0, 0⟩).after recreationHistory).RecordedFor 1 ⟨"ns", "a"⟩ ∧
      ((initial .standard ⟨0, 0⟩).after recreationHistory).Exclusive := by
  have horderly : ∀ a ∈ recreationHistory, a.Orderly := by
    simp [recreationHistory, Action.Orderly, StoreChange.KeepsKeys]
  have hexclusive := exclusive_after .standard ⟨0, 0⟩ recreationHistory horderly
  exact ⟨horderly, rfl, hexclusive.recorded 1 _ (hexclusive.caller 1 _ rfl), hexclusive⟩

end World

end RunOperator
