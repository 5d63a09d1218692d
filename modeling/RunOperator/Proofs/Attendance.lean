import RunOperator.Proofs.Prospects

/-!
# No run is forgotten

An operator that starts afresh follows a watch of the store. `attended_when_caught_up` shows that
every run in the scope of the watch that is underway has a monitor at work as soon as all events of
the watch have been taken in, however often runs are deleted and created again meanwhile, and in
whatever order the loop and the monitors make their moves.
-/

namespace RunOperator

namespace World

variable {scope : Option String} {number n : Nat} {t : Roster} {pending : List WatchEvent}
  {w : World} {m : Monitor} {s' : Store} {k : RunKey} {e : WatchEvent}

/-! ### Moves of the loop -/

/-- The world after the loop has put the next event on its roster. -/
def received (w : World) (number : Nat) (t : Roster) (e : WatchEvent) : World :=
  { w with
    store := w.store.takeEvent number
    loops := [⟨.watch number, (t.observe e).2, false, false⟩] }

/-- The world after the loop has taken in the next event and reacted to it. -/
def takeNext (w : World) (number : Nat) (t : Roster) (e : WatchEvent) : World :=
  (t.observe e).1.foldl handle (w.received number t e)

/-- Taking in an event takes it from the watch, and does nothing else to the store. -/
theorem store_takeNext : (w.takeNext number t e).store = w.store.takeEvent number :=
  store_foldl_handle _ _

/-- Taking in an event keeps the monitors and starts new ones. -/
theorem monitors_takeNext_cases {i : Nat} (hm : (w.takeNext number t e).monitors[i]? = some m) :
    w.monitors[i]? = some m ∨ ∃ lease, m = Monitor.start w.settings w.clock lease := by
  obtain ⟨_, new, heq⟩ := foldl_handle_eq (t.observe e).1 (w.received number t e)
  rw [takeNext, heq, List.getElem?_append] at hm
  split at hm
  · exact Or.inl hm
  · rw [List.getElem?_map, Option.map_eq_some_iff] at hm
    obtain ⟨lease, -, rfl⟩ := hm
    exact Or.inr ⟨lease, rfl⟩

/-- A move of the loop takes in the next event, if there is one. -/
theorem act_loop_cases (hloop : w.loops = [⟨.watch number, t, false, false⟩])
    (hwatch : w.store.watches[number]? = some ⟨scope, pending, false⟩) (n : Nat) :
    w.act (.loop n) = w ∨
      ∃ e rest, pending = e :: rest ∧ w.act (.loop n) = w.takeNext number t e := by
  have hl {l : Loop} (hl : w.loops[n]? = some l) :
      n = 0 ∧ l = ⟨.watch number, t, false, false⟩ := by
    rw [hloop, List.getElem?_singleton] at hl
    split at hl
    · next hn => exact ⟨hn, (Option.some.inj hl).symm⟩
    · cases hl
  have hpendingOf : w.store.pendingOf number = pending := by
    rw [Store.pendingOf, hwatch]
    rfl
  have hmove := loopMove_act w n
  generalize w.act (.loop n) = w' at hmove ⊢
  cases hmove with
  | idle => exact Or.inl rfl
  | ends hl' _ hreason =>
    obtain ⟨-, rfl⟩ := hl hl'
    rcases hreason with hstopping | ⟨watch, hinput, hexhausted⟩ | hinput
    · cases hstopping
    · cases hinput
      rw [Store.isExhausted, hwatch] at hexhausted
      cases hexhausted
    · cases hinput
  | @watches l watch e rest hl' _ _ hinput hpending =>
    obtain ⟨rfl, rfl⟩ := hl hl'
    cases hinput
    refine Or.inr ⟨e, rest, hpendingOf.symm.trans hpending, ?_⟩
    have hloops : (w.loops.set 0 ⟨.watch number, (t.observe e).2, false, false⟩) =
        [⟨.watch number, (t.observe e).2, false, false⟩] := by
      rw [hloop]
      rfl
    rw [takeNext, received, ← hloops]
    rfl
  | reads hl' _ _ hinput | passes hl' _ _ hinput =>
    obtain ⟨-, rfl⟩ := hl hl'
    cases hinput

/-- The dispatcher acts as foretold. -/
theorem Foretells.react (hf : Foretells scope number t (e :: pending) w) :
    (w.takeNext number t e).Staffed ∧
      ∀ k, (w.takeNext number t e).sight (t.observe e).2 k = (w.sight t k).after k e := by
  have hreceived : (w.received number t e).Staffed := hf.staffed
  exact hreceived.foldl_observe hf.remaining hf.unmonitored

/-- When an event is taken in, the prospects stay as they are. -/
theorem Foretells.takeNext (hf : Foretells scope number t (e :: pending) w) :
    Foretells scope number (t.observe e).2 pending (w.takeNext number t e) where
  loop := by
    obtain ⟨_, _, heq⟩ := foldl_handle_eq (t.observe e).1 (w.received number t e)
    rw [World.takeNext, heq]
    rfl
  watch := by
    rw [store_takeNext, Store.takeEvent, List.getElem?_modify_eq, hf.watch]
    rfl
  calm := by
    obtain ⟨_, _, heq⟩ := foldl_handle_eq (t.observe e).1 (w.received number t e)
    rw [store_takeNext, World.takeNext, heq]
    exact ⟨hf.calm.gets, hf.calm.updates, hf.calm.latency⟩
  inTime := by
    intro i m hm
    rcases monitors_takeNext_cases hm with hm | ⟨lease, rfl⟩
    · exact hf.inTime hm
    · exact Monitor.inTime_of_call?_eq_none rfl
  filed := by
    rw [store_takeNext]
    exact hf.filed
  staffed := hf.react.1
  remaining := hf.remaining.observe
  unmonitored := unmonitored_foldl_observe (w := w.received number t e) hf.remaining hf.unmonitored
  foretold := by
    intro k hscope
    have hsuits := hf.foretold k hscope
    rw [Sight.afterAll_cons] at hsuits
    rw [store_takeNext, hf.react.2 k]
    exact hsuits

/-- When a deletion is taken in, no monitor of the run is active any more. -/
theorem HoldsCurrent.takeNext (hc : HoldsCurrent scope (e :: pending) w)
    (hf : Foretells scope number t (e :: pending) w) :
    HoldsCurrent scope pending (w.takeNext number t e) := by
  obtain ⟨hstaffed, hsight⟩ := hf.react
  intro i m hm hread
  have hmonitor : w.monitors[i]? = some m := by
    rcases monitors_takeNext_cases hm with hm | ⟨lease, rfl⟩
    · exact hm
    · cases hread
  obtain ⟨o, hholds, hstored⟩ := hc i m hmonitor hread
  refine ⟨o, hholds, ?_⟩
  intro hscope hactive
  have hbefore : m.ActiveIn w.registry := by
    refine ⟨hactive.1, ?_⟩
    cases hcancelled : w.registry.isCancelled m.lease.id with
    | false => rfl
    | true =>
      have hstill : (w.takeNext number t e).registry.isCancelled m.lease.id = true :=
        isCancelled_foldl_handle _ hcancelled
      exact absurd hactive.2 (by simp [hstill])
  rw [store_takeNext]
  rcases hstored hscope hbefore with hstored | ⟨r, hr, hkey⟩
  · exact Or.inl hstored
  · rcases List.mem_cons.1 hr with rfl | hr
    · -- An active monitor is registered, so that its run would still be attended.
      have hattends : (w.takeNext number t (.delete r)).registry.attends m.lease.key = true :=
        Registry.attends_eq_true_iff.2 ⟨_, hstaffed.registered hm hactive, hactive.2⟩
      have hunattended := congrArg Sight.attended (hsight m.lease.key)
      rw [Sight.after, if_pos hkey] at hunattended
      cases hattends.symm.trans hunattended
    · exact Or.inr ⟨r, hr, hkey⟩

/-! ### The run of the operator -/

/-- What is carried stays current when a run is changed that is not stored or whose deletion is
reported. -/
theorem HoldsCurrent.change {pending' : List WatchEvent} (hc : HoldsCurrent scope pending w)
    (hpending : ∀ k, DeletionPending k pending → DeletionPending k pending')
    (hstored : ∀ k o, k.inScope scope = true → w.store.runs.get? k = some o →
      s'.runs.get? k = some o ∨ DeletionPending k pending') :
    HoldsCurrent scope pending' { w with store := s' } := by
  intro i m hm hread
  obtain ⟨o, hholds, hcurrent⟩ := hc i m hm hread
  refine ⟨o, hholds, ?_⟩
  intro hscope hactive
  rcases hcurrent hscope hactive with hcurrent | hdeletion
  · exact hstored _ o hscope hcurrent
  · exact Or.inr (hpending _ hdeletion)

/-- A run that is created is told to the loop, which has not taken it in yet. -/
theorem follows_insert {r : Run} (hf : Foretells scope number t pending w)
    (hc : HoldsCurrent scope pending w) (hnew : w.store.runs.get? r.key = none) :
    Follows scope number (w.act (.store (.insert r))) := by
  have hruns : (w.store.change (.insert r)).runs =
      w.store.runs.insert r.key (w.store.stampVersion r) := rfl
  refine ⟨t, Store.told scope r.key (.apply (w.store.stampVersion r)) pending, ?_, ?_⟩
  · refine hf.publish rfl rfl (Store.getElem?_watches_broadcast hf.watch)
      ⟨hf.calm.gets, hf.calm.updates, hf.calm.latency⟩ (hf.filed.change trivial) ?_ ?_
    · intro k hne
      exact (KeyMap.get?_insert _ _ _ _).trans (if_neg hne)
    · intro hscope
      have hsuits := hf.foretold r.key hscope
      rw [hnew] at hsuits
      rw [hruns, KeyMap.get?_insert_self]
      exact hsuits.after_apply_new rfl
  · refine hc.change ?_ ?_
    · rintro k ⟨r', hr', hkey⟩
      exact ⟨r', Store.mem_told hr', hkey⟩
    · intro k o _ hstored
      have hne : r.key ≠ k := by
        rintro rfl
        cases hnew.symm.trans hstored
      exact Or.inl (((KeyMap.get?_insert _ _ _ _).trans (if_neg hne)).trans hstored)

/-- A run that is deleted is told to the loop, which has not taken it in yet. -/
theorem follows_delete (hf : Foretells scope number t pending w)
    (hc : HoldsCurrent scope pending w) (k : RunKey) :
    Follows scope number (w.act (.store (.delete k))) := by
  rw [act, Store.change, Store.delete]
  cases hstored : w.store.runs.get? k with
  | none => exact ⟨t, pending, hf, hc⟩
  | some r =>
    have hkey : r.key = k := hf.filed k r hstored
    have hchanged :
        ({ w.store with runs := w.store.runs.erase k }.broadcast k (.delete r)).Filed := by
      have hfiled : (w.store.change (.delete k)).Filed := hf.filed.change trivial
      rwa [Store.change, Store.delete, hstored] at hfiled
    refine ⟨t, Store.told scope k (.delete r) pending, ?_, ?_⟩
    · refine hf.publish rfl (congrArg some hkey) (Store.getElem?_watches_broadcast hf.watch)
        ⟨hf.calm.gets, hf.calm.updates, hf.calm.latency⟩ hchanged ?_ ?_
      · intro k' hne
        exact (KeyMap.get?_erase _ _ _).trans (if_neg hne)
      · intro _
        rw [Store.runs_broadcast, KeyMap.get?_erase, if_pos rfl]
        exact Sight.suits_after_delete hkey
    · refine hc.change ?_ ?_
      · rintro k' ⟨r', hr', hkey'⟩
        exact ⟨r', Store.mem_told hr', hkey'⟩
      · intro k' o hscope hstored'
        by_cases heq : k = k'
        · subst heq
          refine Or.inr ⟨r, ?_, hkey⟩
          rw [Store.told, if_pos hscope]
          exact List.mem_append_right _ List.mem_cons_self
        · exact Or.inl (((KeyMap.get?_erase _ _ _).trans (if_neg heq)).trans hstored')

/-- The operator is left to itself: runs come and go, pods change and time passes, but nobody else
writes a stored run, and every client call is answered within its time limit. -/
def Gentle (w : World) : Action → Prop
  | .store (.insert r) => w.store.runs.get? r.key = none
  | .store (.setLatency latency) => latency ≤ w.settings.requestTimeout
  | .store (.delete _) | .store (.setPods _ _) => True
  | .pass _ | .setWall _ | .monitor _ | .loop _ => True
  | _ => False

/-- The loop follows the store, whoever acts, as long as all are gentle. -/
theorem follows_act {a : Action} (hw : Follows scope number w) (ha : w.Gentle a) :
    Follows scope number (w.act a) := by
  obtain ⟨t, pending, hf, hc⟩ := hw
  cases a with
  | store c =>
    cases c with
    | insert r => exact follows_insert hf hc ha
    | delete k => exact follows_delete hf hc k
    | setPods k pods =>
      exact ⟨t, pending, hf.congr_store rfl rfl ⟨hf.calm.gets, hf.calm.updates, hf.calm.latency⟩, hc⟩
    | setLatency latency =>
      exact ⟨t, pending, hf.congr_store rfl rfl ⟨hf.calm.gets, hf.calm.updates, ha⟩, hc⟩
    | _ => cases ha
  | monitor n => exact follows_act_monitor hf hc n
  | loop n =>
    rcases act_loop_cases hf.loop hf.watch n with heq | ⟨e, rest, rfl, heq⟩ <;> rw [heq]
    · exact ⟨t, pending, hf, hc⟩
    · exact ⟨(t.observe e).2, rest, hf.takeNext, hc.takeNext hf⟩
  | pass time | setWall wall =>
    refine ⟨t, pending, ?_, hc⟩
    exact ⟨hf.loop, hf.watch, hf.calm, hf.inTime, hf.filed, hf.staffed, hf.remaining,
      hf.unmonitored, hf.foretold⟩
  | _ => cases ha

/-- An operator that starts afresh on a store with runs. -/
def started (settings : Settings) (wall : Instant) (s : Store) (scope : Option String) : World :=
  ({ initial settings wall with store := s }.dispatchWatch scope).2

/-- A loop that was just started follows the store, since its watch lists all runs. -/
theorem follows_started {settings : Settings} {wall : Instant} {s : Store} (hfiled : s.Filed)
    (hcalm : s.Calm settings.requestTimeout) :
    Follows scope s.watches.length (started settings wall s scope) := by
  refine ⟨.initial, s.listing scope, ?_, ?_⟩
  · constructor
    · rfl
    · exact List.getElem?_concat_length
    · exact ⟨hcalm.gets, hcalm.updates, hcalm.latency⟩
    · intro i m hm
      cases hm
    · exact hfiled
    · exact Registry.staffed_empty
    · exact .unlisted rfl hfiled.nodup_list (fun e he => by cases he)
    · intro r _
      rfl
    · intro k hscope
      exact hfiled.suits_listing hscope
  · intro i m hm
    cases hm

/-- **No run is forgotten.** An operator that starts afresh follows a watch of a store that holds any
runs, each under its own key, while runs are created and deleted, their pods change and time passes,
and while the loop and the monitors make their moves in any order. Whenever no event of the watch is
pending, each run in its scope that is in a state that is not final has a monitor at work, and this
monitor is registered. -/
theorem attended_when_caught_up (settings : Settings) (wall : Instant) (s : Store)
    (scope : Option String) (hfiled : s.Filed) (hcalm : s.Calm settings.requestTimeout)
    (h : List Action) (hgentle : (started settings wall s scope).Along Gentle h)
    (hcaughtUp : ((started settings wall s scope).after h).store.pendingOf s.watches.length = [])
    {k : RunKey} {r : Run} {state : RunState} (hscope : k.inScope scope = true)
    (hstored : ((started settings wall s scope).after h).store.runs.get? k = some r)
    (hstate : r.state = .ok state) (hfinal : state.isFinal = false) :
    ∃ number, ((started settings wall s scope).after h).WorksFor number k ∧
      ((started settings wall s scope).after h).RecordedFor number k := by
  have hfollows : Follows scope s.watches.length ((started settings wall s scope).after h) :=
    Along.invariant (Follows scope s.watches.length) (fun _ _ ha hw => follows_act hw ha) hgentle
      (follows_started hfiled hcalm)
  obtain ⟨t, pending, hf, -⟩ := hfollows
  have hpending : pending = [] := by
    rwa [Store.pendingOf, hf.watch] at hcaughtUp
  subst hpending
  have hunderway : r.isUnderway = true := by
    rw [Run.isUnderway_of_state hstate, hfinal]
    rfl
  have hattended := (hf.foretold k hscope).attended r hstored hunderway
  exact hf.staffed.exists_worksFor hattended

/-- A run without a state. -/
def strayRun : Run := Run.named "ns" "a" RunSpec.empty

/-- The operator resumes a run that is deleted and created again before the events of this are taken
in, while the monitor of the run is about to wake. -/
def strayHistory : List Action :=
  [.loop 0, .loop 0, .loop 0, .store (.delete strayRun.key), .pass 1000, .monitor 0,
    .store (.insert strayRun), .monitor 0, .loop 0, .loop 0]

/-- The run that was created again is attended by a new monitor. -/
theorem attended_after_strayHistory :
    (Store.empty.insert strayRun).2.Filed ∧
      (Store.empty.insert strayRun).2.Calm Settings.standard.requestTimeout ∧
      (started .standard ⟨0, 0⟩ (Store.empty.insert strayRun).2 (some "ns")).Along Gentle
        strayHistory ∧
      ((started .standard ⟨0, 0⟩ (Store.empty.insert strayRun).2 (some "ns")).after
        strayHistory).store.pendingOf 0 = [] ∧
      ∃ number,
        ((started .standard ⟨0, 0⟩ (Store.empty.insert strayRun).2 (some "ns")).after
          strayHistory).WorksFor number strayRun.key ∧
        ((started .standard ⟨0, 0⟩ (Store.empty.insert strayRun).2 (some "ns")).after
          strayHistory).RecordedFor number strayRun.key := by
  have hfiled : (Store.empty.insert strayRun).2.Filed :=
    Store.filed_empty.change (c := .insert strayRun) trivial
  have hcalm : (Store.empty.insert strayRun).2.Calm Settings.standard.requestTimeout :=
    ⟨fun _ => rfl, fun _ => rfl, Nat.zero_le _⟩
  have hgentle : (started .standard ⟨0, 0⟩ (Store.empty.insert strayRun).2 (some "ns")).Along Gentle
      strayHistory :=
    ⟨trivial, trivial, trivial, trivial, trivial, trivial, rfl, trivial, trivial, trivial, trivial⟩
  exact ⟨hfiled, hcalm, hgentle, rfl,
    attended_when_caught_up .standard ⟨0, 0⟩ _ (some "ns") hfiled hcalm strayHistory hgentle rfl rfl
      rfl rfl rfl⟩

end World

end RunOperator
