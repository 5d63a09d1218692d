import RunOperator.Proofs.Feed
import RunOperator.Proofs.PollRecord

/-!
# The prospects of an operator that follows a watch

`Foretells` says that the events which are pending will lead to what is stored, and `HoldsCurrent`
that a monitor at work carries the stored object, unless the deletion of its run is still pending.
Together they outlast every move of a monitor (`follows_act_monitor`): a monitor that ends on an
object which is not stored any more is replaced in time, because the deletion is pending and all
that is pending after it counts the run as new.
-/

namespace RunOperator

/-- The call that the monitor waits for, if it does, will not be given up. -/
def Monitor.InTime (m : Monitor) : Prop := ∀ c, m.phase.call? = some c → c.timesOut = false

/-- The monitor carries an object of its run that it has read in a state that is not final. -/
def Monitor.Holds (m : Monitor) (o : Run) : Prop :=
  o.key = m.lease.key ∧ o.isUnderway = true ∧
    ((∃ c current, m.phase = .listing c o current) ∨
      ∃ c current target wall, m.phase = .writing c (o.transition current target wall) target)

/-- While the pods are listed, the object that is held is the one that was read. -/
theorem Monitor.Holds.of_listing {m : Monitor} {o r : Run} {c : Call} {current : RunState}
    (h : m.Holds o) (hphase : m.phase = .listing c r current) : o = r := by
  obtain ⟨-, -, ⟨c', current', hphase'⟩ | ⟨c', current', target, wall, hphase'⟩⟩ := h
  · cases hphase.symm.trans hphase'
    rfl
  · cases hphase.symm.trans hphase'

/-- While the run is written, the object that is written is a transition of the one that is held. -/
theorem Monitor.Holds.of_writing {m : Monitor} {o r : Run} {c : Call} {target : RunState}
    (h : m.Holds o) (hphase : m.phase = .writing c r target) :
    ∃ current wall, r = o.transition current target wall := by
  obtain ⟨-, -, ⟨c', current', hphase'⟩ | ⟨c', current', target', wall, hphase'⟩⟩ := h
  · cases hphase.symm.trans hphase'
  · cases hphase.symm.trans hphase'
    exact ⟨current', wall, rfl⟩

/-- A call is answered in time if the latency is no longer than the timeout. -/
theorem Call.timesOut_begin {settings : Settings} {now latency : Nat}
    (hlatency : latency ≤ settings.requestTimeout) :
    (Call.begin settings now latency).timesOut = false := by
  rw [Call.timesOut, decide_eq_false_iff_not, Call.begin]
  exact Nat.not_lt.2 (Nat.add_le_add_left hlatency now)

/-- After a poll a monitor waits for no call and carries no object. -/
theorem Monitor.idle_afterPoll (settings : Settings) (now : Nat) (m : Monitor)
    (result : PollResult) :
    (m.afterPoll settings now result).phase.call? = none ∧
      (m.afterPoll settings now result).hasRead = false := by
  have hphase : (∃ wake, (m.afterPoll settings now result).phase = .sleeping wake) ∨
      ∃ e, (m.afterPoll settings now result).phase = .ended e := m.phase_afterPoll result
  rcases hphase with ⟨wake, h⟩ | ⟨e, h⟩
  · exact ⟨by rw [h]; rfl, by simp [hasRead, h]⟩
  · exact ⟨by rw [h]; rfl, by simp [hasRead, h]⟩

/-- A monitor that waits for no call has none that will be given up. -/
theorem Monitor.inTime_of_call?_eq_none {m : Monitor} (h : m.phase.call? = none) : m.InTime := by
  intro c hc
  cases h.symm.trans hc

/-- A poll ends with the reading of a run only if the run is not underway. -/
theorem Poll.isUnderway_of_finish {r : Run} {result : PollResult} (h : ofRun r = .finish result) :
    r.isUnderway = false := by
  unfold ofRun at h
  unfold Run.isUnderway
  split at h
  · next e hstate => rw [hstate]
  · next current hstate =>
    rw [hstate]
    split at h
    · next hfinal => simp [hfinal]
    · cases h

namespace World

variable {scope : Option String} {number n : Nat} {t : Roster} {pending : List WatchEvent}
  {w : World} {m m' : Monitor} {s' : Store} {k : RunKey} {e : WatchEvent}

/-- The operator follows the watch, and the pending events of the watch will lead to what is
stored. -/
structure Foretells (scope : Option String) (number : Nat) (t : Roster)
    (pending : List WatchEvent) (w : World) : Prop where
  /-- There is one loop, and its roster has taken in what is not pending. -/
  loop : w.loops = [⟨.watch number, t, false, false⟩]
  watch : w.store.watches[number]? = some ⟨scope, pending, false⟩
  /-- No client call fails because of an injected error or its time limit. -/
  calm : w.store.Calm w.settings.requestTimeout
  inTime : ∀ {i : Nat} {m : Monitor}, w.monitors[i]? = some m → m.InTime
  filed : w.store.Filed
  staffed : w.Staffed
  /-- What is pending is the rest of a listing, and changes after it. -/
  remaining : Remaining t pending
  unmonitored : w.registry.Unmonitored pending
  /-- What will be known of a run and done for it suits what is stored. -/
  foretold : ∀ k, k.inScope scope = true →
    ((w.sight t k).afterAll k pending).Suits (w.store.runs.get? k)

/-- An active monitor that carries an object carries the stored one, unless the deletion of its run
is pending. -/
def HoldsCurrent (scope : Option String) (pending : List WatchEvent) (w : World) : Prop :=
  ∀ (i : Nat) (m : Monitor), w.monitors[i]? = some m → m.hasRead = true → ∃ o, m.Holds o ∧
    (m.lease.key.inScope scope = true → m.ActiveIn w.registry →
      w.store.runs.get? m.lease.key = some o ∨ DeletionPending m.lease.key pending)

/-- The operator follows the watch, and whatever is pending leads to what is stored. -/
def Follows (scope : Option String) (number : Nat) (w : World) : Prop :=
  ∃ t pending, Foretells scope number t pending w ∧ HoldsCurrent scope pending w

/-- The run of the monitor needs no monitor at present: it is not underway, or its deletion is
pending. -/
def Dispensable (scope : Option String) (pending : List WatchEvent) (w : World)
    (m : Monitor) : Prop :=
  m.lease.key.inScope scope = true →
    (∀ r, w.store.runs.get? m.lease.key = some r → r.isUnderway = false) ∨
      DeletionPending m.lease.key pending

/-! ### Changes of the store -/

/-- Whatever concerns neither runs nor watches is of no account. -/
theorem Foretells.congr_store (h : Foretells scope number t pending w)
    (hruns : s'.runs = w.store.runs) (hwatches : s'.watches = w.store.watches)
    (hcalm : s'.Calm w.settings.requestTimeout) :
    Foretells scope number t pending { w with store := s' } where
  loop := h.loop
  watch := hwatches ▸ h.watch
  calm := hcalm
  inTime := h.inTime
  filed := h.filed.congr hruns
  staffed := h.staffed
  remaining := h.remaining
  unmonitored := h.unmonitored
  foretold := by
    intro k hscope
    exact hruns ▸ h.foretold k hscope

/-- A change of a run is foretold by the event that reports it. -/
theorem Foretells.publish (h : Foretells scope number t pending w) (he : e.isChange = true)
    (hkey : e.key? = some k)
    (hwatch : s'.watches[number]? = some ⟨scope, Store.told scope k e pending, false⟩)
    (hcalm : s'.Calm w.settings.requestTimeout) (hfiled : s'.Filed)
    (hother : ∀ k', k ≠ k' → s'.runs.get? k' = w.store.runs.get? k')
    (hself : k.inScope scope = true →
      (((w.sight t k).afterAll k pending).after k e).Suits (s'.runs.get? k)) :
    Foretells scope number t (Store.told scope k e pending) { w with store := s' } where
  loop := h.loop
  watch := hwatch
  calm := hcalm
  inTime := h.inTime
  filed := hfiled
  staffed := h.staffed
  remaining := by
    unfold Store.told
    split
    · exact h.remaining.concat he
    · exact h.remaining
  unmonitored := by
    intro r hr
    refine h.unmonitored r ?_
    unfold Store.told at hr
    split at hr
    · rcases List.mem_append.1 hr with hr | hr
      · exact hr
      · rw [← List.mem_singleton.1 hr] at he
        cases he
    · exact hr
  foretold := by
    intro k' hscope
    have hsight : ({ w with store := s' } : World).sight t k' = w.sight t k' := rfl
    rw [hsight]
    by_cases heq : k = k'
    · subst heq
      rw [Store.told, if_pos hscope, Sight.afterAll_concat]
      exact hself hscope
    · have hne : e.key? ≠ some k' := by
        rw [hkey]
        exact fun h => heq (Option.some.inj h)
      have hsame : (w.sight t k').afterAll k' (Store.told scope k e pending) =
          (w.sight t k').afterAll k' pending := by
        unfold Store.told
        split
        · rw [Sight.afterAll_concat, Sight.after_of_ne hne]
        · rfl
      rw [hsame]
      exact hother k' heq ▸ h.foretold k' hscope

/-! ### Moves of monitors -/

/-- A monitor that goes on leaves the prospects as they are, and so does one that ends because it was
told to or because its run can do without it. -/
theorem Foretells.putMonitor (h : Foretells scope number t pending w)
    (hm : w.monitors[n]? = some m) (hlease : m'.lease = m.lease) (hover : m.isOver = false)
    (hinTime : m'.InTime)
    (hend : m'.isOver = false ∨ w.registry.isCancelled m.lease.id = true ∨
      Dispensable scope pending w m) :
    Foretells scope number t pending (w.putMonitor n m') where
  loop := h.loop
  watch := h.watch
  calm := h.calm
  inTime := by
    intro i m'' hm''
    rcases Monitor.getElem?_set_cases hm'' with ⟨-, rfl⟩ | ⟨-, hm''⟩
    · exact hinTime
    · exact h.inTime hm''
  filed := h.filed
  staffed := h.staffed.putMonitor hm hlease hover
  remaining := h.remaining
  unmonitored := by
    intro r hr
    have hnone := h.unmonitored r hr
    simp only [World.putMonitor]
    split
    · rw [Registry.get?_release]
      split
      · rfl
      · exact hnone
    · exact hnone
  foretold := by
    intro k hscope
    have hsuits := h.foretold k hscope
    have hsame (hattends : (w.putMonitor n m').registry.attends k = w.registry.attends k) :
        (w.putMonitor n m').sight t k = w.sight t k := by
      rw [sight, hattends, sight]
    have hroster : ((w.putMonitor n m').sight t k).known = (w.sight t k).known := rfl
    have hknown := Sight.known_afterAll hroster pending (k := k)
    by_cases hm'over : m'.isOver = true
    · have hregistry : (w.putMonitor n m').registry = w.registry.release m'.lease := if_pos hm'over
      by_cases hkey : m.lease.key = k
      · rcases hend with hend | hcancelled | hend
        · rw [hend] at hm'over
          cases hm'over
        · rw [hsame]
          · exact hsuits
          · rw [hregistry, Registry.attends_release]
            exact Or.inr (hlease ▸ hcancelled)
        · subst hkey
          rcases hend hscope with hidle | hdeletion
          · exact hsuits.of_idle hknown hidle
          · exact hsuits.of_attended_eq_known hknown (h.remaining.attended_eq_known hdeletion)
      · rw [hsame]
        · exact hsuits
        · rw [hregistry, Registry.attends_release]
          exact Or.inl (hlease ▸ hkey)
    · rw [hsame]
      · exact hsuits
      · have hregistry : (w.putMonitor n m').registry = w.registry := if_neg hm'over
        rw [hregistry]

/-- The move of a monitor concerns what other monitors carry only if it writes, and then no other
is active for its run. -/
theorem HoldsCurrent.putMonitor {pending' : List WatchEvent} (h : HoldsCurrent scope pending w)
    (hw : w.Governed) (hm : w.monitors[n]? = some m) (hlease : m'.lease = m.lease)
    (hpending : ∀ k, DeletionPending k pending → DeletionPending k pending')
    (hother : ∀ k, m.lease.key ≠ k → s'.runs.get? k = w.store.runs.get? k)
    (hwriter : s'.runs = w.store.runs ∨ m.ActiveIn w.registry)
    (hself : m'.hasRead = true → ∃ o, m'.Holds o ∧ (m.lease.key.inScope scope = true →
      s'.runs.get? m.lease.key = some o ∨ DeletionPending m.lease.key pending')) :
    HoldsCurrent scope pending' ({ w with store := s' }.putMonitor n m') := by
  intro i m'' hm'' hread
  have hregistry (id : Nat) : ({ w with store := s' }.putMonitor n m').registry.isCancelled id =
      w.registry.isCancelled id := isCancelled_putMonitor _ _ _ _
  rcases Monitor.getElem?_set_cases hm'' with ⟨-, rfl⟩ | ⟨hne, hm''⟩
  · obtain ⟨o, hholds, hstored⟩ := hself hread
    refine ⟨o, hholds, ?_⟩
    intro hscope _
    rw [hlease] at hscope ⊢
    exact hstored hscope
  · obtain ⟨o, hholds, hstored⟩ := h i m'' hm'' hread
    refine ⟨o, hholds, ?_⟩
    intro hscope hactive
    have hbefore : m''.ActiveIn w.registry := ⟨hactive.1, hregistry _ ▸ hactive.2⟩
    have hruns : s'.runs.get? m''.lease.key = w.store.runs.get? m''.lease.key := by
      rcases hwriter with hruns | hwriter
      · rw [hruns]
      · refine hother _ ?_
        -- Two active monitors of one run would be the same.
        intro hkey
        exact hne (hw.eq_of_worksFor ⟨m, hm, hkey, hwriter⟩ ⟨m'', hm'', rfl, hbefore⟩)
    rcases hstored hscope hbefore with hstored | hdeletion
    · exact Or.inl (hruns.trans hstored)
    · exact Or.inr (hpending _ hdeletion)

/-- Most moves of a monitor leave the runs and the pending events alone. -/
theorem follows_of_still (hf : Foretells scope number t pending w)
    (hc : HoldsCurrent scope pending w) (hm : w.monitors[n]? = some m)
    (hlease : m'.lease = m.lease) (hover : m.isOver = false) (hruns : s'.runs = w.store.runs)
    (hwatches : s'.watches = w.store.watches) (hcalm : s'.Calm w.settings.requestTimeout)
    (hinTime : m'.InTime)
    (hend : m'.isOver = false ∨ w.registry.isCancelled m.lease.id = true ∨
      Dispensable scope pending w m)
    (hself : m'.hasRead = true → ∃ o, m'.Holds o ∧ (m.lease.key.inScope scope = true →
      w.store.runs.get? m.lease.key = some o ∨ DeletionPending m.lease.key pending)) :
    Follows scope number ({ w with store := s' }.putMonitor n m') := by
  refine ⟨t, pending, ?_, ?_⟩
  · refine (hf.congr_store hruns hwatches hcalm).putMonitor hm hlease hover hinTime ?_
    rcases hend with hend | hend | hend
    · exact Or.inl hend
    · exact Or.inr (Or.inl hend)
    · exact Or.inr (Or.inr fun hscope => hruns ▸ hend hscope)
  · refine hc.putMonitor hf.staffed.toGoverns hm hlease (fun _ h => h) ?_ (Or.inl hruns) ?_
    · intro k _
      rw [hruns]
    · rw [hruns]
      exact hself

/-- The end of a poll without a replacement leaves all as it is, if the monitor goes on or its run can
do without it. -/
theorem follows_of_afterPoll {result : PollResult} (hf : Foretells scope number t pending w)
    (hc : HoldsCurrent scope pending w) (hm : w.monitors[n]? = some m) (hover : m.isOver = false)
    (hruns : s'.runs = w.store.runs) (hwatches : s'.watches = w.store.watches)
    (hcalm : s'.Calm w.settings.requestTimeout)
    (hend : (m.afterPoll w.settings w.clock result).isOver = false ∨
      Dispensable scope pending w m) :
    Follows scope number
      ({ w with store := s' }.putMonitor n (m.afterPoll w.settings w.clock result)) := by
  obtain ⟨hcall, hidle⟩ := m.idle_afterPoll w.settings w.clock result
  refine follows_of_still hf hc hm (Monitor.lease_afterPoll m result) hover hruns hwatches hcalm
    (Monitor.inTime_of_call?_eq_none hcall) (hend.imp_right Or.inr) ?_
  intro hread
  cases hidle.symm.trans hread

/-- A monitor that carries an object at work carries the stored one, unless a deletion is pending. -/
theorem HoldsCurrent.of_writing {c : Call} {r : Run} {target : RunState}
    (hc : HoldsCurrent scope pending w) (hm : w.monitors[n]? = some m)
    (hactive : m.ActiveIn w.registry) (hphase : m.phase = .writing c r target) :
    ∃ o current wall, r = o.transition current target wall ∧ o.key = m.lease.key ∧
      o.isUnderway = true ∧ (m.lease.key.inScope scope = true →
        w.store.runs.get? m.lease.key = some o ∨ DeletionPending m.lease.key pending) := by
  obtain ⟨o, hholds, hstored⟩ := hc n m hm (by simp [Monitor.hasRead, hphase])
  obtain ⟨current, wall, hr⟩ := hholds.of_writing hphase
  exact ⟨o, current, wall, hr, hholds.1, hholds.2.1, fun hscope => hstored hscope hactive⟩

/-- A replacement that succeeds is reported, and leaves its monitor at work if the run is underway
still. -/
theorem follows_of_write {c : Call} {r written : Run} {target : RunState}
    (hf : Foretells scope number t pending w) (hc : HoldsCurrent scope pending w)
    (hm : w.monitors[n]? = some m) (hactive : m.ActiveIn w.registry)
    (hphase : m.phase = .writing c r target) (hwritten : (w.store.replace r).1 = .ok written)
    (hlease : m'.lease = m.lease) (hinTime : m'.InTime) (hread : m'.hasRead = false)
    (hend : m'.isOver = true → target.isFinal = true) :
    Follows scope number ({ w with store := (w.store.replace r).2 }.putMonitor n m') := by
  obtain ⟨o, current, wall, hr, hkey, hunderway, hcurrent⟩ := hc.of_writing hm hactive hphase
  obtain ⟨-, ⟨stored, hstored, -⟩, rfl⟩ := Store.replace_eq_ok_iff.1 hwritten
  have hruns := (Store.runs_replace_of_ok hwritten).1
  have hrkey : r.key = m.lease.key := by
    rw [hr, ← hkey]
    rfl
  have hstate : (w.store.stampVersion r).state = .ok target := by
    rw [hr]
    exact Run.state_transition o current target wall _
  have hself : (w.store.replace r).2.runs.get? m.lease.key = some (w.store.stampVersion r) := by
    rw [hruns, hrkey, KeyMap.get?_insert_self]
  have hother (k : RunKey) (hne : m.lease.key ≠ k) :
      (w.store.replace r).2.runs.get? k = w.store.runs.get? k := by
    rw [hruns, hrkey, KeyMap.get?_insert, if_neg hne]
  have hwatch : (w.store.replace r).2.watches[number]? =
      some ⟨scope, Store.told scope m.lease.key (.apply (w.store.stampVersion r)) pending, false⟩ := by
    rw [Store.replace_ok hwritten, hrkey]
    exact Store.getElem?_watches_broadcast hf.watch
  have hcalm : (w.store.replace r).2.Calm w.settings.requestTimeout := by
    rw [Store.replace_ok hwritten]
    exact ⟨hf.calm.gets, hf.calm.updates, hf.calm.latency⟩
  have hpublished : Foretells scope number t
      (Store.told scope m.lease.key (.apply (w.store.stampVersion r)) pending)
      { w with store := (w.store.replace r).2 } := by
    refine hf.publish rfl (congrArg some hrkey) hwatch hcalm (hf.filed.replace r) hother ?_
    intro hscope
    have hsuits := hf.foretold m.lease.key hscope
    rw [← hrkey, hstored, hrkey] at hsuits
    rw [hself]
    refine hsuits.after_apply_old hrkey ?_
    intro _
    rcases hcurrent hscope with hstored' | hdeletion
    · have ho : stored = o := by
        rw [← hrkey] at hstored'
        exact Option.some.inj (hstored.symm.trans hstored')
      exact hsuits.attended stored rfl (ho ▸ hunderway)
    · -- The run was created anew, and it will be attended because it will be known.
      rw [hf.remaining.attended_eq_known hdeletion]
      exact hsuits.known
  refine ⟨t, _, hpublished.putMonitor hm hlease hactive.1 hinTime ?_, ?_⟩
  · cases hover : m'.isOver with
    | false => exact Or.inl rfl
    | true =>
      refine Or.inr (Or.inr fun _ => Or.inl ?_)
      intro r' hr'
      obtain rfl := Option.some.inj (hself.symm.trans hr')
      rw [Run.isUnderway_of_state hstate, hend hover]
      rfl
  · refine hc.putMonitor hf.staffed.toGoverns hm hlease ?_ hother (Or.inr hactive) ?_
    · rintro k ⟨r', hr', hk⟩
      exact ⟨r', Store.mem_told hr', hk⟩
    · intro hread'
      rw [hread] at hread'
      cases hread'

/-- A move of a monitor adds to what is pending what it writes. -/
theorem follows_act_monitor (hf : Foretells scope number t pending w)
    (hc : HoldsCurrent scope pending w) (n : Nat) :
    Follows scope number (w.act (.monitor n)) := by
  rcases act_monitor_cases w n with heq | ⟨m, m', s', hm, hstep, heq⟩ <;> rw [heq]
  · exact ⟨t, pending, hf, hc⟩
  have hover := Monitor.isOver_of_step? hstep
  have hlist := Monitor.step_of_step? hstep
  have hlease := hlist.lease_eq
  have hbegin : (Call.begin w.settings w.clock w.store.latency).timesOut = false :=
    Call.timesOut_begin hf.calm.latency
  have hget : (w.store.get m.lease.key).2.watches = w.store.watches ∧
      (w.store.get m.lease.key).2.Calm w.settings.requestTimeout := by
    rw [hf.calm.get_eq]
    exact ⟨rfl, hf.calm.gets, hf.calm.updates, hf.calm.latency⟩
  generalize hcancelled : w.registry.isCancelled m.lease.id = cancelled at hlist
  cases hlist with
  | stops _ =>
    refine follows_of_still hf hc hm hlease hover rfl rfl hf.calm ?_
      (Or.inr (Or.inl hcancelled)) ?_
    · exact Monitor.inTime_of_call?_eq_none rfl
    · intro hread
      cases hread
  | wakes hphase _ =>
    refine follows_of_still hf hc hm hlease hover rfl rfl hf.calm ?_ (Or.inl rfl) ?_
    · intro c hcall
      cases hcall
      exact hbegin
    · intro hread
      cases hread
  | timesOut hcall _ htimesOut =>
    rw [hf.inTime hm _ hcall] at htimesOut
    cases htimesOut
  | readFails _ _ hanswer =>
    obtain ⟨-, hnone⟩ := hf.calm.get_error hanswer
    refine follows_of_afterPoll hf hc hm hover (Store.runs_get _ _) hget.1 hget.2 (Or.inr ?_)
    refine fun _ => Or.inl ?_
    intro r hr
    cases hnone.symm.trans hr
  | readEnds _ _ hanswer hrun =>
    have hstored := (Store.get_eq_ok_iff.1 hanswer).2
    refine follows_of_afterPoll hf hc hm hover (Store.runs_get _ _) hget.1 hget.2 (Or.inr ?_)
    refine fun _ => Or.inl ?_
    intro r hr
    obtain rfl := Option.some.inj (hstored.symm.trans hr)
    exact Poll.isUnderway_of_finish hrun
  | @reads c r current hphase _ hanswer hstate hfinal =>
    have hstored := (Store.get_eq_ok_iff.1 hanswer).2
    have hunderway : r.isUnderway = true := by
      rw [Run.isUnderway_of_state hstate, hfinal]
      rfl
    refine follows_of_still hf hc hm hlease hover (Store.runs_get _ _) hget.1 hget.2 ?_
      (Or.inl rfl) ?_
    · intro c hcall
      cases hcall
      exact hbegin
    · intro _
      exact ⟨r, ⟨hf.filed _ _ hstored, hunderway, Or.inl ⟨_, _, rfl⟩⟩, fun _ => Or.inl hstored⟩
  | keeps _ _ _ => exact follows_of_afterPoll hf hc hm hover rfl rfl hf.calm (Or.inl rfl)
  | @decides c r current target hphase _ htarget hne =>
    obtain ⟨o, hholds, hstored⟩ := hc n m hm (by simp [Monitor.hasRead, hphase])
    obtain rfl := hholds.of_listing hphase
    refine follows_of_still hf hc hm hlease hover rfl rfl hf.calm ?_ (Or.inl rfl) ?_
    · intro c hcall
      cases hcall
      exact hbegin
    · intro _
      exact ⟨o, ⟨hholds.1, hholds.2.1, Or.inr ⟨_, _, _, _, rfl⟩⟩,
        fun hscope => hstored hscope ⟨hover, hcancelled⟩⟩
  | @writeFails c r target e hphase _ hanswer =>
    obtain ⟨o, current, wall, hr, hkey, -, hcurrent⟩ :=
      hc.of_writing hm ⟨hover, hcancelled⟩ hphase
    have hrkey : r.key = m.lease.key := by
      rw [hr, ← hkey]
      rfl
    rw [hf.calm.replace_error hanswer]
    refine follows_of_afterPoll hf hc hm hover rfl rfl
      ⟨hf.calm.gets, hf.calm.updates, hf.calm.latency⟩ (Or.inr ?_)
    refine fun hscope => Or.inr ?_
    rcases hcurrent hscope with hstored | hdeletion
    · -- A replacement of the stored object does not fail in a calm store.
      rw [← hrkey] at hstored
      exact absurd hanswer (hf.calm.replace_ne_error hstored (by rw [hr]; rfl))
    · exact hdeletion
  | @writes c r written target hphase _ hanswer =>
    have hidle := m.idle_afterPoll w.settings w.clock
      (.ok (if target.isFinal then .done target else .pending))
    refine follows_of_write hf hc hm ⟨hover, hcancelled⟩ hphase hanswer hlease
      (Monitor.inTime_of_call?_eq_none hidle.1) hidle.2 ?_
    intro hend
    cases hfinal : target.isFinal with
    | true => rfl
    | false =>
      rw [hfinal] at hend
      cases hend

end World

end RunOperator
