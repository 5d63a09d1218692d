import Mathlib.Data.List.Induction
import RunOperator.Proofs.Attendance
import RunOperator.Proofs.Replay
import RunOperator.Proofs.Resumption

/-!
# Start-up attaches exactly the unfinished runs

The first listing of a watch resumes its runs, and a run that is resumed gets a monitor if it is
underway and has none (`Resumed.onResume`). A listing that is interrupted is begun again, and until
one is complete the roster resumes each run as often as it is listed
(`Roster.observeAll_relisting`). `startup_attaches_unfinished` says what comes of this when the
operator starts: it depends on the content of the store alone which runs are monitored, and none is
monitored twice.
-/

namespace RunOperator

/-- A run is underway if no state is stored or the stored text is the word of a state that is not
final. -/
theorem Run.isUnderway_iff {r : Run} :
    r.isUnderway = true ↔ r.spec.state = none ∨ ∃ text s, r.spec.state = some text ∧
      RunState.parse text = .ok s ∧ s.isFinal = false := by
  rw [isUnderway, Run.state]
  cases r.spec.state with
  | none => simp [RunState.ofStored, RunState.isFinal]
  | some text =>
    rw [RunState.ofStored]
    cases hparse : RunState.parse text with
    | error e => simp [hparse]
    | ok s => simp [hparse]

/-! ### Listings -/

/-- Of the runs of a listing no two have the same key. -/
theorem Store.Filed.eq_of_mem_list {s : Store} {scope : Option String} {r r' : Run}
    (h : s.Filed) (hr : r ∈ s.list scope .all) (hr' : r' ∈ s.list scope .all)
    (hkey : r.key = r'.key) : r = r' := by
  have hstored := (h.mem_list_iff.1 hr).2
  rw [hkey, (h.mem_list_iff.1 hr').2] at hstored
  exact (Option.some.inj hstored).symm

/-- Keys that increase strictly are determined by what they are. -/
theorem KeyMap.eq_of_pairwise_lt {keys keys' : List RunKey} (h : keys.Pairwise (· < ·))
    (h' : keys'.Pairwise (· < ·)) (hmem : ∀ k, k ∈ keys ↔ k ∈ keys') : keys = keys' := by
  have : Std.Antisymm (α := RunKey) (· < ·) :=
    ⟨fun _ _ hab hba => absurd (RunKey.lt_trans hab hba) (RunKey.lt_irrefl _)⟩
  have : Std.Irrefl (α := RunKey) (· < ·) := ⟨RunKey.lt_irrefl⟩
  exact List.Pairwise.eq_of_mem_iff h h' fun {k} => hmem k

namespace KeySet

/-- The set with the keys of some runs added. -/
def addRuns (s : KeySet) (runs : List Run) : KeySet := runs.foldl (fun s r => s.add r.key) s

/-- After some runs were added, a key is there if it was before or is that of one of them. -/
theorem contains_addRuns (s : KeySet) (runs : List Run) (k : RunKey) :
    (s.addRuns runs).contains k = true ↔ s.contains k = true ∨ ∃ r ∈ runs, r.key = k := by
  induction runs generalizing s with
  | nil => simp [addRuns]
  | cons r runs ih =>
    rw [addRuns, List.foldl_cons]
    refine (ih (s.add r.key)).trans ?_
    rw [contains_add]
    by_cases hkey : r.key = k <;> simp [hkey]

end KeySet

/-- What a watch reports when its first listing is interrupted and begun again any number of times:
each time some runs are listed, and at last the listing is completed. -/
def relisting (interrupted : List (List Run)) (last : List Run) : List WatchEvent :=
  interrupted.flatMap (fun part => .init :: part.map .initApply) ++
    (.init :: last.map .initApply ++ [.initDone])

namespace Roster

variable {known : KeySet} {listing : Option KeySet} {last : List Run}

/-- Events that follow others are observed by what those leave. -/
theorem observeAll_append (t : Roster) (first second : List WatchEvent) :
    t.observeAll (first ++ second) =
      ((t.observeAll first).1 ++ ((t.observeAll first).2.observeAll second).1,
        ((t.observeAll first).2.observeAll second).2) := by
  induction first generalizing t with
  | nil => rfl
  | cons e first ih => simp only [List.cons_append, observeAll_cons, ih, List.append_assoc]

/-- The runs of a first listing are resumed. -/
theorem observeAll_initApply (known listing : KeySet) (runs : List Run) :
    observeAll ⟨known, some listing, false⟩ (runs.map .initApply) =
      (runs.map .resume, ⟨known.addRuns runs, some (listing.addRuns runs), false⟩) := by
  induction runs generalizing known listing with
  | nil => rfl
  | cons r runs ih =>
    have hobserve : observe ⟨known, some listing, false⟩ (.initApply r) =
        ([.resume r], ⟨known.add r.key, some (listing.add r.key), false⟩) := rfl
    rw [List.map_cons, observeAll_cons, hobserve, ih]
    rfl

/-- The first listing resumes each of its runs and collects the keys. -/
theorem observeAll_init (known : KeySet) (listing : Option KeySet) (runs : List Run) :
    observeAll ⟨known, listing, false⟩ (.init :: runs.map .initApply) =
      (runs.map .resume, ⟨known.addRuns runs, some (KeySet.empty.addRuns runs), false⟩) := by
  have hobserve : observe ⟨known, listing, false⟩ .init =
      ([], ⟨known, some KeySet.empty, false⟩) := rfl
  rw [observeAll_cons, hobserve, observeAll_initApply]
  rfl

/-- When the last listing holds all runs that were listed before, none is reported as deleted: each
time that a run is listed it is resumed, and nothing else happens. -/
theorem observeAll_relisting {interrupted : List (List Run)}
    (hknown : ∀ k, known.contains k = true → ∃ r ∈ last, r.key = k)
    (hparts : ∀ part ∈ interrupted, ∀ r ∈ part, r ∈ last) :
    (observeAll ⟨known, listing, false⟩ (relisting interrupted last)).1 =
      (interrupted.flatten ++ last).map .resume := by
  induction interrupted generalizing known listing with
  | nil =>
    have hdone : observeAll ⟨known.addRuns last, some (KeySet.empty.addRuns last), false⟩
        [.initDone] = ([], ⟨KeySet.empty.addRuns last, none, true⟩) := by
      have hgone : deletions (known.addRuns last) (KeySet.empty.addRuns last) = [] := by
        refine deletions_eq_nil fun k => Bool.eq_iff_iff.2 ?_
        rw [KeySet.contains_addRuns, KeySet.contains_addRuns]
        constructor
        · rintro (hk | hk)
          · exact Or.inr (hknown k hk)
          · exact Or.inr hk
        · rintro (hk | hk)
          · cases hk
          · exact Or.inr hk
      simp [observeAll_cons, observe, hgone]
    rw [relisting, List.flatMap_nil, List.nil_append, observeAll_append, observeAll_init, hdone]
    simp
  | cons part interrupted ih =>
    have hsplit : relisting (part :: interrupted) last =
        (.init :: part.map .initApply) ++ relisting interrupted last := by
      simp [relisting]
    rw [hsplit, observeAll_append, observeAll_init, ih ?_ fun p hp => hparts p (by simp [hp])]
    · simp
    · intro k hk
      rcases (KeySet.contains_addRuns _ _ _).1 hk with hk | ⟨r, hr, hkey⟩
      · exact hknown k hk
      · exact ⟨r, hparts part (by simp) r hr, hkey⟩

end Roster

namespace World

variable {w w₀ w' : World} {runs : List Run} {r : Run} {scope : Option String}

/-! ### Resumed runs -/

/-- What has happened when some runs were resumed: those that are underway are registered, on leases
that were not issued before, and one monitor was started on each of these. -/
structure Resumed (w₀ : World) (runs : List Run) (w : World) : Prop where
  settings : w.settings = w₀.settings
  clock : w.clock = w₀.clock
  cancelled : w.registry.cancelled = w₀.registry.cancelled
  nextId : w₀.registry.nextId ≤ w.registry.nextId
  recent : ∀ {k : RunKey} {id : Nat}, w.registry.entries.get? k = some id →
    w₀.registry.nextId ≤ id
  registered : ∀ k, w.registry.contains k = true ↔ ∃ r ∈ runs, r.key = k ∧ r.isUnderway = true
  started : ∃ new : List Lease,
    w.monitors = w₀.monitors ++ new.map (Monitor.start w₀.settings w₀.clock) ∧
      (new.map Lease.key).Nodup ∧
      ∀ lease, lease ∈ new ↔ w.registry.entries.get? lease.key = some lease.id

/-- Where nothing is registered, nothing was resumed yet. -/
theorem resumed_nil (hempty : ∀ k, w₀.registry.entries.get? k = none) : w₀.Resumed [] w₀ where
  settings := rfl
  clock := rfl
  cancelled := rfl
  nextId := Nat.le_refl _
  recent := by
    intro k id hid
    cases (hempty k).symm.trans hid
  registered := by simp [Registry.contains, KeyMap.contains, hempty]
  started := ⟨[], by simp, List.nodup_nil, by simp [hempty]⟩

/-- One more run is resumed. It may have been resumed before, as the same object. -/
theorem Resumed.onResume (h : w₀.Resumed runs w)
    (hsame : ∀ r' ∈ runs, r'.key = r.key → r' = r) :
    w₀.Resumed (runs ++ [r]) (w.onResume r) := by
  -- A run that was resumed before, or that is not underway, changes nothing.
  have hkept (heq : w.onResume r = w)
      (hlisted : r.isUnderway = true → w.registry.contains r.key = true) :
      w₀.Resumed (runs ++ [r]) (w.onResume r) := by
    rw [heq]
    refine { h with registered := fun k => (h.registered k).trans ⟨?_, ?_⟩ }
    · rintro ⟨r', hr', hkey⟩
      exact ⟨r', List.mem_append_left _ hr', hkey⟩
    · rintro ⟨r', hr', hkey, hunderway⟩
      rcases List.mem_append.1 hr' with hr' | hr'
      · exact ⟨r', hr', hkey, hunderway⟩
      · obtain rfl := List.mem_singleton.1 hr'
        exact (h.registered k).1 (hkey ▸ hlisted hunderway)
  cases hentry : w.registry.entries.get? r.key with
  | some id =>
    have hcontains : w.registry.contains r.key = true := by
      rw [Registry.contains, KeyMap.contains, hentry]
      rfl
    obtain ⟨r', hr', hkey, hunderway⟩ := (h.registered r.key).1 hcontains
    obtain rfl := hsame r' hr' hkey
    refine hkept ?_ fun _ => hcontains
    cases hstate : r'.state with
    | error e =>
      rw [Run.isUnderway, hstate] at hunderway
      cases hunderway
    | ok s =>
      rw [Run.isUnderway_of_state hstate] at hunderway
      exact onResume_of_registered hstate (by simpa using hunderway) hentry
  | none =>
    cases hunderway : r.isUnderway with
    | false =>
      refine hkept (onResume_of_not_underway hunderway hentry) fun hcontra => ?_
      cases hunderway.symm.trans hcontra
    | true =>
      rw [onResume_of_underway hunderway hentry]
      obtain ⟨new, hmonitors, hnodup, hnew⟩ := h.started
      constructor
      case settings => exact h.settings
      case clock => exact h.clock
      case cancelled => exact h.cancelled
      case nextId => exact Nat.le_succ_of_le h.nextId
      case recent =>
        intro k id hid
        have hid := (w.registry.get?_issue r.key k).symm.trans hid
        split at hid
        · cases hid
          exact h.nextId
        · exact h.recent hid
      case registered =>
        intro k
        have hcontains : (w.registry.issue r.key).2.contains k =
            if r.key = k then true else w.registry.contains k :=
          w.registry.entries.contains_insert r.key k _
        refine (Bool.eq_iff_iff.1 hcontains).trans ?_
        by_cases hkey : r.key = k
        · simp [hkey, hunderway]
        · simp [hkey, h.registered k]
      case started =>
        refine ⟨new ++ [(w.registry.issue r.key).1], ?_, ?_, ?_⟩
        · rw [spawn, hmonitors, h.settings, h.clock, List.map_append, List.append_assoc]
          rfl
        · rw [List.map_append, List.map_singleton, ← List.concat_eq_append, List.nodup_concat]
          refine ⟨fun hmem => ?_, hnodup⟩
          obtain ⟨lease, hlease, hkey⟩ := List.mem_map.1 hmem
          have hregistered := (hnew lease).1 hlease
          rw [hkey] at hregistered
          cases hentry.symm.trans hregistered
        · intro lease
          have hissue := w.registry.get?_issue r.key lease.key
          rw [List.mem_append, List.mem_singleton, hnew, spawn]
          refine Iff.trans ?_ (iff_of_eq (congrArg (· = some lease.id) hissue)).symm
          by_cases hkey : r.key = lease.key
          · rw [if_pos hkey, ← hkey, hentry]
            obtain ⟨k, id⟩ := lease
            obtain rfl : r.key = k := hkey
            simp [Registry.issue, eq_comm]
          · rw [if_neg hkey, or_iff_left]
            rintro rfl
            exact hkey rfl

/-- A run may be resumed any number of times, as the same object. -/
theorem Resumed.foldl (hempty : ∀ k, w₀.registry.entries.get? k = none)
    (hsame : ∀ r ∈ runs, ∀ r' ∈ runs, r.key = r'.key → r = r') :
    w₀.Resumed runs ((runs.map .resume).foldl handle w₀) := by
  induction runs using List.reverseRecOn with
  | nil => exact resumed_nil hempty
  | append_singleton runs r ih =>
    have hbefore : w₀.Resumed runs ((runs.map .resume).foldl handle w₀) :=
      ih fun r hr r' hr' => hsame r (List.mem_append_left _ hr) r' (List.mem_append_left _ hr')
    rw [List.map_append, List.foldl_append]
    refine hbefore.onResume ?_
    intro r' hr'
    exact hsame r' (List.mem_append_left _ hr') r (by simp)

/-! ### Moves of the loop -/

/-- The dispatcher finds the same in both worlds. -/
structure Resembles (w w' : World) : Prop where
  settings : w'.settings = w.settings
  clock : w'.clock = w.clock
  registry : w'.registry = w.registry
  monitors : w'.monitors = w.monitors

/-- Every world resembles itself. -/
theorem Resembles.refl (w : World) : w.Resembles w := ⟨rfl, rfl, rfl, rfl⟩

/-- Worlds that resemble the same one resemble each other. -/
theorem Resembles.trans {w'' : World} (h : w.Resembles w') (h' : w'.Resembles w'') :
    w.Resembles w'' where
  settings := h'.settings.trans h.settings
  clock := h'.clock.trans h.clock
  registry := h'.registry.trans h.registry
  monitors := h'.monitors.trans h.monitors

/-- What the dispatcher does depends on what it finds. -/
theorem Resembles.handle (h : w.Resembles w') (e : RunEvent) :
    (w.handle e).Resembles (w'.handle e) := by
  obtain ⟨settings, clock, wall, store, registry, monitors, loops⟩ := w
  obtain ⟨settings', clock', wall', store', registry', monitors', loops'⟩ := w'
  obtain ⟨rfl, rfl, rfl, rfl⟩ := h
  cases e with
  | create k => exact ⟨rfl, rfl, rfl, rfl⟩
  | delete k => exact ⟨rfl, rfl, rfl, rfl⟩
  | resume r =>
    simp only [World.handle, World.onResume, attach]
    split
    · exact ⟨rfl, rfl, rfl, rfl⟩
    · split
      · exact ⟨rfl, rfl, rfl, rfl⟩
      · split <;> exact ⟨rfl, rfl, rfl, rfl⟩

/-- What the dispatcher does about several events depends on what it finds. -/
theorem Resembles.foldl (h : w.Resembles w') (events : List RunEvent) :
    (events.foldl World.handle w).Resembles (events.foldl World.handle w') := by
  induction events generalizing w w' with
  | nil => exact h
  | cons e events ih => exact ih (h.handle e)

/-- Whether runs were resumed depends on what the dispatcher finds. -/
theorem Resumed.congr (h : w₀.Resumed runs w) (hw : w.Resembles w') : w₀.Resumed runs w' := by
  obtain ⟨hsettings, hclock, hregistry, hmonitors⟩ := hw
  constructor
  · exact hsettings.trans h.settings
  · exact hclock.trans h.clock
  · rw [hregistry]
    exact h.cancelled
  · rw [hregistry]
    exact h.nextId
  · rw [hregistry]
    exact h.recent
  · rw [hregistry]
    exact h.registered
  · rw [hregistry, hmonitors]
    exact h.started

/-- A loop takes in the events of its script one after the other and passes over the errors, and the
dispatcher reacts to what the roster of the loop tells of each event. -/
theorem after_script {n : Nat} {t : Roster} {items rest : List (Except ClientError WatchEvent)}
    {closed : Bool}
    (hloop : w.loops[n]? = some ⟨.script (items ++ rest) closed, t, false, false⟩) :
    ((t.observeAll (items.filterMap Except.toOption)).1.foldl World.handle w).Resembles
      (w.after (List.replicate items.length (.loop n))) := by
  have hlt := (List.getElem?_eq_some_iff.1 hloop).1
  induction items generalizing w t with
  | nil => exact .refl w
  | cons item items ih =>
    rw [List.length_cons, List.replicate_succ, after_cons]
    cases item with
    | error e =>
      let l : Loop := ⟨.script (items ++ rest) closed, t, false, false⟩
      have hact : w.act (.loop n) = w.putLoop n l := by
        simp [act, nudgeLoop, moveLoop?, hloop, l]
      have hnext : (w.act (.loop n)).loops[n]? = some l := by
        rw [hact]
        exact List.getElem?_set_self hlt
      have hput : w.Resembles (w.act (.loop n)) := by
        rw [hact]
        exact ⟨rfl, rfl, rfl, rfl⟩
      exact (hput.foldl _).trans (ih hnext (List.getElem?_eq_some_iff.1 hnext).1)
    | ok e =>
      let l : Loop := ⟨.script (items ++ rest) closed, (t.observe e).2, false, false⟩
      have hact : w.act (.loop n) = (t.observe e).1.foldl World.handle (w.putLoop n l) := by
        simp [act, nudgeLoop, moveLoop?, hloop, takeIn, l]
      have hnext : (w.act (.loop n)).loops[n]? = some l := by
        obtain ⟨_, _, heq⟩ := foldl_handle_eq (t.observe e).1 (w.putLoop n l)
        rw [hact, heq]
        exact List.getElem?_set_self hlt
      have hfirst : ((t.observe e).1.foldl World.handle w).Resembles (w.act (.loop n)) := by
        have hput : w.Resembles (w.putLoop n l) := ⟨rfl, rfl, rfl, rfl⟩
        rw [hact]
        exact hput.foldl _
      have hevents : (Except.ok e :: items : List (Except ClientError WatchEvent)).filterMap
          Except.toOption = e :: items.filterMap Except.toOption := rfl
      rw [hevents, Roster.observeAll_cons, List.foldl_append]
      exact (hfirst.foldl _).trans (ih hnext (List.getElem?_eq_some_iff.1 hnext).1)

/-! ### The first listing of a watch -/

/-- How far a loop has come with the first listing of a watch: its roster, the events that are
pending, and the runs that were resumed. -/
inductive Stage (listed : List Run) : Roster → List WatchEvent → List Run → Prop where
  | begins : Stage listed .initial (.init :: listed.map .initApply ++ [.initDone]) []
  | lists (known : KeySet) {first rest : List Run} : listed = first ++ rest →
      Stage listed ⟨known, some known, false⟩ (rest.map .initApply ++ [.initDone]) first
  | ends (t : Roster) : Stage listed t [] listed

/-- With each event the loop resumes a run or none, and goes on with the listing. -/
theorem Stage.observe {listed first : List Run} {t : Roster} {e : WatchEvent}
    {pending : List WatchEvent} (h : Stage listed t (e :: pending) first) :
    ∃ more : List Run, (t.observe e).1 = more.map .resume ∧
      Stage listed (t.observe e).2 pending (first ++ more) := by
  generalize hevents : e :: pending = events at h
  cases h with
  | begins =>
    obtain ⟨rfl, rfl⟩ := List.cons.inj hevents
    exact ⟨[], rfl, .lists KeySet.empty rfl⟩
  | @lists known _ rest hsplit =>
    cases rest with
    | nil =>
      obtain ⟨rfl, rfl⟩ := List.cons.inj hevents
      refine ⟨[], Roster.deletions_eq_nil fun _ => rfl, ?_⟩
      rw [List.append_nil] at hsplit ⊢
      rw [← hsplit]
      exact .ends _
    | cons r rest =>
      obtain ⟨rfl, rfl⟩ := List.cons.inj hevents
      exact ⟨[r], rfl, .lists (known.add r.key) (by simp [hsplit])⟩
  | ends t => cases hevents

/-- A loop follows a watch through its first listing, and only those runs were resumed that it has
taken in. -/
def Catches (listed : List Run) (scope : Option String) (number : Nat) (w₀ w : World) : Prop :=
  ∃ t pending first, Stage listed t pending first ∧
    w.loops = [⟨.watch number, t, false, false⟩] ∧
    w.store.watches[number]? = some ⟨scope, pending, false⟩ ∧
    ((first.map .resume).foldl World.handle w₀).Resembles w

/-- A move of the loop takes in one event of the listing, or nothing. -/
theorem Catches.act_loop {listed : List Run} {number : Nat} (h : Catches listed scope number w₀ w)
    (n : Nat) : Catches listed scope number w₀ (w.act (.loop n)) := by
  obtain ⟨t, pending, first, hstage, hloop, hwatch, hresembles⟩ := h
  rcases act_loop_cases hloop hwatch n with heq | ⟨e, rest, rfl, heq⟩
  · rw [heq]
    exact ⟨t, pending, first, hstage, hloop, hwatch, hresembles⟩
  · obtain ⟨more, hmore, hnext⟩ := hstage.observe
    rw [heq]
    refine ⟨(t.observe e).2, rest, first ++ more, hnext, ?_, ?_, ?_⟩
    · obtain ⟨_, _, heq⟩ := foldl_handle_eq (t.observe e).1 (w.received number t e)
      rw [takeNext, heq]
      rfl
    · rw [store_takeNext, Store.takeEvent, List.getElem?_modify_eq, hwatch]
      rfl
    · have hreceived : w.Resembles (w.received number t e) := ⟨rfl, rfl, rfl, rfl⟩
      rw [List.map_append, List.foldl_append, takeNext, hmore]
      exact (hresembles.foldl _).trans (hreceived.foldl _)

/-- The monitors that were started sleep, so that they make no moves as long as no time passes. -/
theorem Catches.act_monitor {listed : List Run} {number : Nat}
    (h : Catches listed scope number w₀ w)
    (hsame : ∀ r ∈ listed, ∀ r' ∈ listed, r.key = r'.key → r = r')
    (hempty : ∀ k, w₀.registry.entries.get? k = none) (hfresh : w₀.registry.cancelled = [])
    (hnone : w₀.monitors = []) (hinterval : 0 < w₀.settings.pollInterval) (n : Nat) :
    w.act (.monitor n) = w := by
  obtain ⟨t, pending, first, hstage, -, -, hresembles⟩ := h
  have hfirst : ∀ r ∈ first, r ∈ listed := by
    intro r hr
    cases hstage with
    | begins => cases hr
    | lists known hsplit =>
      rw [hsplit]
      exact List.mem_append_left _ hr
    | ends t => exact hr
  have hresumed : w₀.Resumed first w := by
    refine (Resumed.foldl hempty ?_).congr hresembles
    exact fun r hr r' hr' => hsame r (hfirst r hr) r' (hfirst r' hr')
  rcases act_monitor_cases w n with heq | ⟨m, m', s', hm, hstep, -⟩
  · exact heq
  · exfalso
    obtain ⟨new, hmonitors, -, -⟩ := hresumed.started
    rw [hmonitors, hnone, List.nil_append, List.getElem?_map, Option.map_eq_some_iff] at hm
    obtain ⟨lease, -, rfl⟩ := hm
    have hcancelled : w.registry.isCancelled lease.id = false := by
      rw [Registry.isCancelled, hresumed.cancelled, hfresh]
      rfl
    have hlate : ¬ w₀.clock + w₀.settings.pollInterval ≤ w₀.clock := by omega
    simp [Monitor.step?, Monitor.start, Phase.due?, hcancelled, hresumed.clock, hlate] at hstep

/-! ### The main statement -/

end World

/-- A loop or a monitor makes its next move. -/
def Action.IsMove : Action → Prop
  | .loop _ | .monitor _ => True
  | _ => False

namespace World

/-- Monitors were attached to the runs of a store that are in the scope and not finished, and to no
others. -/
structure Attached (s : Store) (scope : Option String) (w₀ w : World) : Prop where
  /-- Exactly these runs are registered, whatever else was in the world before. -/
  keys : w.registry.keys = ((s.list scope .all).filter Run.isUnderway).map Run.key
  /-- They are those without a stored state, or with the word of a state that is not final. -/
  mem_keys_iff : ∀ k, k ∈ w.registry.keys ↔ k.inScope scope = true ∧
    ∃ r, s.runs.get? k = some r ∧ (r.spec.state = none ∨ ∃ text state,
      r.spec.state = some text ∧ RunState.parse text = .ok state ∧ state.isFinal = false)
  /-- None of their tokens was cancelled. -/
  uncancelled : ∀ k id, w.registry.entries.get? k = some id → w.registry.isCancelled id = false
  /-- One monitor was started on each registered lease, and no other monitors were. -/
  monitors : ∃ new : List Lease,
    w.monitors = w₀.monitors ++ new.map (Monitor.start w₀.settings w₀.clock) ∧
      (new.map Lease.key).Nodup ∧
      ∀ lease, lease ∈ new ↔ w.registry.entries.get? lease.key = some lease.id

/-- When all runs of a listing were resumed, monitors are attached to the unfinished ones. -/
theorem Resumed.attached {s : Store} (h : w₀.Resumed runs w) (hfiled : s.Filed)
    (hissued : ∀ id, w₀.registry.isCancelled id = true → id < w₀.registry.nextId)
    (hruns : ∀ r, r ∈ runs ↔ r ∈ s.list scope .all) : Attached s scope w₀ w := by
  have hmem (k : RunKey) : k ∈ w.registry.keys ↔
      ∃ r ∈ s.list scope .all, r.key = k ∧ r.isUnderway = true := by
    rw [Registry.keys, KeyMap.mem_keys_iff]
    refine (h.registered k).trans ?_
    simp only [hruns]
  constructor
  case keys =>
    have hlisted : ((s.list scope .all).map Run.key).Pairwise (· < ·) := by
      rw [hfiled.keys_list]
      exact KeyMap.pairwise_keys _
    refine KeyMap.eq_of_pairwise_lt (KeyMap.pairwise_keys _)
      (hlisted.sublist (List.filter_sublist.map _)) fun k => ?_
    rw [List.mem_map]
    refine (hmem k).trans ⟨?_, ?_⟩
    · rintro ⟨r, hr, rfl, hunderway⟩
      exact ⟨r, List.mem_filter.2 ⟨hr, hunderway⟩, rfl⟩
    · rintro ⟨r, hr, rfl⟩
      exact ⟨r, (List.mem_filter.1 hr).1, rfl, (List.mem_filter.1 hr).2⟩
  case mem_keys_iff =>
    intro k
    refine (hmem k).trans ⟨?_, ?_⟩
    · rintro ⟨r, hr, rfl, hunderway⟩
      obtain ⟨hscope, hstored⟩ := hfiled.mem_list_iff.1 hr
      exact ⟨hscope, r, hstored, Run.isUnderway_iff.1 hunderway⟩
    · rintro ⟨hscope, r, hstored, hunderway⟩
      obtain rfl := hfiled k r hstored
      exact ⟨r, hfiled.mem_list_iff.2 ⟨hscope, hstored⟩, rfl, Run.isUnderway_iff.2 hunderway⟩
  case uncancelled =>
    intro k id hid
    cases hcancelled : w.registry.isCancelled id with
    | false => rfl
    | true =>
      rw [Registry.isCancelled, h.cancelled] at hcancelled
      exact absurd (hissued id hcancelled) (Nat.not_lt.2 (h.recent hid))
  case monitors => exact h.started

/-- When the loop has taken in the whole listing of its watch, monitors are attached to the
unfinished runs. -/
theorem attached_of_started {settings : Settings} {wall : Instant} {s : Store} {h : List Action}
    (hfiled : s.Filed) (hinterval : 0 < settings.pollInterval) (hmoves : ∀ a ∈ h, a.IsMove)
    (hcaughtUp :
      ((started settings wall s scope).after h).store.pendingOf s.watches.length = []) :
    Attached s scope (started settings wall s scope)
      ((started settings wall s scope).after h) := by
  have hempty : ∀ k, (started settings wall s scope).registry.entries.get? k = none :=
    fun _ => rfl
  have hsame : ∀ r ∈ s.list scope .all, ∀ r' ∈ s.list scope .all, r.key = r'.key → r = r' :=
    fun r hr r' hr' => hfiled.eq_of_mem_list hr hr'
  have hcatches : Catches (s.list scope .all) scope s.watches.length
      (started settings wall s scope) ((started settings wall s scope).after h) := by
    refine Along.invariant (Catches (s.list scope .all) scope s.watches.length
      (started settings wall s scope)) ?_ (along_of_forall hmoves)
      ⟨.initial, s.listing scope, [], .begins, rfl, List.getElem?_concat_length, .refl _⟩
    intro w a ha hw
    cases a with
    | loop n => exact hw.act_loop n
    | monitor n => rwa [hw.act_monitor hsame hempty rfl rfl hinterval n]
    | _ => cases ha
  obtain ⟨t, pending, first, hstage, -, hwatch, hresembles⟩ := hcatches
  have hpending : pending = [] := by
    rwa [Store.pendingOf, hwatch] at hcaughtUp
  have hfirst : first = s.list scope .all := by
    cases hstage with
    | begins => cases hpending
    | lists known hsplit => simp at hpending
    | ends t => rfl
  subst hfirst
  refine ((Resumed.foldl hempty hsame).congr hresembles).attached hfiled ?_ fun r => Iff.rfl
  intro id hcancelled
  cases hcancelled

/-- **Start-up attaches exactly the unfinished runs.** Take any content of the store, with each run
under its own key, and any scope of a watch.

A dispatcher in whose registry there is no entry takes in the listing of the watch, which may have
been interrupted and begun again any number of times, in any order and with errors in between, as
long as all that was listed is listed again at last. Afterwards exactly the runs in the scope are
registered that have no stored state or one that is not final, on leases that were not cancelled, and
one monitor was started for each.

The same holds of an operator that starts afresh, whatever moves its loop and its monitors make in
between, when no time has passed. -/
theorem startup_attaches_unfinished (s : Store) (scope : Option String) (hfiled : s.Filed) :
    (∀ (w : World) (n : Nat) (closed : Bool) (items rest : List (Except ClientError WatchEvent))
        (interrupted : List (List Run)) (last : List Run),
      w.registry.keys = [] →
      (∀ id, w.registry.isCancelled id = true → id < w.registry.nextId) →
      w.loops[n]? = some ⟨.script (items ++ rest) closed, .initial, false, false⟩ →
      items.filterMap Except.toOption = relisting interrupted last →
      (∀ part ∈ interrupted, ∀ r ∈ part, r ∈ last) →
      (∀ r, r ∈ last ↔ r ∈ s.list scope .all) →
      Attached s scope w (w.after (List.replicate items.length (.loop n)))) ∧
    ∀ (settings : Settings) (wall : Instant) (h : List Action), 0 < settings.pollInterval →
      (∀ a ∈ h, a.IsMove) →
      ((started settings wall s scope).after h).store.pendingOf s.watches.length = [] →
      Attached s scope (started settings wall s scope)
        ((started settings wall s scope).after h) := by
  refine ⟨?_, fun settings wall h => attached_of_started hfiled⟩
  intro w n closed items rest interrupted last hkeys hissued hloop hitems hparts hlast
  have hempty : ∀ k, w.registry.entries.get? k = none := by
    intro k
    have hk : k ∉ w.registry.keys := by simp [hkeys]
    rw [Registry.keys, KeyMap.mem_keys_iff, KeyMap.contains] at hk
    simpa using hk
  have hruns : ∀ r, r ∈ interrupted.flatten ++ last ↔ r ∈ last := by
    intro r
    rw [List.mem_append, List.mem_flatten, or_iff_right_iff_imp]
    rintro ⟨part, hpart, hr⟩
    exact hparts part hpart r hr
  have hresumed : w.Resumed (interrupted.flatten ++ last)
      (w.after (List.replicate items.length (.loop n))) := by
    have hresembles := after_script hloop
    have hevents : (Roster.initial.observeAll (relisting interrupted last)).1 =
        (interrupted.flatten ++ last).map .resume :=
      Roster.observeAll_relisting (fun k hk => by cases hk) hparts
    rw [hitems, hevents] at hresembles
    refine (Resumed.foldl hempty ?_).congr hresembles
    intro r hr r' hr'
    exact hfiled.eq_of_mem_list ((hlast r).1 ((hruns r).1 hr)) ((hlast r').1 ((hruns r').1 hr'))
  exact hresumed.attached hfiled hissued fun r => (hruns r).trans (hlast r)

/-- A store with a run in each kind of state, and one outside of the namespace. -/
def motleyStore : Store :=
  let stored (state : Option String) : RunSpec := { RunSpec.empty with state }
  [Run.named "ns" "a" (stored (some "RUNNING")), Run.named "ns" "b" (stored (some "FAILED")),
    Run.named "ns" "c" (stored (some "STALLED")), Run.named "ns" "d" (stored none),
    Run.named "other" "a" (stored none)].foldl (fun s r => s.change (.insert r)) .empty

/-- Each run of the motley store stands under its own key. -/
theorem filed_motleyStore : motleyStore.Filed :=
  List.foldlRecOn _ _ Store.filed_empty fun _ hs _ _ => hs.change trivial

/-- The listing of the namespace is interrupted by an error after two runs. -/
def interruptedListing : List (Except ClientError WatchEvent) :=
  let listed := motleyStore.list (some "ns") .all
  .error .timeout :: (relisting [listed.reverse.take 2] listed).map .ok

/-- The operator takes in the listing of the store, and a monitor would move in between. -/
def listingHistory : List Action :=
  [.loop 0, .loop 0, .monitor 0, .loop 0, .loop 0, .loop 0, .monitor 1, .loop 0]

/-- In either way the running run and the one without a state get monitors. -/
theorem startup_attaches_motleyStore :
    motleyStore.Filed ∧ 0 < Settings.standard.pollInterval ∧
      (∀ a ∈ listingHistory, a.IsMove) ∧
      Attached motleyStore (some "ns") ((initial .standard ⟨0, 0⟩).startLoop
        (.script interruptedListing false)).2
        (((initial .standard ⟨0, 0⟩).startLoop (.script interruptedListing false)).2.after
          (List.replicate interruptedListing.length (.loop 0))) ∧
      Attached motleyStore (some "ns") (started .standard ⟨0, 0⟩ motleyStore (some "ns"))
        ((started .standard ⟨0, 0⟩ motleyStore (some "ns")).after listingHistory) ∧
      ((started .standard ⟨0, 0⟩ motleyStore (some "ns")).after listingHistory).registry.keys =
        [⟨"ns", "a"⟩, ⟨"ns", "d"⟩] := by
  have hmoves : ∀ a ∈ listingHistory, a.IsMove := by simp [listingHistory, Action.IsMove]
  have hattaches := startup_attaches_unfinished motleyStore (some "ns") filed_motleyStore
  refine ⟨filed_motleyStore, by decide, hmoves, ?_, ?_, rfl⟩
  · let listed := motleyStore.list (some "ns") .all
    refine hattaches.1 _ 0 false interruptedListing [] [listed.reverse.take 2] listed rfl ?_ ?_ ?_
      ?_ fun r => Iff.rfl
    · intro id hcancelled
      cases hcancelled
    · rw [List.append_nil]
      rfl
    · rfl
    · intro part hpart r hr
      obtain rfl := List.mem_singleton.1 hpart
      exact List.mem_reverse.1 (List.mem_of_mem_take hr)
  · exact hattaches.2 .standard ⟨0, 0⟩ listingHistory (by decide) hmoves rfl

end World

end RunOperator
