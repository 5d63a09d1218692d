import RunOperator.Proofs.MonotoneLifecycle
import RunOperator.Proofs.WrittenInstants

/-!
# The stamps of a run tell its life

A run is stored without stamps and waits in the queue. Its monitors write its start when it leaves
the queue and its end when it reaches a final state, each with the time at which they decide on the
transition, which may be earlier than the replacement and is lost when the replacement fails.
`Run.Timely` says what such a run looks like, in each of the three stages of its life. Whatever is
stored, read or about to be written stays timely as long as nobody else touches the state or the
stamps and the clock on the wall goes forward (`timely_act`).
-/

namespace RunOperator

namespace Run

variable {r r' : Run} {now now' : Instant}

/-- Nobody has worked on the run: it is queued, or it was stored without a state, and it carries no
stamps. -/
def IsFresh (r : Run) : Prop :=
  (r.spec.state = none ∨ r.spec.state = some RunState.queued.word) ∧ r.stamps = .none

/-- The two runs have the same state and the same stamps. -/
def SameLife (r r' : Run) : Prop := r'.spec.state = r.spec.state ∧ r'.stamps = r.stamps

/-- The stamps that the first run carries are carried by the second too. -/
def KeepsStamps (r r' : Run) : Prop :=
  (∀ text, r.stamps.started = some text → r'.stamps.started = some text) ∧
    ∀ text, r.stamps.ended = some text → r'.stamps.ended = some text

/-- The stamps of a run fit its state: it carries a start unless it is queued, and an end if and
only if its state is final. Both can be read, and the end is not before the start, neither as an
instant nor as a text. -/
structure WellStamped (r : Run) : Prop where
  state : ∃ s, r.state = .ok s ∧ (r.stamps.started.isSome = true ↔ s ≠ .queued) ∧
    (r.stamps.ended.isSome = true ↔ s.isFinal = true)
  started : ∀ text, r.stamps.started = some text → ∃ t, parseTimestamp text = .ok t
  ended : ∀ text, r.stamps.ended = some text → ∃ t, parseTimestamp text = .ok t
  ordered : ∀ started ended t t', r.stamps.started = some started → r.stamps.ended = some ended →
    parseTimestamp started = .ok t → parseTimestamp ended = .ok t' → t ≤ t' ∧ started ≤ ended

/-- A run with the stamps of instants that are past. -/
inductive Timely (now : Instant) (r : Run) : Prop
  | waiting : r.state = .ok .queued → r.stamps = .none → Timely now r
  | going (t : Instant) : r.state = .ok .running → r.stamps = ⟨some (formatTimestamp t), none⟩ →
      t.HasPlainYear → t ≤ now → Timely now r
  | completed (t t' : Instant) (s : RunState) : r.state = .ok s → s.isFinal = true →
      r.stamps = ⟨some (formatTimestamp t), some (formatTimestamp t')⟩ → t.HasPlainYear →
      t'.HasPlainYear → t ≤ t' → t' ≤ now → Timely now r

/-- A fresh run carries no stamps that could lie in the future. -/
theorem IsFresh.timely (h : r.IsFresh) (now : Instant) : r.Timely now := by
  refine .waiting ?_ h.2
  rcases h.1 with hstate | hstate
  · rw [state, hstate]
    rfl
  · rw [state, hstate]
    exact RunState.parse_word .queued

/-- Only the state and the stamps of a run matter, and how late it is does not. -/
theorem Timely.of_sameLife (h : r.Timely now) (hsame : r.SameLife r') (hle : now ≤ now') :
    r'.Timely now' := by
  obtain ⟨hstate, hstamps⟩ := hsame
  have hsame : r'.state = r.state := congrArg RunState.ofStored hstate
  cases h with
  | waiting hqueued hnone => exact .waiting (hsame.trans hqueued) (hstamps.trans hnone)
  | going t hrunning hstarted hplain hpast =>
    exact .going t (hsame.trans hrunning) (hstamps.trans hstarted) hplain
      (Instant.le_trans hpast hle)
  | completed t t' s hs hfinal hended hplain hplain' hlater hpast =>
    exact .completed t t' s (hsame.trans hs) hfinal (hstamps.trans hended) hplain hplain' hlater
      (Instant.le_trans hpast hle)

/-- A run that is timely stays so as time goes on. -/
theorem Timely.mono (h : r.Timely now) (hle : now ≤ now') : r.Timely now' :=
  h.of_sameLife ⟨rfl, rfl⟩ hle

/-- A written instant is read back to the second. -/
theorem parseTimestamp_formatTimestamp {t : Instant} (h : t.HasPlainYear) :
    parseTimestamp (formatTimestamp t) = .ok t.shown := by
  rw [parseTimestamp, formatTimestamp, Instant.parse_format h]
  rfl

/-- The stamps of a timely run are in order. -/
theorem Timely.wellStamped (h : r.Timely now) : r.WellStamped := by
  have hreads {t : Instant} (hplain : t.HasPlainYear) {text : String}
      (htext : some (formatTimestamp t) = some text) : ∃ t', parseTimestamp text = .ok t' := by
    rw [← Option.some.inj htext]
    exact ⟨_, parseTimestamp_formatTimestamp hplain⟩
  cases h with
  | waiting hqueued hnone =>
    refine ⟨⟨_, hqueued, ?_, ?_⟩, ?_, ?_, ?_⟩ <;> rw [hnone] <;> simp [Stamps.none, RunState.isFinal]
  | going t hrunning hstamps hplain hpast =>
    refine ⟨⟨_, hrunning, ?_, ?_⟩, ?_, ?_, ?_⟩ <;> rw [hstamps]
    · simp
    · simp [RunState.isFinal]
    · exact fun text htext => hreads hplain htext
    · simp
    · simp
  | completed t t' s hs hfinal hstamps hplain hplain' hlater hpast =>
    have hleft : s ≠ .queued := by
      rintro rfl
      cases hfinal
    refine ⟨⟨_, hs, ?_, ?_⟩, ?_, ?_, ?_⟩ <;> rw [hstamps]
    · simp [hleft]
    · simp [hfinal]
    · exact fun text htext => hreads hplain htext
    · exact fun text htext => hreads hplain' htext
    · intro started ended u u' hstarted hended hu hu'
      rw [← Option.some.inj hstarted, parseTimestamp_formatTimestamp hplain] at hu
      rw [← Option.some.inj hended, parseTimestamp_formatTimestamp hplain'] at hu'
      rw [← Option.some.inj hstarted, ← Option.some.inj hended, ← Except.ok.inj hu,
        ← Except.ok.inj hu']
      exact ⟨Instant.shown_le_shown hlater, Instant.format_le_format hplain hplain' hlater⟩

/-- A transition leads to its target. -/
theorem state_of_transition (r : Run) (source target : RunState) (now : Instant) :
    (r.transition source target now).state = .ok target := target.parse_word

/-- The stamps of a transition are those that are set on the way to its target. -/
theorem stamps_of_transition (r : Run) (source target : RunState) (now : Instant) :
    (r.transition source target now).stamps = r.stamps.afterTransition source target now := rfl

/-- A transition forward that is decided on now takes its stamps from now. -/
theorem Timely.transition {source target : RunState} (h : r.Timely now)
    (hstate : r.state = .ok source) (hadvances : source.Advances target)
    (hplain : now.HasPlainYear) : (r.transition source target now).Timely now := by
  have htarget := state_of_transition r source target now
  have hstamps := stamps_of_transition r source target now
  cases h with
  | waiting hqueued hnone =>
    obtain rfl : RunState.queued = source := Except.ok.inj (hqueued.symm.trans hstate)
    rw [hnone] at hstamps
    rcases hadvances with ⟨-, rfl⟩ | ⟨-, hfinal⟩ | ⟨hrunning, -⟩
    · exact .going now htarget hstamps hplain (Instant.le_refl now)
    · refine .completed now now target htarget hfinal ?_ hplain hplain (Instant.le_refl now)
        (Instant.le_refl now)
      rw [hstamps]
      cases target <;> first | rfl | cases hfinal
    · cases hrunning
  | going t hrunning hstarted ht hpast =>
    obtain rfl : RunState.running = source := Except.ok.inj (hrunning.symm.trans hstate)
    rw [hstarted] at hstamps
    rcases hadvances with ⟨hqueued, -⟩ | ⟨hqueued, -⟩ | ⟨-, hfinal⟩
    · cases hqueued
    · cases hqueued
    · refine .completed t now target htarget hfinal ?_ ht hplain hpast (Instant.le_refl now)
      rw [hstamps]
      cases target <;> first | rfl | cases hfinal
  | completed t t' s hs hfinal _ _ _ _ _ =>
    obtain rfl : s = source := Except.ok.inj (hs.symm.trans hstate)
    rcases hadvances with ⟨rfl, -⟩ | ⟨rfl, -⟩ | ⟨rfl, -⟩ <;> cases hfinal

/-- An object keeps its own stamps. -/
theorem KeepsStamps.refl (r : Run) : r.KeepsStamps r := ⟨fun _ => id, fun _ => id⟩

/-- Stamps that are kept twice are kept. -/
theorem KeepsStamps.trans {r₁ r₂ r₃ : Run} (h : r₁.KeepsStamps r₂) (h' : r₂.KeepsStamps r₃) :
    r₁.KeepsStamps r₃ :=
  ⟨fun text htext => h'.1 text (h.1 text htext), fun text htext => h'.2 text (h.2 text htext)⟩

/-- In one life the stamps are kept. -/
theorem SameLife.keepsStamps (h : r.SameLife r') : r.KeepsStamps r' := by
  unfold KeepsStamps
  rw [h.2]
  exact ⟨fun _ => id, fun _ => id⟩

/-- A transition leaves the stamps that are there. -/
theorem keepsStamps_transition (r : Run) (source target : RunState) (now : Instant) :
    r.KeepsStamps (r.transition source target now) := by
  constructor <;> intro text htext <;> rw [stamps_of_transition] <;>
    simp [Stamps.afterTransition, Stamps.needsStart, Stamps.needsEnd, htext]

end Run

namespace World

variable {w : World} {k : RunKey} {a : Action} {number : Nat} {h : List Action}
  {settings : Settings} {wall : Instant}

/-- Nobody but monitors writes the state and the stamps of the run, which is fresh when it is
stored for the first time and whenever it is stored again after it was deleted. Nobody gives a
stored run another key, and the clock on the wall goes forward, within the years 0 to 9999. -/
def SparesLife (k : RunKey) (w : World) : Action → Prop
  | .store c => c.KeepsKeys ∧ ∀ r', (w.store.change c).runs.get? k = some r' →
      match w.store.runs.get? k with
      | some r => r.SameLife r'
      | none => r'.IsFresh
  | .setWall wall => w.wall ≤ wall ∧ wall.HasPlainYear
  | _ => True

/-- The run is timely wherever it is: in the store, and with the monitors that have read it or are
about to replace it. -/
structure Timely (k : RunKey) (w : World) : Prop where
  wall : w.wall.HasPlainYear
  filed : w.store.Filed
  stored : ∀ r, w.store.runs.get? k = some r → r.Timely w.wall
  listing : ∀ {number : Nat} {m : Monitor} {c : Call} {r : Run} {current : RunState},
    w.monitors[number]? = some m → m.phase = .listing c r current →
      r.state = .ok current ∧ current.isFinal = false ∧ (r.key = k → r.Timely w.wall)
  writing : ∀ {number : Nat} {m : Monitor} {c : Call} {r : Run} {target : RunState},
    w.monitors[number]? = some m → m.phase = .writing c r target → r.key = k → r.Timely w.wall

/-- Nothing in an empty world lies in the future. -/
theorem timely_initial (settings : Settings) (k : RunKey) (hwall : wall.HasPlainYear) :
    (initial settings wall).Timely k where
  wall := hwall
  filed := Store.filed_empty
  stored := by
    intro r hr
    cases hr
  listing := by
    intro number m c r current hm
    cases hm
  writing := by
    intro number m c r target hm
    cases hm

/-- Nobody but who sets the clock on the wall changes it. -/
theorem wall_act (w : World) (hwall : ∀ wall, a ≠ .setWall wall) : (w.act a).wall = w.wall := by
  have hkept := (w.surroundings_act a).2.2
  cases a with
  | setWall wall => exact absurd rfl (hwall wall)
  | _ => exact hkept

/-- The clock on the wall never goes back in the life of a run. -/
theorem wall_le_act (ha : SparesLife k w a) : w.wall ≤ (w.act a).wall := by
  cases a with
  | setWall wall => exact ha.1
  | _ =>
    rw [wall_act w (by simp)]
    exact Instant.le_refl _

/-- The clock on the wall keeps showing a plain year. -/
theorem plain_act (hw : w.wall.HasPlainYear) (ha : SparesLife k w a) :
    (w.act a).wall.HasPlainYear := by
  cases a with
  | setWall wall => exact ha.2
  | _ =>
    rw [wall_act w (by simp)]
    exact hw

/-- Who neither changes the store nor replaces the run leaves it. -/
theorem get?_act_of_not_replaces (hstore : ∀ c, a ≠ .store c) (hreplaces : w.replaces k a = false) :
    (w.act a).store.runs.get? k = w.store.runs.get? k := by
  cases a with
  | store c => exact absurd rfl (hstore c)
  | monitor number =>
    rw [store_act_monitor]
    cases hcall : w.call? number with
    | none => rfl
    | some call => exact get?_effect hcall hreplaces
  | _ => rw [(w.runs_act (by simp) (by simp)).1]

/-- What is stored stays timely: others leave the life of the run alone, and a monitor replaces it
by a timely run. -/
theorem Timely.stored_act (hw : w.Timely k) (ha : SparesLife k w a) {r' : Run}
    (hr' : (w.act a).store.runs.get? k = some r') : r'.Timely (w.act a).wall := by
  have hlater := wall_le_act ha
  cases hreplaces : w.replaces k a with
  | true =>
    obtain ⟨number, r, written, rfl, hcall, rfl, hwritten⟩ := replaces_iff.1 hreplaces
    rw [get?_act_of_replace hcall hwritten] at hr'
    obtain rfl := Option.some.inj hr'
    obtain ⟨m, hm, hmcall⟩ := call?_eq_some hcall
    obtain ⟨-, c, target, hphase, -⟩ := Monitor.call?_eq_replace hmcall
    obtain ⟨-, -, rfl⟩ := Store.replace_eq_ok_iff.1 hwritten
    exact (hw.writing hm hphase rfl).of_sameLife ⟨rfl, rfl⟩ hlater
  | false =>
    by_cases hstore : ∃ c, a = .store c
    · obtain ⟨c, rfl⟩ := hstore
      have hspared := ha.2 r' hr'
      split at hspared
      · next r hr => exact (hw.stored r hr).of_sameLife hspared hlater
      · exact hspared.timely _
    · rw [get?_act_of_not_replaces (fun c hc => hstore ⟨c, hc⟩) hreplaces] at hr'
      exact (hw.stored r' hr').mono hlater

/-- A run that a monitor has just read is timely because the stored one is. -/
theorem Timely.listing_act (hw : w.Timely k) (ha : SparesLife k w a) {m : Monitor} {c : Call}
    {r : Run} {current : RunState} (hm : (w.act a).monitors[number]? = some m)
    (hphase : m.phase = .listing c r current) :
    r.state = .ok current ∧ current.isFinal = false ∧ (r.key = k → r.Timely (w.act a).wall) := by
  have hlater := wall_le_act ha
  cases fate_of_act hm with
  | kept hkept =>
    obtain ⟨hstate, hfinal, htimely⟩ := hw.listing hkept hphase
    exact ⟨hstate, hfinal, fun hkey => (htimely hkey).mono hlater⟩
  | moved m₀ _ hm₀ hstep =>
    obtain ⟨-, hanswer, hstate, hfinal⟩ := (Monitor.step_of_step? hstep).of_listing hphase
    have hstored := (Store.get_eq_ok_iff.1 hanswer).2
    refine ⟨hstate, hfinal, ?_⟩
    rintro rfl
    rw [← hw.filed _ r hstored] at hstored
    exact (hw.stored r hstored).mono hlater
  | aborted m₀ _ _ heq =>
    rw [heq] at hphase
    cases hphase
  | started lease _ heq =>
    rw [heq] at hphase
    cases hphase

/-- A run that a monitor has just decided on is timely because the one that it has read is. -/
theorem Timely.writing_act (hw : w.Timely k) (ha : SparesLife k w a) {m : Monitor} {c : Call}
    {r : Run} {target : RunState} (hm : (w.act a).monitors[number]? = some m)
    (hphase : m.phase = .writing c r target) (hkey : r.key = k) :
    r.Timely (w.act a).wall := by
  have hlater := wall_le_act ha
  cases fate_of_act hm with
  | kept hkept => exact (hw.writing hkept hphase hkey).mono hlater
  | moved m₀ _ hm₀ hstep =>
    obtain ⟨-, c₀, read, current, hlisting, htarget, hne, rfl⟩ :=
      (Monitor.step_of_step? hstep).of_writing hphase
    obtain ⟨hstate, hfinal, htimely⟩ := hw.listing hm₀ hlisting
    rw [htarget] at hne
    have hadvances := evaluate_advances hfinal hne
    rw [← htarget] at hadvances
    exact ((htimely hkey).transition hstate hadvances hw.wall).mono hlater
  | aborted m₀ _ _ heq =>
    rw [heq] at hphase
    cases hphase
  | started lease _ heq =>
    rw [heq] at hphase
    cases hphase

/-- Every action that spares the life of a run keeps the run timely. -/
theorem timely_act (hw : w.Timely k) (ha : SparesLife k w a) : (w.act a).Timely k where
  wall := plain_act hw.wall ha
  filed := filed_act hw.filed fun c hc => by
    subst hc
    exact ha.1
  stored := fun _ hr => hw.stored_act ha hr
  listing := fun hm hphase => hw.listing_act ha hm hphase
  writing := fun hm hphase hkey => hw.writing_act ha hm hphase hkey

/-! ### Stamps that are written stay -/

/-- The run is stored after the action. -/
def StaysStored (k : RunKey) (w : World) (a : Action) : Prop :=
  (w.act a).store.runs.get? k ≠ none

/-- A replacement keeps the stamps because it overwrites what its poll has read. -/
theorem keepsStamps_act {r r' : Run} (hspared : SparesLife k ((initial settings wall).after h) a)
    (hr : ((initial settings wall).after h).store.runs.get? k = some r)
    (hr' : (((initial settings wall).after h).act a).store.runs.get? k = some r') :
    r.KeepsStamps r' := by
  cases hreplaces : ((initial settings wall).after h).replaces k a with
  | true =>
    obtain ⟨number, _, written, rfl, hcall, rfl, hwritten⟩ := replaces_iff.1 hreplaces
    obtain ⟨_, read, _, _, current, target, now, -, -, -, hstored, -, -, -, -, rfl⟩ :=
      record_of_replace rfl Store.versioned_empty hcall hwritten
    rw [get?_act_of_replace hcall hwritten] at hr'
    obtain rfl := Option.some.inj (hstored.symm.trans hr)
    obtain rfl := Option.some.inj hr'
    exact Run.keepsStamps_transition read current target now
  | false =>
    by_cases hstore : ∃ c, a = .store c
    · obtain ⟨c, rfl⟩ := hstore
      have hsame := hspared.2 r' hr'
      rw [hr] at hsame
      exact Run.SameLife.keepsStamps hsame
    · rw [get?_act_of_not_replaces (fun c hc => hstore ⟨c, hc⟩) hreplaces, hr] at hr'
      obtain rfl := Option.some.inj hr'
      exact Run.KeepsStamps.refl r

/-- The stamps that a run carries stay until it is deleted. -/
theorem keepsStamps_after {r r' : Run} (rest : List Action)
    (hspared : ((initial settings wall).after h).Along
      (fun w a => SparesLife k w a ∧ StaysStored k w a) rest)
    (hr : ((initial settings wall).after h).store.runs.get? k = some r)
    (hr' : (((initial settings wall).after h).after rest).store.runs.get? k = some r') :
    r.KeepsStamps r' := by
  induction rest generalizing h r with
  | nil =>
    obtain rfl := Option.some.inj (hr.symm.trans hr')
    exact Run.KeepsStamps.refl r
  | cons a rest ih =>
    obtain ⟨⟨hlife, hstays⟩, hrest⟩ := hspared
    obtain ⟨next, hnext⟩ := Option.ne_none_iff_exists'.1 hstays
    have hfirst := keepsStamps_act hlife hr hnext
    rw [after_cons] at hr'
    rw [← after_concat] at hrest hnext hr'
    exact hfirst.trans (ih hrest hnext hr')

/-- **The stamps of a run fit its state throughout its life.** A run is stored without stamps, in
the queue or without a state, and nobody but monitors writes its state and its stamps, while the
clock on the wall goes forward within the years 0 to 9999. In every history of this kind, of any
monitors, dispatchers and changes from outside, the stored run carries a start if and only if it
is not queued, and an end if and only if its state is final; both can be read, and the end is not
before the start. And a stamp that the run carries stays the same for as long as the run is
stored. -/
theorem stamps_of_lives (settings : Settings) (wall : Instant) (hwall : wall.HasPlainYear)
    (k : RunKey) (h : List Action) (hspared : (initial settings wall).Along (SparesLife k) h) :
    (∀ r, ((initial settings wall).after h).store.runs.get? k = some r → r.WellStamped) ∧
    ∀ rest r r', ((initial settings wall).after h).Along
        (fun w a => SparesLife k w a ∧ StaysStored k w a) rest →
      ((initial settings wall).after h).store.runs.get? k = some r →
      (((initial settings wall).after h).after rest).store.runs.get? k = some r' →
      r.KeepsStamps r' := by
  have htimely : ((initial settings wall).after h).Timely k :=
    Along.invariant (Timely k) (fun w a ha hw => timely_act hw ha) hspared
      (timely_initial settings k hwall)
  exact ⟨fun r hr => (htimely.stored r hr).wellStamped,
    fun rest r r' hrest hr hr' => keepsStamps_after rest hrest hr hr'⟩

/-- A run is stored without a state. The first replacement by its monitor meets a conflict with a
change of its annotations, so that its start is stamped by a later poll. -/
def contestedStart : List Action :=
  let r := Run.named "ns" "a" RunSpec.empty
  [.store (.insert r), .store (.setPods r.key [.running]), .react (.create r.key), .pass 1000,
    .setWall ⟨5, 7⟩, .monitor 0, .monitor 0, .monitor 0,
    .store (.modify r.key fun r =>
      { r with metadata := { r.metadata with annotations := some [("note", "kept")] } }),
    .monitor 0, .pass 1000, .setWall ⟨61, 3⟩, .monitor 0, .monitor 0, .monitor 0, .monitor 0]

/-- The monitor is aborted, another operator takes over, and the run succeeds. -/
def completionAfterTakeover : List Action :=
  [.abort 0, .start ⟨⟨"ns", "a"⟩, 7⟩, .store (.setPods ⟨"ns", "a"⟩ [.succeeded]), .pass 1000,
    .setWall ⟨62, 3⟩, .monitor 1, .monitor 1, .monitor 1, .setWall ⟨99, 0⟩, .monitor 1]

/-- The start of the run is the time of the second decision, and its end does not change it. -/
theorem stamps_of_contestedStart :
    (⟨0, 0⟩ : Instant).HasPlainYear ∧
    (initial .standard ⟨0, 0⟩).Along (SparesLife ⟨"ns", "a"⟩) contestedStart ∧
    ((initial .standard ⟨0, 0⟩).after contestedStart).Along
      (fun w a => SparesLife ⟨"ns", "a"⟩ w a ∧ StaysStored ⟨"ns", "a"⟩ w a)
      completionAfterTakeover ∧
    ∃ r r', ((initial .standard ⟨0, 0⟩).after contestedStart).store.runs.get? ⟨"ns", "a"⟩ =
        some r ∧
      (((initial .standard ⟨0, 0⟩).after contestedStart).after
        completionAfterTakeover).store.runs.get? ⟨"ns", "a"⟩ = some r' ∧
      r.WellStamped ∧ r.stamps = ⟨some "1970-01-01T00:01:01Z", none⟩ ∧ r.KeepsStamps r' ∧
      r'.stamps = ⟨some "1970-01-01T00:01:01Z", some "1970-01-01T00:01:02Z"⟩ := by
  have hplain : (⟨0, 0⟩ : Instant).HasPlainYear := by decide
  have hspared : (initial .standard ⟨0, 0⟩).Along (SparesLife ⟨"ns", "a"⟩) contestedStart := by
    refine ⟨⟨trivial, ?_⟩, ⟨trivial, ?_⟩, trivial, trivial, ⟨by decide, by decide⟩, trivial,
      trivial, trivial, ⟨fun _ => rfl, ?_⟩, trivial, trivial, ⟨by decide, by decide⟩, trivial,
      trivial, trivial, trivial, trivial⟩
    · exact fun r hr => Option.some.inj hr ▸ ⟨Or.inl rfl, rfl⟩
    · exact fun r hr => Option.some.inj hr ▸ ⟨rfl, rfl⟩
    · exact fun r hr => Option.some.inj hr ▸ ⟨rfl, rfl⟩
  have hrest : ((initial .standard ⟨0, 0⟩).after contestedStart).Along
      (fun w a => SparesLife ⟨"ns", "a"⟩ w a ∧ StaysStored ⟨"ns", "a"⟩ w a)
      completionAfterTakeover := by
    have hstored {r : Run} {stored : Option Run} (h : stored = some r) : stored ≠ none := by
      simp [h]
    refine ⟨⟨trivial, hstored rfl⟩, ⟨trivial, hstored rfl⟩, ⟨⟨trivial, ?_⟩, hstored rfl⟩,
      ⟨trivial, hstored rfl⟩, ⟨⟨by decide, by decide⟩, hstored rfl⟩, ⟨trivial, hstored rfl⟩,
      ⟨trivial, hstored rfl⟩, ⟨trivial, hstored rfl⟩, ⟨⟨by decide, by decide⟩, hstored rfl⟩,
      ⟨trivial, hstored rfl⟩, trivial⟩
    exact fun r hr => Option.some.inj hr ▸ ⟨rfl, rfl⟩
  obtain ⟨hfit, hkeeps⟩ := stamps_of_lives .standard ⟨0, 0⟩ hplain ⟨"ns", "a"⟩ contestedStart hspared
  exact ⟨hplain, hspared, hrest, _, _, rfl, rfl, hfit _ rfl, rfl,
    hkeeps completionAfterTakeover _ _ hrest rfl rfl, rfl⟩

end World

end RunOperator
