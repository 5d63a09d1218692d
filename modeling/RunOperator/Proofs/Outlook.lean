import RunOperator.Proofs.KeySets
import RunOperator.Proofs.Staffing

/-!
# What the pending events of a watch will lead to

A watch reports changes later than they happen. What the operator knows of a run and does for it at
present says little, therefore; what counts is what it will know and do once all pending events are
taken in. `Sight.afterAll` foretells this for one run, and `sight_takeIn` shows that the dispatcher
acts as foretold.
-/

namespace RunOperator

/-- What the operator knows of a run and does for it. -/
structure Sight where
  /-- The run is on the roster. -/
  known : Bool
  /-- A lease is registered for the run, and it was not cancelled. -/
  attended : Bool

/-- The run that an event is about. -/
def WatchEvent.key? : WatchEvent → Option RunKey
  | .init | .initDone => none
  | .initApply r | .apply r | .delete r => some r.key

/-- The event reports a change, and does not belong to a listing. -/
def WatchEvent.isChange : WatchEvent → Bool
  | .apply _ | .delete _ => true
  | _ => false

/-- The deletion of the run has not been taken in yet. -/
def DeletionPending (k : RunKey) (pending : List WatchEvent) : Prop :=
  ∃ r, .delete r ∈ pending ∧ r.key = k

namespace Sight

variable {k : RunKey} {t t' : Sight} {e : WatchEvent} {events : List WatchEvent}
  {stored : Option Run}

/-- The sight of a run after an event. -/
def after (k : RunKey) (t : Sight) : WatchEvent → Sight
  | .init | .initDone => t
  | .initApply r => if r.key = k then ⟨true, r.isUnderway⟩ else t
  | .apply r => if r.key = k then ⟨true, t.attended || !t.known⟩ else t
  | .delete r => if r.key = k then ⟨false, false⟩ else t

/-- The sight of a run after some events. -/
def afterAll (k : RunKey) (t : Sight) (events : List WatchEvent) : Sight :=
  events.foldl (after k) t

/-- Without events nothing new is seen. -/
@[simp] theorem afterAll_nil (t : Sight) : t.afterAll k [] = t := rfl

/-- The first event is seen before the others. -/
@[simp] theorem afterAll_cons (t : Sight) (e : WatchEvent) (events : List WatchEvent) :
    t.afterAll k (e :: events) = (t.after k e).afterAll k events := rfl

/-- Events are seen one part after the other. -/
theorem afterAll_append (t : Sight) (first second : List WatchEvent) :
    t.afterAll k (first ++ second) = (t.afterAll k first).afterAll k second :=
  List.foldl_append

/-- The last event is seen after the others. -/
theorem afterAll_concat (t : Sight) (events : List WatchEvent) (e : WatchEvent) :
    t.afterAll k (events ++ [e]) = (t.afterAll k events).after k e := by
  rw [afterAll_append, afterAll_cons, afterAll_nil]

/-- An event about another run does not matter. -/
theorem after_of_ne (hne : e.key? ≠ some k) : t.after k e = t := by
  cases e with
  | init | initDone => rfl
  | initApply r | apply r | delete r => exact if_neg fun heq => hne (congrArg some heq)

/-- Which runs will be known does not depend on which are attended. -/
theorem known_afterAll (hknown : t.known = t'.known) (events : List WatchEvent) :
    (t.afterAll k events).known = (t'.afterAll k events).known := by
  induction events generalizing t t' with
  | nil => exact hknown
  | cons e events ih =>
    refine ih ?_
    cases e with
    | init | initDone => exact hknown
    | initApply r | apply r | delete r =>
      simp only [after]
      split
      · rfl
      · exact hknown

/-- When a run is attended exactly if it is known, this stays so with every change. -/
theorem attended_eq_known (h : t.attended = t.known) (hchanges : ∀ e ∈ events, e.isChange = true) :
    (t.afterAll k events).attended = (t.afterAll k events).known := by
  induction events generalizing t with
  | nil => exact h
  | cons e events ih =>
    refine ih ?_ fun e' he' => hchanges e' (List.mem_cons_of_mem e he')
    have hchange := hchanges e List.mem_cons_self
    cases e with
    | init | initDone | initApply r => cases hchange
    | apply r =>
      simp only [after]
      split
      · simp [h]
      · exact h
    | delete r =>
      simp only [after]
      split
      · rfl
      · exact h

/-- After a deletion a run is attended exactly if it is known. -/
theorem attended_eq_known_of_deletion (hchanges : ∀ e ∈ events, e.isChange = true)
    (hdeletion : DeletionPending k events) :
    (t.afterAll k events).attended = (t.afterAll k events).known := by
  induction events generalizing t with
  | nil =>
    obtain ⟨r, hr, -⟩ := hdeletion
    cases hr
  | cons e events ih =>
    have hrest : ∀ e' ∈ events, e'.isChange = true :=
      fun e' he' => hchanges e' (List.mem_cons_of_mem e he')
    obtain ⟨r, hr, hkey⟩ := hdeletion
    rcases List.mem_cons.1 hr with rfl | hr
    · rw [afterAll_cons, after, if_pos hkey]
      exact attended_eq_known rfl hrest
    · exact ih hrest ⟨r, hr, hkey⟩

/-- The sight suits what is stored: the run is known if and only if it is stored, and attended if
it is underway. -/
structure Suits (t : Sight) (stored : Option Run) : Prop where
  known : t.known = stored.isSome
  attended : ∀ r, stored = some r → r.isUnderway = true → t.attended = true

/-- Nobody has to attend a run that is not underway. -/
theorem Suits.of_idle (h : t.Suits stored) (hknown : t'.known = t.known)
    (hidle : ∀ r, stored = some r → r.isUnderway = false) : t'.Suits stored where
  known := hknown.trans h.known
  attended := by
    intro r hr hunderway
    rw [hidle r hr] at hunderway
    cases hunderway

/-- Whoever attends a run now, what will be is the same if its deletion is pending. -/
theorem Suits.of_attended_eq_known (h : t.Suits stored) (hknown : t'.known = t.known)
    (hsame : t'.attended = t'.known) : t'.Suits stored where
  known := hknown.trans h.known
  attended := by
    rintro r rfl -
    rw [hsame, hknown, h.known]
    rfl

/-- A run that is inserted will be attended. -/
theorem Suits.after_apply_new {r r' : Run} (h : t.Suits none) (hkey : r.key = k) :
    (t.after k (.apply r)).Suits (some r') := by
  have hunknown : t.known = false := h.known
  rw [after, if_pos hkey]
  refine ⟨rfl, ?_⟩
  intro _ _ _
  simp [hunknown]

/-- A run that is replaced stays attended. -/
theorem Suits.after_apply_old {r r' before : Run} (h : t.Suits (some before)) (hkey : r.key = k)
    (hattended : r'.isUnderway = true → t.attended = true) :
    (t.after k (.apply r)).Suits (some r') := by
  have hknown : t.known = true := h.known
  rw [after, if_pos hkey]
  refine ⟨rfl, ?_⟩
  rintro r'' hr'' hunderway
  obtain rfl := Option.some.inj hr''
  simp [hattended hunderway]

/-- A run that is deleted is known no more. -/
theorem suits_after_delete {r : Run} (hkey : r.key = k) : (t.after k (.delete r)).Suits none := by
  rw [after, if_pos hkey]
  refine ⟨rfl, ?_⟩
  intro r' hr'
  cases hr'

end Sight

/-- What a watch still has to report: its listing, the rest of it, or changes only. Of the runs that
a listing still has to report none is known. -/
inductive Remaining (t : Roster) : List WatchEvent → Prop
  | unlisted {runs : List Run} {changes : List WatchEvent} : t = .initial →
      (runs.map Run.key).Nodup → (∀ e ∈ changes, e.isChange = true) →
      Remaining t (.init :: runs.map .initApply ++ .initDone :: changes)
  | listing {runs : List Run} {changes : List WatchEvent} : t.listed = false →
      (∀ k, t.known.contains k = (t.listing.getD KeySet.empty).contains k) →
      (runs.map Run.key).Nodup → (∀ r ∈ runs, t.known.contains r.key = false) →
      (∀ e ∈ changes, e.isChange = true) →
      Remaining t (runs.map .initApply ++ .initDone :: changes)
  | listed {changes : List WatchEvent} : t.listed = true → (∀ e ∈ changes, e.isChange = true) →
      Remaining t changes

namespace Remaining

variable {t : Roster} {k : RunKey} {pending : List WatchEvent}

/-- Changes are reported after all that was to be reported before. -/
theorem concat {e : WatchEvent} (h : Remaining t pending) (he : e.isChange = true) :
    Remaining t (pending ++ [e]) := by
  have hconcat {changes : List WatchEvent} (hchanges : ∀ e ∈ changes, e.isChange = true) :
      ∀ e' ∈ changes ++ [e], e'.isChange = true := by
    intro e' he'
    rcases List.mem_append.1 he' with he' | he'
    · exact hchanges e' he'
    · rw [List.mem_singleton.1 he', he]
  cases h with
  | unlisted hinitial hnodup hchanges =>
    rw [List.append_assoc]
    exact .unlisted hinitial hnodup (hconcat hchanges)
  | listing hlisted hsame hnodup hunknown hchanges =>
    rw [List.append_assoc]
    exact .listing hlisted hsame hnodup hunknown (hconcat hchanges)
  | listed hlisted hchanges => exact .listed hlisted (hconcat hchanges)

/-- A deletion is reported after the listing, so that from then on the run is attended exactly if it
is known. -/
theorem attended_eq_known {s : Sight} (h : Remaining t pending)
    (hdeletion : DeletionPending k pending) :
    (s.afterAll k pending).attended = (s.afterAll k pending).known := by
  obtain ⟨r, hr, hkey⟩ := hdeletion
  have hsplit {front changes : List WatchEvent} (hfront : .delete r ∉ front)
      (hchanges : ∀ e ∈ changes, e.isChange = true) (hr : .delete r ∈ front ++ .initDone :: changes) :
      (s.afterAll k (front ++ .initDone :: changes)).attended =
        (s.afterAll k (front ++ .initDone :: changes)).known := by
    have hmem : WatchEvent.delete r ∈ changes := by
      rcases List.mem_append.1 hr with hr | hr
      · exact absurd hr hfront
      · rcases List.mem_cons.1 hr with hr | hr
        · cases hr
        · exact hr
    rw [Sight.afterAll_append, Sight.afterAll_cons]
    exact Sight.attended_eq_known_of_deletion hchanges ⟨r, hmem, hkey⟩
  cases h with
  | unlisted _ _ hchanges => exact hsplit (by simp) hchanges hr
  | listing _ _ _ _ hchanges => exact hsplit (by simp) hchanges hr
  | listed _ hchanges => exact Sight.attended_eq_known_of_deletion hchanges ⟨r, hr, hkey⟩

/-- What remains after the next event. -/
theorem observe {e : WatchEvent} (h : Remaining t (e :: pending)) :
    Remaining (t.observe e).2 pending := by
  generalize hevents : e :: pending = events at h
  cases h with
  | unlisted hinitial hnodup hchanges =>
    subst hinitial
    cases hevents
    exact .listing rfl (fun _ => rfl) hnodup (fun _ _ => rfl) hchanges
  | @listing runs changes hlisted hsame hnodup hunknown hchanges =>
    cases runs with
    | nil =>
      cases hevents
      exact .listed rfl hchanges
    | cons r runs =>
      cases hevents
      obtain ⟨hr, hnodup⟩ := List.nodup_cons.1 hnodup
      refine .listing hlisted ?_ hnodup ?_ hchanges
      · intro k
        simp only [Roster.observe, Option.getD_some, KeySet.contains_add, hsame]
      · intro r' hr'
        have hne : r.key ≠ r'.key := by
          intro heq
          exact hr (heq ▸ List.mem_map_of_mem hr')
        rw [Roster.observe, KeySet.contains_add, if_neg hne]
        exact hunknown r' (List.mem_cons_of_mem r hr')
  | listed hlisted hchanges =>
    subst hevents
    have hrest : ∀ e' ∈ pending, e'.isChange = true :=
      fun e' he' => hchanges e' (List.mem_cons_of_mem e he')
    have hchange := hchanges e List.mem_cons_self
    cases e with
    | init | initDone | initApply r => cases hchange
    | apply r | delete r => exact .listed hlisted hrest

/-- The runs that a listing still has to report differ. -/
theorem key_ne_of_initApply {r r' : Run} (h : Remaining t (.initApply r :: pending))
    (hr' : .initApply r' ∈ pending) : r.key ≠ r'.key := by
  generalize hevents : WatchEvent.initApply r :: pending = events at h
  cases h with
  | unlisted _ _ _ => cases hevents
  | @listing runs changes _ _ hnodup _ hchanges =>
    cases runs with
    | nil => cases hevents
    | cons first runs =>
      cases hevents
      have hmem : r' ∈ runs := by
        rcases List.mem_append.1 hr' with hr' | hr'
        · obtain ⟨r'', hr'', heq⟩ := List.mem_map.1 hr'
          cases heq
          exact hr''
        · rcases List.mem_cons.1 hr' with hr' | hr'
          · cases hr'
          · cases hchanges _ hr'
      intro heq
      exact (List.nodup_cons.1 hnodup).1 (heq ▸ List.mem_map_of_mem hmem)
  | listed _ hchanges =>
    subst hevents
    cases hchanges _ List.mem_cons_self

/-- While a run is resumed, no listing was completed. -/
theorem listed_eq_false {r : Run} (h : Remaining t (.initApply r :: pending)) :
    t.listed = false := by
  generalize hevents : WatchEvent.initApply r :: pending = events at h
  cases h with
  | unlisted _ _ _ => cases hevents
  | listing hlisted _ _ _ _ => exact hlisted
  | listed _ hchanges =>
    subst hevents
    cases hchanges _ List.mem_cons_self

/-- After a change nothing of a listing remains. -/
theorem not_mem_of_isChange {e : WatchEvent} {r : Run} (h : Remaining t (e :: pending))
    (he : e.isChange = true) : .initApply r ∉ pending := by
  generalize hevents : e :: pending = events at h
  cases h with
  | unlisted _ _ _ =>
    cases hevents
    cases he
  | @listing runs changes _ _ _ _ _ =>
    cases runs with
    | nil =>
      cases hevents
      cases he
    | cons first runs =>
      cases hevents
      cases he
  | listed _ hchanges =>
    subst hevents
    intro hr
    cases hchanges _ (List.mem_cons_of_mem e hr)

/-- When the listing ends, it holds exactly the runs that are known. -/
theorem contains_listing (h : Remaining t (.initDone :: pending)) (k : RunKey) :
    t.known.contains k = (t.listing.getD KeySet.empty).contains k := by
  generalize hevents : WatchEvent.initDone :: pending = events at h
  cases h with
  | unlisted _ _ _ => cases hevents
  | listing _ hsame _ _ _ => exact hsame k
  | listed _ hchanges =>
    subst hevents
    cases hchanges _ List.mem_cons_self

end Remaining

/-- The runs that a listing still has to report were never monitored. -/
def Registry.Unmonitored (r : Registry) (pending : List WatchEvent) : Prop :=
  ∀ run, .initApply run ∈ pending → r.entries.get? run.key = none

namespace World

variable {w : World} {t : Roster} {e : WatchEvent} {pending : List WatchEvent}

/-- What the operator knows of a run at present and does for it. -/
def sight (w : World) (t : Roster) (k : RunKey) : Sight :=
  ⟨t.known.contains k, w.registry.attends k⟩

/-- The dispatcher reacts to an event as foretold. -/
theorem Staffed.foldl_observe (hw : w.Staffed) (hremaining : Remaining t (e :: pending))
    (hunmonitored : w.registry.Unmonitored (e :: pending)) :
    ((t.observe e).1.foldl World.handle w).Staffed ∧
      ∀ k, ((t.observe e).1.foldl World.handle w).sight (t.observe e).2 k =
        (w.sight t k).after k e := by
  cases e with
  | init => exact ⟨hw, fun _ => rfl⟩
  | initApply r =>
    have hlisted := hremaining.listed_eq_false
    have hnone := hunmonitored r List.mem_cons_self
    obtain ⟨hstaffed, hattends⟩ := hw.onResume hnone
    have hevents : (t.observe (.initApply r)).1 = [.resume r] := by
      rw [Roster.observe, hlisted]
      rfl
    rw [hevents]
    refine ⟨hstaffed, ?_⟩
    intro k
    rw [sight, List.foldl_cons, List.foldl_nil, handle, hattends, Roster.observe,
      KeySet.contains_add, Sight.after]
    split <;> rfl
  | initDone =>
    have hsame := hremaining.contains_listing
    have hevents : (t.observe .initDone).1 = [] := Roster.deletions_eq_nil hsame
    rw [hevents]
    refine ⟨hw, ?_⟩
    intro k
    exact congrArg (fun known => (⟨known, w.registry.attends k⟩ : Sight)) (hsame k).symm
  | apply r =>
    obtain ⟨hstaffed, hattends⟩ := hw.onCreate r.key
    cases hknown : t.known.contains r.key with
    | true =>
      have hevents : (t.observe (.apply r)).1 = [] := by
        rw [Roster.observe, Roster.appearance, hknown]
        rfl
      rw [hevents]
      refine ⟨hw, ?_⟩
      intro k
      rw [sight, Roster.observe, KeySet.contains_add, Sight.after]
      split
      · next heq =>
        subst heq
        simp [sight, hknown]
      · rfl
    | false =>
      have hevents : (t.observe (.apply r)).1 = [.create r.key] := by
        rw [Roster.observe, Roster.appearance, hknown]
        rfl
      rw [hevents]
      refine ⟨hstaffed, ?_⟩
      intro k
      rw [sight, List.foldl_cons, List.foldl_nil, handle, hattends, Roster.observe,
        KeySet.contains_add, Sight.after]
      split
      · next heq =>
        subst heq
        simp [sight, hknown]
      · rfl
  | delete r =>
    obtain ⟨hstaffed, hattends⟩ := hw.onDelete r.key
    refine ⟨hstaffed, ?_⟩
    intro k
    rw [sight, Roster.observe, List.foldl_cons, List.foldl_nil, handle, hattends,
      KeyMap.contains_erase, Sight.after]
    split <;> rfl

/-- The runs that the listing still has to report stay without a monitor. -/
theorem unmonitored_foldl_observe (hremaining : Remaining t (e :: pending))
    (hunmonitored : w.registry.Unmonitored (e :: pending)) :
    ((t.observe e).1.foldl World.handle w).registry.Unmonitored pending := by
  intro r' hr'
  have hnone := hunmonitored r' (List.mem_cons_of_mem e hr')
  cases e with
  | init => exact hnone
  | initApply r =>
    have hevents : (t.observe (.initApply r)).1 = [.resume r] := by
      rw [Roster.observe, hremaining.listed_eq_false]
      rfl
    have hne : (RunEvent.resume r).key ≠ r'.key := hremaining.key_ne_of_initApply hr'
    rw [hevents]
    exact (w.get?_handle_of_ne hne).trans hnone
  | initDone =>
    have hevents : (t.observe .initDone).1 = [] :=
      Roster.deletions_eq_nil hremaining.contains_listing
    rw [hevents]
    exact hnone
  | apply r => exact absurd hr' (hremaining.not_mem_of_isChange rfl)
  | delete r => exact absurd hr' (hremaining.not_mem_of_isChange rfl)

end World

end RunOperator
