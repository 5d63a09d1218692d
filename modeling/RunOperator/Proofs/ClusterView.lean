import RunOperator.Proofs.Replay

/-!
# A roster tells the differences of successive views

A watch shows the cluster: a listing that was completed shows all runs, and the changes after it are
reported one by one. What has been shown at any time makes a view (`ClusterView`), for which it does
not matter what was told to anybody. `observeAll_tells_differences` compares the view with what a
roster tells. However many listings there are, and wherever they are interrupted and begun anew, who
replays what the roster tells has the view whenever no listing is under way, and nothing is told
twice.
-/

namespace RunOperator

/-- What a watch has shown of the cluster. -/
structure ClusterView where
  /-- The runs that the last completed listing has shown, with the changes since then. -/
  keys : KeySet
  /-- The runs that were listed since a listing began last. -/
  listed : KeySet

namespace ClusterView

/-- Nothing was shown yet. -/
def blank : ClusterView := ⟨KeySet.empty, KeySet.empty⟩

/-- The view after an event. -/
def after (v : ClusterView) : WatchEvent → ClusterView
  | .init => { v with listed := KeySet.empty }
  | .initApply r => { v with listed := v.listed.add r.key }
  | .initDone => { v with keys := v.listed }
  | .apply r => { v with keys := v.keys.add r.key }
  | .delete r => { v with keys := v.keys.erase r.key }

/-- The view after some events. -/
def afterAll (v : ClusterView) (events : List WatchEvent) : ClusterView := events.foldl after v

/-- The view after some events and one more is the view after the last of them. -/
theorem afterAll_concat (v : ClusterView) (events : List WatchEvent) (e : WatchEvent) :
    v.afterAll (events ++ [e]) = (v.afterAll events).after e := List.foldl_concat after v e events

end ClusterView

namespace WatchEvent

/-- A listing is under way after the event, if one is under way before it or not. -/
def listingAfter (listing : Bool) : WatchEvent → Bool
  | .init => true
  | .initDone => false
  | .initApply _ | .apply _ | .delete _ => listing

/-- A listing is under way after the events. -/
def listingAfterAll (listing : Bool) (events : List WatchEvent) : Bool :=
  events.foldl listingAfter listing

/-- Runs are listed, and a listing is completed, only while a listing is under way; changes are
reported only while none is. A listing may begin at any time, also in place of another. -/
def InPlace (listing : Bool) : WatchEvent → Prop
  | .init => True
  | .initApply _ | .initDone => listing = true
  | .apply _ | .delete _ => listing = false

/-- Every one of the events comes in its place. -/
def AllInPlace : Bool → List WatchEvent → Prop
  | _, [] => True
  | listing, e :: events => e.InPlace listing ∧ AllInPlace (e.listingAfter listing) events

variable {listing : Bool} {events first second : List WatchEvent} {e : WatchEvent}

private theorem allInPlace_append :
    AllInPlace listing (first ++ second) ↔
      AllInPlace listing first ∧ AllInPlace (listingAfterAll listing first) second := by
  induction first generalizing listing with
  | nil => simp [AllInPlace, listingAfterAll]
  | cons e first ih =>
    rw [List.cons_append, AllInPlace, AllInPlace, ih, and_assoc]
    rfl

/-- What comes first is in its place whatever follows. -/
theorem AllInPlace.of_prefix (h : AllInPlace listing events) (hfirst : first <+: events) :
    AllInPlace listing first := by
  obtain ⟨second, rfl⟩ := hfirst
  exact (allInPlace_append.1 h).1

end WatchEvent

namespace Roster

open WatchEvent

variable {t : Roster} {v : ClusterView} {listing : Bool} {events before : List WatchEvent}
  {e : WatchEvent} {k : RunKey}

/-! ### The roster and the view -/

/-- The roster stands for the view: it knows the runs of the view when no listing is under way, and
otherwise it has noted, and knows, the runs that were listed. -/
structure Mirrors (t : Roster) (listing : Bool) (v : ClusterView) : Prop where
  known : listing = false → t.known = v.keys
  noted : listing = true → t.listing = some v.listed
  within : listing = true → v.listed.Within t.known

/-- A roster that has seen nothing mirrors a cluster of which nothing was told. -/
theorem mirrors_initial : Roster.initial.Mirrors false ClusterView.blank where
  known := fun _ => rfl
  noted := by
    intro h
    cases h
  within := by
    intro h
    cases h

/-- An event in its place changes the roster and the view alike. -/
theorem Mirrors.observe (h : t.Mirrors listing v) (he : e.InPlace listing) :
    (t.observe e).2.Mirrors (e.listingAfter listing) (v.after e) := by
  cases e with
  | init =>
    constructor
    · intro hlisting
      cases hlisting
    · intro _
      rfl
    · intro _
      exact KeySet.empty_within t.known
  | initApply r =>
    obtain rfl : listing = true := he
    constructor
    · intro hlisting
      cases hlisting
    · intro _
      rw [Roster.observe, h.noted rfl]
      rfl
    · intro _
      exact (h.within rfl).add r.key
  | initDone =>
    obtain rfl : listing = true := he
    constructor
    · intro _
      rw [Roster.observe, h.noted rfl]
      rfl
    · intro hlisting
      cases hlisting
    · intro hlisting
      cases hlisting
  | apply r =>
    obtain rfl : listing = false := he
    constructor
    · intro _
      exact congrArg (KeySet.add · r.key) (h.known rfl)
    · intro hlisting
      cases hlisting
    · intro hlisting
      cases hlisting
  | delete r =>
    obtain rfl : listing = false := he
    constructor
    · intro _
      exact congrArg (KeyMap.erase · r.key) (h.known rfl)
    · intro hlisting
      cases hlisting
    · intro hlisting
      cases hlisting

/-- Replaying the appearance of a run adds its key. -/
theorem replayAll_appearance (known : KeySet) (k : RunKey) :
    known.replayAll (appearance known k) = known.add k := by
  unfold appearance
  split
  · next hk => exact (KeySet.add_of_contains hk).symm
  · rfl

/-- What is told of an event in its place is what the event makes known. -/
theorem Mirrors.replayAll_observe (h : t.Mirrors listing v) (he : e.InPlace listing) :
    t.known.replayAll (t.observe e).1 = (t.observe e).2.known := by
  cases e with
  | init => rfl
  | initApply r =>
    rw [Roster.observe]
    cases t.listed with
    | true => exact replayAll_appearance t.known r.key
    | false => rfl
  | initDone =>
    obtain rfl : listing = true := he
    refine KeySet.ext_contains fun k => ?_
    rw [Roster.observe, contains_replayAll_deletions, h.noted rfl, Option.getD_some]
    cases hlisted : v.listed.contains k with
    | true => rw [h.within rfl k hlisted, Bool.true_and]
    | false => rw [Bool.and_false]
  | apply r => exact replayAll_appearance t.known r.key
  | delete r => rfl

/-- After events in their places the roster stands for the view, and a replay gives what it
knows. -/
theorem Mirrors.observeAll (h : t.Mirrors listing v) (hplaced : AllInPlace listing events) :
    (t.observeAll events).2.Mirrors (listingAfterAll listing events) (v.afterAll events) ∧
      t.known.replayAll (t.observeAll events).1 = (t.observeAll events).2.known := by
  induction events generalizing t listing v with
  | nil => exact ⟨h, rfl⟩
  | cons e events ih =>
    obtain ⟨he, hrest⟩ := hplaced
    obtain ⟨hmirrors, hreplay⟩ := ih (h.observe he) hrest
    refine ⟨hmirrors, ?_⟩
    rw [observeAll_cons, KeySet.replayAll_append, h.replayAll_observe he, hreplay]

/-! ### What is told -/

/-- No run is resumed any more once a listing was completed. -/
theorem listed_observeAll (h : t.listed = true ∨ .initDone ∈ events) :
    (t.observeAll events).2.listed = true := by
  induction events generalizing t with
  | nil => exact h.resolve_right List.not_mem_nil
  | cons e events ih =>
    refine ih ?_
    rcases h with hlisted | hdone
    · left
      cases e <;> first | exact hlisted | rfl
    · rcases List.mem_cons.1 hdone with rfl | hdone
      · exact Or.inl rfl
      · exact Or.inr hdone

/-- Only before the first listing is complete do runs count as found. -/
theorem not_listed_of_resume {r : Run} (h : .resume r ∈ (t.observe e).1) : t.listed = false := by
  have happear (k : RunKey) : .resume r ∉ appearance t.known k := by
    unfold appearance
    split <;> simp
  cases e with
  | init => cases h
  | initApply r' =>
    cases hlisted : t.listed with
    | false => rfl
    | true =>
      rw [Roster.observe, hlisted] at h
      exact absurd h (happear r'.key)
  | initDone => simp [Roster.observe, deletions] at h
  | apply r' => exact absurd h (happear r'.key)
  | delete r' => simp [Roster.observe] at h

/-- A creation is told alone, and of an unknown run only. -/
theorem unknown_of_appearance {known : KeySet} {k' : RunKey} {told rest : List RunEvent}
    (h : appearance known k' = told ++ .create k :: rest) :
    told = [] ∧ known.contains k = false := by
  unfold appearance at h
  split at h
  · simp at h
  · next hknown =>
    cases told with
    | nil =>
      cases h
      exact ⟨rfl, by simpa using hknown⟩
    | cons first told => simp at h

/-- A run that is reported as created was not known, and it is the first that is reported. -/
theorem unknown_of_create {told rest : List RunEvent}
    (h : (t.observe e).1 = told ++ .create k :: rest) :
    told = [] ∧ t.known.contains k = false := by
  cases e with
  | init => simp [Roster.observe] at h
  | initApply r =>
    rw [Roster.observe] at h
    cases hlisted : t.listed with
    | true =>
      rw [hlisted] at h
      exact unknown_of_appearance h
    | false =>
      rw [hlisted] at h
      cases told with
      | nil => cases h
      | cons first told => simp at h
  | initDone =>
    have hmem : .create k ∈ (t.observe .initDone).1 := by
      rw [h]
      exact List.mem_append_right _ List.mem_cons_self
    simp [Roster.observe, deletions] at hmem
  | apply r => exact unknown_of_appearance h
  | delete r =>
    cases told with
    | nil => cases h
    | cons first told => simp [Roster.observe] at h

/-- A run is created only when the replay of what was told before does not hold it. -/
theorem Mirrors.create_unknown (h : t.Mirrors listing v) (hplaced : AllInPlace listing events)
    {told rest : List RunEvent} (htold : (t.observeAll events).1 = told ++ .create k :: rest) :
    (t.known.replayAll told).contains k = false := by
  induction events generalizing t listing v told with
  | nil => simp at htold
  | cons e events ih =>
    obtain ⟨he, hrest⟩ := hplaced
    rw [observeAll_cons, List.append_eq_append_iff] at htold
    have hlater {told' : List RunEvent} (htold' : told = (t.observe e).1 ++ told')
        (heq : ((t.observe e).2.observeAll events).1 = told' ++ .create k :: rest) :
        (t.known.replayAll told).contains k = false := by
      rw [htold', KeySet.replayAll_append, h.replayAll_observe he]
      exact ih (h.observe he) hrest heq
    rcases htold with ⟨told', htold', heq⟩ | ⟨tail, hfirst, heq⟩
    · exact hlater htold' heq
    · cases tail with
      | nil =>
        have hall : told = (t.observe e).1 ++ [] := by
          rw [hfirst, List.append_nil, List.append_nil]
        exact hlater hall heq.symm
      | cons first tail =>
        cases heq
        obtain ⟨rfl, hunknown⟩ := unknown_of_create hfirst
        exact hunknown

/-- The event starts a monitor for the run, if the run is underway. -/
def Starts (k : RunKey) (e : RunEvent) : Prop := e = .create k ∨ ∃ r, e = .resume r ∧ r.key = k

/-- What a roster tells of the events of a watch are the differences of successive views. -/
structure TellsDifferences (events : List WatchEvent) : Prop where
  /-- Who replays what was told has the runs that the roster knows. -/
  known : ∀ before, before <+: events →
    KeySet.empty.replayAll (Roster.initial.observeAll before).1 =
      (Roster.initial.observeAll before).2.known
  /-- These are the runs of the view when no listing is under way. -/
  view : ∀ before, before <+: events → listingAfterAll false before = false →
    (Roster.initial.observeAll before).2.known = (ClusterView.blank.afterAll before).keys
  /-- Runs are resumed only before a listing was completed. -/
  resumes : ∀ before e r, before ++ [e] <+: events →
    .resume r ∈ ((Roster.initial.observeAll before).2.observe e).1 → .initDone ∉ before
  /-- A run is created only when it is not in the replay. -/
  creates : ∀ told k rest, (Roster.initial.observeAll events).1 = told ++ .create k :: rest →
    (KeySet.empty.replayAll told).contains k = false
  /-- A run that was started is created again only after its deletion was told. -/
  restarts : ∀ told start between k rest, Starts k start →
    (Roster.initial.observeAll events).1 = told ++ start :: (between ++ .create k :: rest) →
    .delete k ∈ between
  /-- When a listing ends, the runs that have vanished are deleted, once each and in order. -/
  vanishes : ∀ before, before ++ [.initDone] <+: events → ∃ gone : List RunKey,
    ((Roster.initial.observeAll before).2.observe .initDone).1 = gone.map .delete ∧
    gone.Pairwise (· < ·) ∧
    ∀ k, k ∈ gone ↔
      (KeySet.empty.replayAll (Roster.initial.observeAll before).1).contains k = true ∧
      (ClusterView.blank.afterAll (before ++ [.initDone])).keys.contains k = false

/-- **What a roster tells is the difference of successive views.** For every sequence of watch
events in which runs are listed and listings completed only during a listing, and changes reported
only outside of one: the replay of what was told gives, after each prefix, the runs that the roster
knows, and these are the view outside of a listing. Runs are resumed only before the first listing
was completed, no run is created that was not deleted since it was last started, and the end of a
listing deletes each vanished run once, in the order of the keys. -/
theorem observeAll_tells_differences (events : List WatchEvent)
    (hplaced : AllInPlace false events) : TellsDifferences events := by
  have hmirrors {before : List WatchEvent} (hbefore : before <+: events) :
      (Roster.initial.observeAll before).2.Mirrors (listingAfterAll false before)
          (ClusterView.blank.afterAll before) ∧
        KeySet.empty.replayAll (Roster.initial.observeAll before).1 =
          (Roster.initial.observeAll before).2.known :=
    mirrors_initial.observeAll (hplaced.of_prefix hbefore)
  have hcreates : ∀ told k rest,
      (Roster.initial.observeAll events).1 = told ++ .create k :: rest →
      (KeySet.empty.replayAll told).contains k = false :=
    fun told k rest htold => mirrors_initial.create_unknown hplaced htold
  constructor
  · intro before hbefore
    exact (hmirrors hbefore).2
  · intro before hbefore hlisting
    exact (hmirrors hbefore).1.known hlisting
  · intro before e r _ hresume hdone
    have hlisted : (Roster.initial.observeAll before).2.listed = true :=
      listed_observeAll (Or.inr hdone)
    cases hlisted.symm.trans (not_listed_of_resume hresume)
  · exact hcreates
  · intro told start between k rest hstart htold
    by_contra hdelete
    have hunknown := hcreates (told ++ start :: between) k rest (by simp [htold])
    have hstarted : (((KeySet.empty.replayAll told).replay start).contains k) = true := by
      rcases hstart with rfl | ⟨r, rfl, rfl⟩ <;> rw [KeySet.replay, KeySet.contains_add, if_pos rfl]
    rw [KeySet.replayAll_append, KeySet.replayAll_cons,
      KeySet.contains_replayAll_of_no_deletion hstarted hdelete] at hunknown
    cases hunknown
  · intro before hbefore
    obtain ⟨hmirror, hreplay⟩ := hmirrors ((List.prefix_append before [.initDone]).trans hbefore)
    have hend := ((allInPlace_append.1 (hplaced.of_prefix hbefore)).2).1
    refine ⟨_, deletions_eq _ _, pairwise_vanished _ _, ?_⟩
    intro k
    rw [mem_vanished_iff, hreplay, hmirror.noted hend, ClusterView.afterAll_concat]
    exact Iff.rfl

/-- A run of the watch below. -/
def sampleRun (name : String) : Run := Run.named "ns" name RunSpec.empty

/-- A first listing is interrupted and begun anew, and does not show the run again that it has shown
before. After some changes a second listing shows that run and misses another. -/
def interruptedWatch : List WatchEvent :=
  [.init, .initApply (sampleRun "a"), .init, .initApply (sampleRun "b"), .initDone,
    .apply (sampleRun "c"), .delete (sampleRun "b"), .init, .initApply (sampleRun "a"), .initDone]

/-- What is told of this watch. -/
theorem observeAll_interruptedWatch :
    (Roster.initial.observeAll interruptedWatch).1 =
        [.resume (sampleRun "a"), .resume (sampleRun "b"), .delete ⟨"ns", "a"⟩,
          .create ⟨"ns", "c"⟩, .delete ⟨"ns", "b"⟩, .create ⟨"ns", "a"⟩, .delete ⟨"ns", "c"⟩] ∧
      AllInPlace false interruptedWatch ∧ TellsDifferences interruptedWatch := by
  have hplaced : AllInPlace false interruptedWatch :=
    ⟨trivial, rfl, trivial, rfl, rfl, rfl, rfl, trivial, rfl, rfl, trivial⟩
  exact ⟨rfl, hplaced, observeAll_tells_differences interruptedWatch hplaced⟩

end Roster

end RunOperator
