import Mathlib.Data.List.Induction
import RunOperator.Proofs.ActionEffects

/-!
# Where the data of a poll comes from

A monitor that lists the pods of its run, or replaces the run, carries what it has learned earlier
in the same poll. The history tells where it has learned it: `CalledAt` points to the move by which
a monitor made a client call and says what has held of the monitor ever since. The two main
statements are `record_of_listing` and `record_of_writing`. The second says how the object that a
monitor is about to write was made from the object that its poll has read and the pods that its
poll has listed.
-/

namespace RunOperator

/-- The monitor is between the reading of the run and the end of the poll. -/
def Monitor.hasRead (m : Monitor) : Bool :=
  match m.phase with
  | .listing _ _ _ | .writing _ _ _ => true
  | _ => false

/-- The monitor is between the listing of the pods and the end of the poll. -/
def Monitor.hasListed (m : Monitor) : Bool :=
  match m.phase with
  | .writing _ _ _ => true
  | _ => false

namespace World

/-- A test holds of a monitor. -/
def Shows (w : World) (number : Nat) (test : Monitor → Bool) : Prop :=
  ∃ m, w.monitors[number]? = some m ∧ test m = true

/-- The move at the given place of the history was a move of the monitor, a client call took effect
with it, and from there to the end of the history the test has held of the monitor. -/
structure CalledAt (w : World) (h : List Action) (number : Nat) (call : ClientCall) (place : Nat)
    (since : Monitor → Bool) : Prop where
  action : h[place]? = some (.monitor number)
  call : (w.afterFirst h place).call? number = some call
  since : ∀ t, place < t → t ≤ h.length → (w.afterFirst h t).Shows number since

variable {w : World} {h : List Action} {a : Action} {number place : Nat} {call : ClientCall}
  {since : Monitor → Bool}

/-- A call lies within the history. -/
theorem CalledAt.lt_length (hcalled : CalledAt w h number call place since) :
    place < h.length :=
  (List.getElem?_eq_some_iff.1 hcalled.action).1

/-- A record is carried on by an action after which its test still holds. -/
theorem CalledAt.concat (hcalled : CalledAt w h number call place since)
    (hlast : (w.after (h ++ [a])).Shows number since) :
    CalledAt w (h ++ [a]) number call place since := by
  have hplace := hcalled.lt_length
  refine ⟨?_, ?_, ?_⟩
  · rw [List.getElem?_append_left hplace]
    exact hcalled.action
  · rw [afterFirst_append w [a] (Nat.le_of_lt hplace)]
    exact hcalled.call
  · intro t hlt ht
    by_cases hle : t ≤ h.length
    · rw [afterFirst_append w [a] hle]
      exact hcalled.since t hlt hle
    · rw [afterFirst_of_length_le]
      · exact hlast
      · simp only [List.length_append, List.length_singleton] at ht ⊢
        omega

/-- A record begins with the move that makes the call. -/
theorem calledAt_last (hcall : (w.after h).call? number = some call)
    (hlast : (w.after (h ++ [.monitor number])).Shows number since) :
    CalledAt w (h ++ [.monitor number]) number call h.length since := by
  refine ⟨by simp, ?_, ?_⟩
  · rwa [afterFirst_length_append]
  · intro t hlt ht
    rw [afterFirst_of_length_le]
    · exact hlast
    · simp only [List.length_append, List.length_singleton]
      omega

/-- The poll that a monitor is in has read the object with the move at the given place. -/
def ReadAt (w : World) (h : List Action) (number : Nat) (k : RunKey) (read : Run)
    (place : Nat) : Prop :=
  CalledAt w h number (.get k) place Monitor.hasRead ∧
    ((w.afterFirst h place).store.get k).1 = .ok read

/-- The poll that a monitor is in has listed the pods with the move at the given place. -/
def ListedAt (w : World) (h : List Action) (number : Nat) (k : RunKey) (pods : List PodPhase)
    (place : Nat) : Prop :=
  CalledAt w h number (.pods k) place Monitor.hasListed ∧
    (w.afterFirst h place).store.podsOf k = pods

/-- What a poll has read stays read while the poll goes on. -/
theorem ReadAt.concat {k : RunKey} {read : Run} (hread : ReadAt w h number k read place)
    (hlast : (w.after (h ++ [a])).Shows number Monitor.hasRead) :
    ReadAt w (h ++ [a]) number k read place := by
  refine ⟨hread.1.concat hlast, ?_⟩
  rw [afterFirst_append w [a] (Nat.le_of_lt hread.1.lt_length)]
  exact hread.2

/-- What a poll has listed stays listed while the poll goes on. -/
theorem ListedAt.concat {k : RunKey} {pods : List PodPhase}
    (hlisted : ListedAt w h number k pods place)
    (hlast : (w.after (h ++ [a])).Shows number Monitor.hasListed) :
    ListedAt w (h ++ [a]) number k pods place := by
  refine ⟨hlisted.1.concat hlast, ?_⟩
  rw [afterFirst_append w [a] (Nat.le_of_lt hlisted.1.lt_length)]
  exact hlisted.2

/-- A monitor that lists pods carries the object that its poll has read, in a state that is not
final. -/
theorem record_of_listing (hw : w.monitors = []) (h : List Action) {m : Monitor} {c : Call}
    {r : Run} {current : RunState} (hm : (w.after h).monitors[number]? = some m)
    (hphase : m.phase = .listing c r current) :
    (∃ place, ReadAt w h number m.lease.key r place) ∧ r.state = .ok current ∧
      current.isFinal = false := by
  induction h using List.reverseRecOn generalizing m c r current with
  | nil => simp [hw] at hm
  | append_singleton h a ih =>
    have hshows : (w.after (h ++ [a])).Shows number Monitor.hasRead :=
      ⟨m, hm, by simp [Monitor.hasRead, hphase]⟩
    rw [after_concat] at hm
    cases fate_of_act hm with
    | kept hkept =>
      obtain ⟨⟨place, hread⟩, hstate, hfinal⟩ := ih hkept hphase
      exact ⟨⟨place, hread.concat hshows⟩, hstate, hfinal⟩
    | moved m₀ ha hm₀ hstep =>
      subst ha
      have hlist := Monitor.step_of_step? hstep
      obtain ⟨hcall, hanswer, hstate, hfinal⟩ := hlist.of_listing hphase
      have hcalled : (w.after h).call? number = some (.get m.lease.key) := by
        rw [call?, hm₀, Option.bind_some, hcall, hlist.lease_eq]
      refine ⟨⟨h.length, calledAt_last hcalled hshows, ?_⟩, hstate, hfinal⟩
      rwa [afterFirst_length_append, hlist.lease_eq]
    | aborted m₀ _ _ heq =>
      rw [heq] at hphase
      cases hphase
    | started lease _ heq =>
      rw [heq] at hphase
      cases hphase

/-- A monitor that replaces its run carries the object that its poll has read, moved to the state
that the evaluation of this object and the pods that its poll has listed asks for. That state is
another one, and the state that was read is not final. -/
theorem record_of_writing (hw : w.monitors = []) (h : List Action) {m : Monitor} {c : Call}
    {r : Run} {target : RunState} (hm : (w.after h).monitors[number]? = some m)
    (hphase : m.phase = .writing c r target) :
    ∃ place read listed pods current wall,
      ReadAt w h number m.lease.key read place ∧ place < listed ∧
      ListedAt w h number m.lease.key pods listed ∧
      read.state = .ok current ∧ current.isFinal = false ∧
      target = evaluate current read.cancelRequested pods ∧ target ≠ current ∧
      r = read.transition current target wall := by
  induction h using List.reverseRecOn generalizing m c r target with
  | nil => simp [hw] at hm
  | append_singleton h a ih =>
    have hshowsRead : (w.after (h ++ [a])).Shows number Monitor.hasRead :=
      ⟨m, hm, by simp [Monitor.hasRead, hphase]⟩
    have hshowsListed : (w.after (h ++ [a])).Shows number Monitor.hasListed :=
      ⟨m, hm, by simp [Monitor.hasListed, hphase]⟩
    rw [after_concat] at hm
    cases fate_of_act hm with
    | kept hkept =>
      obtain ⟨place, read, listed, pods, current, wall, hread, hlt, hlisted, hrest⟩ :=
        ih hkept hphase
      exact ⟨place, read, listed, pods, current, wall, hread.concat hshowsRead, hlt,
        hlisted.concat hshowsListed, hrest⟩
    | moved m₀ ha hm₀ hstep =>
      subst ha
      have hlist := Monitor.step_of_step? hstep
      obtain ⟨hcall, c₀, read, current, hphase₀, htarget, hne, hr⟩ := hlist.of_writing hphase
      obtain ⟨⟨place, hread⟩, hstate, hfinal⟩ := record_of_listing hw h hm₀ hphase₀
      have hcalled : (w.after h).call? number = some (.pods m.lease.key) := by
        rw [call?, hm₀, Option.bind_some, hcall, hlist.lease_eq]
      refine ⟨place, read, h.length, _, current, _, ?_, hread.1.lt_length,
        ⟨calledAt_last hcalled hshowsListed, rfl⟩, hstate, hfinal, ?_, hne, hr⟩
      · rw [hlist.lease_eq]
        exact hread.concat hshowsRead
      · rwa [afterFirst_length_append, hlist.lease_eq]
    | aborted m₀ _ _ heq =>
      rw [heq] at hphase
      cases hphase
    | started lease _ heq =>
      rw [heq] at hphase
      cases hphase

end World

end RunOperator
