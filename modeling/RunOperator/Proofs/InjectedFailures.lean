import Mathlib.Data.List.Induction
import RunOperator.Proofs.Broadcast
import RunOperator.Proofs.StoreViews

/-!
# Failed calls and the errors put in their way

The errors that are put in the way of the reads of a run, or of its replacements, form a queue of
their own (`Lane`). A call takes the first error of its lane and is answered with it; when there is
none, the answer depends on what is stored (`ClientCall.error?_eq`). `failed_calls_are_atomic` shows
that a call that fails changes nothing besides its count and its lane, that a call that is given up
changes nothing at all, and that over any history each error is returned once: the calls of a lane
return its errors in the order in which they were put there.
-/

namespace RunOperator

/-- Calls of one kind about one run, in whose way errors can be put. -/
inductive Lane where
  | reads (key : RunKey)
  | replacements (key : RunKey)
  deriving DecidableEq

/-- The errors that a change puts in the way of a lane. -/
def StoreChange.injected (lane : Lane) : StoreChange → List ClientError
  | .failGets k errors => if lane = .reads k then errors else []
  | .failUpdates k errors => if lane = .replacements k then errors else []
  | _ => []

/-- The client call that a change is. -/
def StoreChange.call? : StoreChange → Option ClientCall
  | .get k => some (.get k)
  | .replace r => some (.replace r)
  | _ => none

/-- The error that a call was answered with. -/
def failureOf {α : Type} : Except ClientError α → Option ClientError
  | .error e => some e
  | .ok _ => none

/-- The map in which the value at a key was changed. -/
theorem KeyMap.getD_insert_getD {α : Type} (m : KeyMap α) (k k' : RunKey) (f : α → α)
    (fallback : α) :
    (m.insert k (f (m.getD k fallback))).getD k' fallback =
      if k = k' then f (m.getD k' fallback) else m.getD k' fallback := by
  rw [getD_insert]
  split
  · next heq => rw [heq]
  · rfl

namespace Store

/-- The errors in the way of a lane. -/
def queue (s : Store) : Lane → List ClientError
  | .reads k => s.getFailures.getD k []
  | .replacements k => s.updateFailures.getD k []

/-- The number of calls in a lane, with those that have failed. -/
def count (s : Store) : Lane → Nat
  | .reads k => s.gets.getD k 0
  | .replacements k => s.updates.getD k 0

/-- What a call does to the counts and the lanes: it is counted, and the first error of its lane is
gone. Other lanes stay as they are. -/
structure Takes (lane : Lane) (s s' : Store) : Prop where
  count : ∀ other, s'.count other = if lane = other then s.count other + 1 else s.count other
  queue : ∀ other, s'.queue other = if lane = other then (s.queue other).tail else s.queue other

/-- What a call that is refused does to the store: it takes the first error of its lane, if there is
one, and nothing else has changed. -/
structure Refused (lane : Lane) (s s' : Store) : Prop extends Takes lane s s' where
  runs : s'.runs = s.runs
  pods : s'.pods = s.pods
  lastVersion : s'.lastVersion = s.lastVersion
  watches : s'.watches = s.watches
  latency : s'.latency = s.latency

variable {s : Store} {k : RunKey} {r : Run} {lane : Lane}

/-- Errors for reads are put at the end of the queue for the reads of the run, and nowhere else. -/
theorem queue_failGets (s : Store) (k : RunKey) (errors : List ClientError) (lane : Lane) :
    (s.failGets k errors).queue lane = s.queue lane ++ if lane = .reads k then errors else [] := by
  cases lane with
  | reads k' =>
    by_cases hk : k = k'
    · simp [queue, failGets, KeyMap.getD_insert, hk]
    · simp [queue, failGets, KeyMap.getD_insert, hk, Ne.symm hk]
  | replacements k' => simp [queue, failGets]

/-- Errors for replacements are put at the end of the queue for the replacements of the run, and
nowhere else. -/
theorem queue_failUpdates (s : Store) (k : RunKey) (errors : List ClientError) (lane : Lane) :
    (s.failUpdates k errors).queue lane =
      s.queue lane ++ if lane = .replacements k then errors else [] := by
  cases lane with
  | reads k' => simp [queue, failUpdates]
  | replacements k' =>
    by_cases hk : k = k'
    · simp [queue, failUpdates, KeyMap.getD_insert, hk]
    · simp [queue, failUpdates, KeyMap.getD_insert, hk, Ne.symm hk]

/-! ### Calls -/

/-- Taking an error from a lane that has none leaves the lane. -/
theorem queue_eq_of_nil (lane : Lane) (hnone : s.queue lane = []) (other : Lane) :
    s.queue other = if lane = other then (s.queue other).tail else s.queue other := by
  split
  · next heq => rw [← heq, hnone, List.tail_nil]
  · rfl

/-- A read that was counted. -/
theorem count_reads (s : Store) (k : RunKey) (other : Lane) :
    ({ s with gets := s.gets.insert k (s.gets.getD k 0 + 1) }).count other =
      if Lane.reads k = other then s.count other + 1 else s.count other := by
  cases other with
  | reads k' => simpa [count] using KeyMap.getD_insert_getD s.gets k k' (· + 1) 0
  | replacements k' => simp [count]

/-- A replacement that was counted. -/
theorem count_replacements (s : Store) (k : RunKey) (other : Lane) :
    ({ s with updates := s.updates.insert k (s.updates.getD k 0 + 1) }).count other =
      if Lane.replacements k = other then s.count other + 1 else s.count other := by
  cases other with
  | reads k' => simp [count]
  | replacements k' => simpa [count] using KeyMap.getD_insert_getD s.updates k k' (· + 1) 0

/-- Reading a run changes nothing but the count and the lane of its reads. -/
theorem refused_get (s : Store) (k : RunKey) : s.Refused (.reads k) (s.get k).2 := by
  unfold get
  dsimp only
  split
  · next e rest hfailures =>
    refine ⟨⟨count_reads s k, ?_⟩, rfl, rfl, rfl, rfl, rfl⟩
    have hrest : rest = (s.getFailures.getD k []).tail := by rw [hfailures, List.tail_cons]
    rintro (k' | k')
    · simpa [queue, hrest] using KeyMap.getD_insert_getD s.getFailures k k' List.tail []
    · simp [queue]
  · next hnone =>
    have hrefused : s.Refused (.reads k)
        { s with gets := s.gets.insert k (s.gets.getD k 0 + 1) } :=
      ⟨⟨count_reads s k, queue_eq_of_nil (.reads k) hnone⟩, rfl, rfl, rfl, rfl, rfl⟩
    split
    · exact hrefused
    · exact hrefused

/-- A replacement takes the first error of its lane. -/
theorem takes_replace (s : Store) (r : Run) : s.Takes (.replacements r.key) (s.replace r).2 := by
  unfold replace
  dsimp only
  split
  · next e rest hfailures =>
    refine ⟨count_replacements s r.key, ?_⟩
    have hrest : rest = (s.updateFailures.getD r.key []).tail := by rw [hfailures, List.tail_cons]
    rintro (k' | k')
    · simp [queue]
    · simpa [queue, hrest] using KeyMap.getD_insert_getD s.updateFailures r.key k' List.tail []
  · next hnone =>
    have htakes : s.Takes (.replacements r.key)
        { s with updates := s.updates.insert r.key (s.updates.getD r.key 0 + 1) } :=
      ⟨count_replacements s r.key, queue_eq_of_nil (.replacements r.key) hnone⟩
    split
    · exact htakes
    · split
      · exact ⟨htakes.count, htakes.queue⟩
      · exact htakes

private theorem pods_replace (s : Store) (r : Run) : (s.replace r).2.pods = s.pods := by
  unfold replace
  dsimp only
  split
  · rfl
  · split
    · rfl
    · split <;> rfl

/-- A replacement leaves the latency as it is. -/
theorem latency_replace (s : Store) (r : Run) : (s.replace r).2.latency = s.latency := by
  unfold replace
  dsimp only
  split
  · rfl
  · split
    · rfl
    · split <;> rfl

/-- A replacement that fails changes nothing but the count and the lane of the replacements. -/
theorem refused_replace {e : ClientError} (h : (s.replace r).1 = .error e) :
    s.Refused (.replacements r.key) (s.replace r).2 where
  toTakes := takes_replace s r
  runs := (runs_replace_of_error h).1
  pods := pods_replace s r
  lastVersion := (runs_replace_of_error h).2
  watches := by
    have hnews : s.news (.replace r) = none := by rw [news, h]; rfl
    rw [watches_replace, hnews]
    rfl
  latency := latency_replace s r

end Store

namespace ClientCall

variable {s : Store} {call : ClientCall} {lane : Lane}

/-- The lane of a call. No errors can be put in the way of listing pods. -/
def lane? : ClientCall → Option Lane
  | get k => some (.reads k)
  | pods _ => none
  | replace r => some (.replacements r.key)

/-- The error that a call is answered with. -/
def error? (s : Store) : ClientCall → Option ClientError
  | get k => failureOf (s.get k).1
  | pods _ => none
  | replace r => failureOf (s.replace r).1

/-- The error of a call in whose way there is none: the run is not stored, or it is replaced by an
object that was made from another version. -/
def refusal? (s : Store) : ClientCall → Option ClientError
  | get k => if s.runs.contains k then none else some (.runNotFound k)
  | pods _ => none
  | replace r =>
    match s.runs.get? r.key with
    | none => some (.runNotFound r.key)
    | some stored =>
      if r.metadata.resourceVersion = stored.metadata.resourceVersion then none
      else some (.conflict r.key)

/-- A call is answered with the first error of its lane, if there is one, and otherwise by what is
stored. -/
theorem error?_eq (hlane : call.lane? = some lane) :
    call.error? s = (s.queue lane).head?.or (call.refusal? s) := by
  cases call with
  | pods k => cases hlane
  | get k =>
    cases hlane
    simp only [error?, refusal?, Store.queue, Store.get, KeyMap.contains]
    split
    · next e rest hfailures => rw [hfailures]; rfl
    · next hnone =>
      rw [hnone]
      split
      · next r hr => simp [hr, failureOf]
      · next hr => simp [hr, failureOf]
  | replace r =>
    cases hlane
    simp only [error?, refusal?, Store.queue, Store.replace]
    split
    · next e rest hfailures => rw [hfailures]; rfl
    · next hnone =>
      rw [hnone]
      cases s.runs.get? r.key with
      | none => rfl
      | some stored =>
        dsimp only
        split
        · rfl
        · rfl

/-- What a call does to a lane is taking the first error from its queue, or nothing. -/
theorem takes_effect (hlane : call.lane? = some lane) : s.Takes lane (call.effect s) := by
  cases call with
  | pods k => cases hlane
  | get k =>
    cases hlane
    exact (s.refused_get k).toTakes
  | replace r =>
    cases hlane
    exact s.takes_replace r

/-- A call that fails changes nothing but its count and its lane. -/
theorem exists_refused_effect {e : ClientError} (herror : call.error? s = some e) :
    ∃ lane, call.lane? = some lane ∧ s.Refused lane (call.effect s) := by
  cases call with
  | pods k => cases herror
  | get k => exact ⟨.reads k, rfl, s.refused_get k⟩
  | replace r =>
    refine ⟨.replacements r.key, rfl, ?_⟩
    rw [error?] at herror
    cases hanswer : (s.replace r).1 with
    | ok written =>
      rw [hanswer] at herror
      cases herror
    | error e => exact Store.refused_replace hanswer

end ClientCall

/-- A change adds its errors at the end of the lane, and takes the first one from it if it is a call
of the lane. -/
theorem Store.queue_change (s : Store) (c : StoreChange) (lane : Lane) :
    (s.change c).queue lane =
      (if c.call?.bind ClientCall.lane? = some lane then (s.queue lane).tail else s.queue lane) ++
        c.injected lane := by
  have hcall (call : ClientCall) {own : Lane} (hown : call.lane? = some own) :
      (call.effect s).queue lane = (if some own = some lane then (s.queue lane).tail
        else s.queue lane) ++ [] := by
    rw [(ClientCall.takes_effect hown).queue lane, List.append_nil]
    simp only [Option.some.injEq]
  have hadded {added : List ClientError}
      (hqueue : (s.change c).queue lane = s.queue lane ++ added) : (s.change c).queue lane =
        (if (none : Option Lane) = some lane then (s.queue lane).tail else s.queue lane) ++
          added := by
    rw [hqueue, if_neg (by simp)]
  have hkept (hqueue : (s.change c).queue lane = s.queue lane) : (s.change c).queue lane =
      (if (none : Option Lane) = some lane then (s.queue lane).tail else s.queue lane) ++ [] :=
    hadded (hqueue.trans (List.append_nil _).symm)
  cases c with
  | get k => exact hcall (.get k) rfl
  | replace r => exact hcall (.replace r) rfl
  | failGets k errors => exact hadded (s.queue_failGets k errors lane)
  | failUpdates k errors => exact hadded (s.queue_failUpdates k errors lane)
  | delete k =>
    refine hkept ?_
    simp only [change, delete]
    split <;> cases lane <;> rfl
  | modify k edit =>
    refine hkept ?_
    simp only [change, modify]
    split <;> cases lane <;> rfl
  | _ => exact hkept (by cases lane <;> rfl)

/-- A change is counted if it is a call of the lane. -/
theorem Store.count_change (s : Store) (c : StoreChange) (lane : Lane) :
    (s.change c).count lane =
      s.count lane + if c.call?.bind ClientCall.lane? = some lane then 1 else 0 := by
  have hcall (call : ClientCall) {own : Lane} (hown : call.lane? = some own) :
      (call.effect s).count lane =
        s.count lane + if some own = some lane then 1 else 0 := by
    rw [(ClientCall.takes_effect hown).count lane]
    simp only [Option.some.injEq]
    split <;> rfl
  cases c with
  | get k => exact hcall (.get k) rfl
  | replace r => exact hcall (.replace r) rfl
  | delete k =>
    simp only [change, delete]
    split <;> cases lane <;> rfl
  | modify k edit =>
    simp only [change, modify]
    split <;> cases lane <;> rfl
  | _ => cases lane <;> rfl

/-- The errors that an action puts in the way of a lane. -/
def Action.injected (lane : Lane) : Action → List ClientError
  | .store c => c.injected lane
  | _ => []

namespace World

variable {w : World} {a : Action} {call : ClientCall} {lane : Lane} {h : List Action}

/-- The read or the replacement that is complete with an action, and is answered. -/
def answered? (w : World) (a : Action) : Option ClientCall := (w.change? a).bind StoreChange.call?

/-- A call that is answered has its effect at once. -/
theorem store_act_of_answered (hcall : w.answered? a = some call) :
    (w.act a).store = call.effect w.store := by
  obtain ⟨c, hchange, hc⟩ := Option.bind_eq_some_iff.1 hcall
  have hloop : ∀ n, a ≠ .loop n := by
    rintro n rfl
    cases hchange
  rw [store_act_eq hloop, hchange, Option.elim_some]
  cases c <;> cases hc <;> rfl

/-- What an action does to a lane. -/
theorem queue_act (w : World) (a : Action) (lane : Lane) :
    (w.act a).store.queue lane =
      (if (w.answered? a).bind ClientCall.lane? = some lane then (w.store.queue lane).tail
        else w.store.queue lane) ++ a.injected lane := by
  have hchange (hloop : ∀ n, a ≠ .loop n)
      (hinjected : a.injected lane = (w.change? a).elim [] (StoreChange.injected lane)) :
      (w.act a).store.queue lane =
        (if (w.answered? a).bind ClientCall.lane? = some lane then (w.store.queue lane).tail
          else w.store.queue lane) ++ a.injected lane := by
    rw [store_act_eq hloop, hinjected, answered?]
    cases w.change? a with
    | none => simp
    | some c => exact w.store.queue_change c lane
  cases a with
  | loop n =>
    have hqueue : (w.act (.loop n)).store.queue lane = w.store.queue lane := by
      rw [store_act_loop_eq]
      cases w.reading? n <;> cases lane <;> rfl
    rw [hqueue]
    simp [answered?, change?, Action.injected]
  | monitor n =>
    refine hchange (by simp) ?_
    rw [change?]
    split <;> rfl
  | _ => exact hchange (by simp) rfl

/-- The calls of a lane that an action makes: one or none. -/
def callsIn (w : World) (lane : Lane) (a : Action) : Nat :=
  if (w.answered? a).bind ClientCall.lane? = some lane then 1 else 0

/-- Calls are counted in their lanes. -/
theorem count_act (w : World) (a : Action) (lane : Lane) :
    (w.act a).store.count lane = w.store.count lane + w.callsIn lane a := by
  have hchange (hloop : ∀ n, a ≠ .loop n) :
      (w.act a).store.count lane = w.store.count lane + w.callsIn lane a := by
    rw [store_act_eq hloop, callsIn, answered?]
    cases w.change? a with
    | none => simp
    | some c => exact w.store.count_change c lane
  cases a with
  | loop n =>
    rw [store_act_loop_eq]
    cases w.reading? n <;> cases lane <;> rfl
  | _ => exact hchange (by simp)

/-- The errors that a history puts in the way of a lane, in their order. -/
def injected (lane : Lane) (h : List Action) : List ClientError := h.flatMap (Action.injected lane)

private theorem injected_concat (lane : Lane) (h : List Action) (a : Action) :
    injected lane (h ++ [a]) = injected lane h ++ a.injected lane := by
  simp [injected]

/-- The errors of a lane that were put there before a place of a history and not returned before it,
if the given ones are those that were returned, each with its place. -/
def outstanding (lane : Lane) (h : List Action) (returned : List (Nat × ClientError))
    (place : Nat) : List ClientError :=
  (injected lane (h.take place)).drop (returned.filter fun p => p.1 < place).length

/-- The errors that the calls of a lane returned in a history because they were put in their way,
each with the place of its call. -/
structure Returns (w : World) (lane : Lane) (h : List Action)
    (returned : List (Nat × ClientError)) : Prop where
  /-- No call returns two of them. -/
  increasing : (returned.map Prod.fst).Pairwise (· < ·)
  /-- Those that were put there are those that were returned, in the same order, and then those that
  are still in the way. -/
  conserved : injected lane h = returned.map Prod.snd ++ (w.after h).store.queue lane
  /-- Each was the answer to a call of the lane. -/
  genuine : ∀ place e, (place, e) ∈ returned → ∃ a call, h[place]? = some a ∧
    (w.afterFirst h place).answered? a = some call ∧ call.lane? = some lane ∧
    call.error? (w.afterFirst h place).store = some e
  /-- Every call of the lane returns the next one, and if there is none its answer depends on what is
  stored. -/
  next : ∀ place a call, h[place]? = some a → (w.afterFirst h place).answered? a = some call →
    call.lane? = some lane →
    match outstanding lane h returned place with
    | e :: _ => (place, e) ∈ returned
    | [] => (∀ e, (place, e) ∉ returned) ∧
      call.error? (w.afterFirst h place).store = call.refusal? (w.afterFirst h place).store

/-- Errors are returned at places within the history. -/
theorem Returns.lt_length {returned : List (Nat × ClientError)} (hr : w.Returns lane h returned)
    {p : Nat × ClientError} (hp : p ∈ returned) : p.1 < h.length := by
  obtain ⟨a, _, ha, -⟩ := hr.genuine p.1 p.2 hp
  exact (List.getElem?_eq_some_iff.1 ha).1

/-- The outstanding errors are those in the way. -/
theorem Returns.outstanding_length {returned : List (Nat × ClientError)}
    (hr : w.Returns lane h returned) :
    outstanding lane h returned h.length = (w.after h).store.queue lane := by
  have hall : (returned.filter fun p => p.1 < h.length) = returned := by
    rw [List.filter_eq_self]
    intro p hp
    exact decide_eq_true (hr.lt_length hp)
  have hlength : returned.length = (returned.map Prod.snd).length := by rw [List.length_map]
  rw [outstanding, hall, List.take_length, hr.conserved, hlength, List.drop_left]

/-- What is outstanding at a place does not depend on what comes later. -/
theorem outstanding_append {returned extra : List (Nat × ClientError)} {place : Nat}
    (more : List Action) (hplace : place ≤ h.length) (hextra : ∀ p ∈ extra, h.length ≤ p.1) :
    outstanding lane (h ++ more) (returned ++ extra) place = outstanding lane h returned place := by
  have hlater : (extra.filter fun p => p.1 < place) = [] := by
    rw [List.filter_eq_nil_iff]
    intro p hp hlt
    have hge := hextra p hp
    have hlt := of_decide_eq_true hlt
    omega
  rw [outstanding, List.filter_append, hlater, List.append_nil,
    List.take_append_of_le_length hplace, outstanding]

/-- The error that an action takes from a lane, with the place of the action. -/
def takes (w : World) (lane : Lane) (place : Nat) (a : Action) : List (Nat × ClientError) :=
  if (w.answered? a).bind ClientCall.lane? = some lane then
    (w.store.queue lane).head?.toList.map (place, ·)
  else []

/-- What an action takes from a queue is its first error, at the place of the action. -/
theorem mem_takes {place : Nat} {p : Nat × ClientError} :
    p ∈ w.takes lane place a ↔ p.1 = place ∧
      (w.answered? a).bind ClientCall.lane? = some lane ∧
      (w.store.queue lane).head? = some p.2 := by
  obtain ⟨i, e⟩ := p
  unfold takes
  split
  · next hlane =>
    simp only [List.mem_map, Option.mem_toList, Prod.mk.injEq, hlane, true_and]
    constructor
    · rintro ⟨e', he', rfl, rfl⟩
      exact ⟨rfl, he'⟩
    · rintro ⟨rfl, he⟩
      exact ⟨e, he, rfl, rfl⟩
  · next hlane => simp [hlane]

private theorem pairwise_takes (w : World) (lane : Lane) (place : Nat) (a : Action) :
    ((w.takes lane place a).map Prod.fst).Pairwise (· < ·) := by
  unfold takes
  split
  · cases (w.store.queue lane).head? <;> simp
  · exact List.Pairwise.nil

/-- What is taken from a lane and what is left of it is the lane. -/
theorem takes_append_queue (w : World) (lane : Lane) (place : Nat) (a : Action) :
    (w.takes lane place a).map Prod.snd ++ (w.act a).store.queue lane =
      w.store.queue lane ++ a.injected lane := by
  rw [queue_act, takes]
  split
  · cases w.store.queue lane <;> simp
  · simp

/-- An action of a longer history is one of the earlier ones or the last. -/
theorem getElem?_history_cases {b : Action} {place : Nat} (hb : (h ++ [a])[place]? = some b) :
    place < h.length ∧ h[place]? = some b ∨ place = h.length ∧ b = a := by
  rw [List.getElem?_append] at hb
  split at hb
  · next hlt => exact Or.inl ⟨hlt, hb⟩
  · rw [List.getElem?_singleton] at hb
    split at hb
    · exact Or.inr ⟨by omega, (Option.some.inj hb).symm⟩
    · cases hb

/-- With one more action the error that it takes from the lane is returned. -/
theorem Returns.concat {returned : List (Nat × ClientError)} (hr : w.Returns lane h returned)
    (a : Action) :
    w.Returns lane (h ++ [a]) (returned ++ (w.after h).takes lane h.length a) := by
  have hlast : ∀ p ∈ (w.after h).takes lane h.length a, p.1 = h.length :=
    fun p hp => (mem_takes.1 hp).1
  have hbefore {place : Nat} (hle : place ≤ h.length) :
      outstanding lane (h ++ [a]) (returned ++ (w.after h).takes lane h.length a) place =
        outstanding lane h returned place :=
    outstanding_append [a] hle fun p hp => Nat.le_of_eq (hlast p hp).symm
  constructor
  case increasing =>
    rw [List.map_append, List.pairwise_append]
    refine ⟨hr.increasing, pairwise_takes _ _ _ _, ?_⟩
    intro i hi j hj
    obtain ⟨p, hp, rfl⟩ := List.mem_map.1 hi
    obtain ⟨q, hq, rfl⟩ := List.mem_map.1 hj
    rw [hlast q hq]
    exact hr.lt_length hp
  case conserved =>
    rw [injected_concat, after_concat, List.map_append, List.append_assoc, takes_append_queue,
      hr.conserved, List.append_assoc]
  case genuine =>
    intro place e hmem
    rcases List.mem_append.1 hmem with hmem | hmem
    · obtain ⟨b, call, hb, hcall, hlane, herror⟩ := hr.genuine place e hmem
      have hlt := hr.lt_length hmem
      rw [List.getElem?_append_left hlt, afterFirst_append w [a] (Nat.le_of_lt hlt)]
      exact ⟨b, call, hb, hcall, hlane, herror⟩
    · obtain ⟨rfl, hlane, hhead⟩ := mem_takes.1 hmem
      obtain ⟨call, hcall, hown⟩ := Option.bind_eq_some_iff.1 hlane
      rw [afterFirst_length_append]
      refine ⟨a, call, List.getElem?_concat_length, hcall, hown, ?_⟩
      rw [ClientCall.error?_eq hown, hhead, Option.some_or]
  case next =>
    intro place b call hb hcall hlane
    -- An earlier call has the same answer as before; the last one meets what is left in the lane.
    rcases getElem?_history_cases hb with ⟨hlt, hb⟩ | ⟨rfl, rfl⟩
    · rw [afterFirst_append w [a] (Nat.le_of_lt hlt)] at hcall ⊢
      have hnext := hr.next place b call hb hcall hlane
      rw [hbefore (Nat.le_of_lt hlt)]
      split at hnext
      · exact List.mem_append_left _ hnext
      · refine ⟨fun e hmem => ?_, hnext.2⟩
        rcases List.mem_append.1 hmem with hmem | hmem
        · exact hnext.1 e hmem
        · exact Nat.ne_of_lt hlt (hlast _ hmem)
    · rw [afterFirst_length_append] at hcall ⊢
      rw [hbefore (Nat.le_refl _), hr.outstanding_length]
      have hown : ((w.after h).answered? b).bind ClientCall.lane? = some lane := by
        rw [hcall, Option.bind_some, hlane]
      cases hqueue : (w.after h).store.queue lane with
      | cons e rest =>
        refine List.mem_append_right _ (mem_takes.2 ⟨rfl, hown, ?_⟩)
        rw [hqueue, List.head?_cons]
      | nil =>
        refine ⟨fun e hmem => ?_, ?_⟩
        · rcases List.mem_append.1 hmem with hmem | hmem
          · exact Nat.lt_irrefl _ (hr.lt_length hmem)
          · have hhead := (mem_takes.1 hmem).2.2
            rw [hqueue] at hhead
            cases hhead
        · rw [ClientCall.error?_eq hlane, hqueue, List.head?_nil, Option.none_or]

/-- The calls of a lane that begins without errors return what is put in their way. -/
theorem exists_returns (hempty : w.store.queue lane = []) (h : List Action) :
    ∃ returned, w.Returns lane h returned := by
  induction h using List.reverseRecOn with
  | nil =>
    refine ⟨[], List.Pairwise.nil, hempty.symm, ?_, ?_⟩
    · intro place e hmem
      cases hmem
    · intro place a call ha
      cases ha
  | append_singleton h a ih =>
    obtain ⟨returned, hr⟩ := ih
    exact ⟨_, hr.concat a⟩

/-! ### The main statement -/

/-- Calls that fail or are given up leave the store as it is. -/
structure FailsCleanly (w : World) : Prop where
  /-- A replacement succeeds exactly if no error is in its way, the run is stored, and the object was
  made from the stored version. -/
  succeeds : ∀ r, (∃ written, (w.store.replace r).1 = .ok written) ↔
    w.store.queue (.replacements r.key) = [] ∧ ∃ stored, w.store.runs.get? r.key = some stored ∧
      r.metadata.resourceVersion = stored.metadata.resourceVersion
  /-- A call that is answered with an error changes its count and its lane only. -/
  refused : ∀ a call e, w.answered? a = some call → call.error? w.store = some e →
    ∃ lane, call.lane? = some lane ∧ w.store.Refused lane (w.act a).store
  /-- A call under way has no effect as long as it is not complete, nor when its monitor was
  cancelled or its time limit is over first. -/
  dropped : ∀ number m c, w.monitors[number]? = some m → m.phase.call? = some c →
    (w.clock < c.completion ∨ w.registry.isCancelled m.lease.id = true ∨
      c.limit < c.completion) →
    (w.act (.monitor number)).store = w.store
  /-- A call that ends because its monitor is aborted has no effect. -/
  aborted : ∀ number, (w.act (.abort number)).store = w.store

/-- A call that takes effect is complete within its limit, and its monitor was not cancelled. -/
theorem call?_eq_none {number : Nat} {m : Monitor} {c : Call}
    (hm : w.monitors[number]? = some m) (hc : m.phase.call? = some c)
    (hdropped : w.clock < c.completion ∨ w.registry.isCancelled m.lease.id = true ∨
      c.limit < c.completion) : w.call? number = none := by
  have heffect : w.registry.isCancelled m.lease.id = false → c.takesEffect w.clock = false := by
    intro hlive
    rw [Bool.eq_false_iff, Ne, Call.takesEffect_iff]
    rintro ⟨hdue, htimesOut⟩
    have hlimit : ¬ c.limit < c.completion := of_decide_eq_false htimesOut
    rw [Call.due] at hdue
    rcases hdropped with hearly | hcancelled | hlate
    · omega
    · cases hlive.symm.trans hcancelled
    · exact hlimit hlate
  rw [call?, hm, Option.bind_some, Monitor.call?]
  split
  · rfl
  · next hlive =>
    have hnone := heffect (by simpa using hlive)
    cases hphase : m.phase <;>
      simp only [hphase, Phase.call?, reduceCtorEq, Option.some.injEq] at hc
    all_goals
      subst hc
      simp [hnone]

/-- In every world failed calls leave everything but their counters and queues as it was. -/
theorem failsCleanly (w : World) : w.FailsCleanly where
  succeeds r := by
    constructor
    · rintro ⟨written, hwritten⟩
      obtain ⟨hnone, hstored, -⟩ := Store.replace_eq_ok_iff.1 hwritten
      exact ⟨hnone, hstored⟩
    · rintro ⟨hnone, hstored⟩
      exact ⟨_, Store.replace_eq_ok_iff.2 ⟨hnone, hstored, rfl⟩⟩
  refused a call e hcall herror := by
    rw [store_act_of_answered hcall]
    exact ClientCall.exists_refused_effect herror
  dropped number m c hm hc hdropped := by
    rw [store_act_monitor, call?_eq_none hm hc hdropped]
    rfl
  aborted number := by
    rcases act_abort_cases w number with heq | ⟨m, -, -, heq⟩ <;> rw [heq]
    rfl

/-- **Failed calls are atomic, and each error that was put in their way is returned once.** After any
history, whether a replacement succeeds depends on the errors in its way and on the stored version
alone; a call that fails changes its count and its lane, and a call that is given up before it is
complete changes nothing at all. Over the history, the calls of each lane return the errors of the
lane, one each and in their order, and no other call does. -/
theorem failed_calls_are_atomic (settings : Settings) (wall : Instant) (h : List Action) :
    ((initial settings wall).after h).FailsCleanly ∧
      ∀ lane, ∃ returned, (initial settings wall).Returns lane h returned := by
  refine ⟨failsCleanly _, ?_⟩
  intro lane
  refine exists_returns ?_ h
  cases lane <;> rfl

end World

end RunOperator
