import RunOperator.Proofs.Feed

/-!
# What watches are told

An operation of the store makes at most one event, which is told to every open watch in whose scope
its run lies (`Store.tell`). All that an action of a history does to a watch is that events are
taken from its front, that the event of the action is added at its end, and that it is closed when
all watches are (`World.watch_act`).
-/

namespace RunOperator

/-- An event with the key of the run that it is about. -/
abbrev News := RunKey × WatchEvent

/-- What a watch hears of some news: those about runs in its scope. -/
def heard (scope : Option String) (news : Option News) : List WatchEvent :=
  (news.toList.filter fun n => n.1.inScope scope).map Prod.snd

/-- Where there is no news nothing is heard. -/
@[simp] theorem heard_none (scope : Option String) : heard scope none = [] := rfl

/-- A watch hears what lies in its scope. -/
theorem heard_some (scope : Option String) (k : RunKey) (e : WatchEvent) :
    heard scope (some (k, e)) = if k.inScope scope then [e] else [] := by
  cases h : k.inScope scope <;> simp [heard, h]

/-- What a watch can become: some events are taken from its front, it hears some news, and it may be
closed. Of an open watch no event is lost. -/
structure Watch.Becomes (watch : Watch) (taken : List WatchEvent) (news : Option News)
    (closes : Bool) (watch' : Watch) : Prop where
  scope : watch'.scope = watch.scope
  closed : watch'.closed = (watch.closed || closes)
  pending : watch.closed = false →
    taken ++ watch'.pending = watch.pending ++ heard watch.scope news

/-- A watch to which nothing happens stays as it is. -/
theorem Watch.Becomes.refl (watch : Watch) : watch.Becomes [] none false watch where
  scope := rfl
  closed := (Bool.or_false _).symm
  pending _ := by rw [heard_none, List.append_nil, List.nil_append]

/-- The change ends all watches. -/
def StoreChange.closes : StoreChange → Bool
  | .closeWatches => true
  | _ => false

namespace Store

variable {s : Store} {number : Nat} {watch : Watch} {r : Run}

/-- The event that a change makes. A change that is refused makes none. -/
def news (s : Store) : StoreChange → Option News
  | .insert r => some (r.key, .apply (s.stampVersion r))
  | .delete k => (s.runs.get? k).map fun r => (k, .delete r)
  | .modify k edit => (s.runs.get? k).map fun r => (k, .apply (s.stampVersion (edit r)))
  | .replace r => (s.replace r).1.toOption.map fun written => (r.key, .apply written)
  | _ => none

/-- The events that a change takes from a watch. -/
def taking (s : Store) (number : Nat) : StoreChange → List WatchEvent
  | .drain n => if n = number then s.pendingOf number else []
  | _ => []

/-- The watches after some news. -/
def tell (s : Store) (news : Option News) : List Watch :=
  news.elim s.watches fun n => s.watches.map (notify n.1 n.2)

/-- A replacement tells the watches its news. -/
theorem watches_replace (s : Store) (r : Run) :
    (s.replace r).2.watches = s.tell (s.news (.replace r)) := by
  rw [news]
  cases hanswer : (s.replace r).1 with
  | error e =>
    unfold Store.replace at hanswer ⊢
    dsimp only at hanswer ⊢
    split
    · rfl
    · next hfailures =>
      split
      · rfl
      · next stored hstored =>
        split
        · next hversion => simp [hfailures, hstored, hversion] at hanswer
        · rfl
  | ok written =>
    obtain ⟨-, -, rfl⟩ := replace_eq_ok_iff.1 hanswer
    rw [replace_ok hanswer]
    rfl

/-- A change other than those of the watches themselves tells them its news and does nothing else
to them. -/
theorem watches_change {c : StoreChange} (hopen : ∀ scope, c ≠ .openWatch scope)
    (hdrain : ∀ n, c ≠ .drain n) (hclose : c ≠ .closeWatches) :
    (s.change c).watches = s.tell (s.news c) := by
  cases c with
  | insert r => rfl
  | delete k | modify k edit =>
    simp only [change, delete, modify, news]
    cases s.runs.get? k <;> rfl
  | replace r => exact watches_replace s r
  | get k =>
    simp only [change, get]
    split
    · rfl
    · split <;> rfl
  | openWatch scope => exact absurd rfl (hopen scope)
  | drain n => exact absurd rfl (hdrain n)
  | closeWatches => exact absurd rfl hclose
  | setPods k pods | failGets k errors | failUpdates k errors | setLatency latency => rfl

private theorem becomes_of_tell (hwatch : s.watches[number]? = some watch) (news : Option News) :
    ∃ watch', (s.tell news)[number]? = some watch' ∧ watch.Becomes [] news false watch' := by
  cases news with
  | none => exact ⟨watch, hwatch, .refl watch⟩
  | some n =>
    obtain ⟨k, e⟩ := n
    refine ⟨notify k e watch, ?_, ?_⟩
    · rw [tell, Option.elim_some, List.getElem?_map, hwatch, Option.map_some]
    · obtain ⟨scope, pending, closed⟩ := watch
      constructor <;> cases closed <;> cases hscope : k.inScope scope <;>
        simp [notify, heard_some, hscope]

/-- What a change does to a watch. -/
theorem watch_change (hwatch : s.watches[number]? = some watch) (c : StoreChange) :
    ∃ watch', (s.change c).watches[number]? = some watch' ∧
      watch.Becomes (s.taking number c) (s.news c) c.closes watch' := by
  cases c with
  | openWatch scope =>
    have hlt := (List.getElem?_eq_some_iff.1 hwatch).1
    refine ⟨watch, ?_, .refl watch⟩
    exact (List.getElem?_append_left hlt).trans hwatch
  | drain n =>
    by_cases hn : n = number
    · refine ⟨{ watch with pending := [] }, ?_, rfl, (Bool.or_false _).symm, fun _ => ?_⟩
      · simp [change, drain, hn, hwatch]
      · simp [taking, hn, pendingOf, hwatch, news]
    · rw [taking, if_neg hn]
      refine ⟨watch, ?_, .refl watch⟩
      simp [change, drain, hn, hwatch]
  | closeWatches =>
    refine ⟨{ watch with closed := true }, ?_, rfl, (Bool.or_true _).symm,
      (Watch.Becomes.refl watch).pending⟩
    simp [change, closeWatches, hwatch]
  | _ =>
    rw [watches_change (by simp) (by simp) (by simp)]
    exact becomes_of_tell hwatch _

/-- A watch that was not there before a change was opened by it. -/
theorem watch_change_new {c : StoreChange} (hnew : s.watches[number]? = none)
    (hwatch : (s.change c).watches[number]? = some watch) :
    ∃ scope, c = .openWatch scope ∧ watch = ⟨scope, s.listing scope, false⟩ := by
  have htold (heq : (s.change c).watches = s.tell (s.news c)) : False := by
    rw [heq, tell] at hwatch
    cases hnews : s.news c with
    | none => simp [hnews, hnew] at hwatch
    | some n => simp [hnews, hnew] at hwatch
  cases c with
  | openWatch scope =>
    refine ⟨scope, rfl, ?_⟩
    have hle := List.getElem?_eq_none_iff.1 hnew
    have hsingle : [(⟨scope, s.listing scope, false⟩ : Watch)][number - s.watches.length]? =
        some watch := (List.getElem?_append_right hle).symm.trans hwatch
    exact (List.mem_singleton.1 (List.mem_of_getElem? hsingle))
  | drain n => simp [change, drain, List.getElem?_modify, hnew] at hwatch
  | closeWatches => simp [change, closeWatches, hnew] at hwatch
  | _ => exact (htold (watches_change (by simp) (by simp) (by simp))).elim

/-- A loop that takes the next event of a watch. -/
theorem watch_takeEvent (hwatch : s.watches[number]? = some watch) (n : Nat) :
    ∃ watch', (s.takeEvent n).watches[number]? = some watch' ∧
      watch.Becomes (if n = number then (s.pendingOf number).take 1 else []) none false watch' := by
  by_cases hn : n = number
  · refine ⟨{ watch with pending := watch.pending.tail }, ?_, rfl, (Bool.or_false _).symm, ?_⟩
    · simp [takeEvent, hn, hwatch]
    · intro _
      rw [if_pos hn, pendingOf, hwatch, heard_none, List.append_nil, ← List.drop_one]
      exact List.take_append_drop 1 watch.pending
  · rw [if_neg hn]
    refine ⟨watch, ?_, .refl watch⟩
    simp [takeEvent, hn, hwatch]

private theorem takeEvent_of_pendingOf_eq_nil (hnone : s.pendingOf number = []) :
    s.takeEvent number = s := by
  have hwatches : (s.watches.modify number fun w => { w with pending := w.pending.tail }) =
      s.watches := by
    refine List.ext_getElem? fun n => ?_
    rw [List.getElem?_modify]
    by_cases hn : number = n
    · subst hn
      cases hwatch : s.watches[number]? with
      | none => simp
      | some watch =>
        obtain ⟨scope, pending, closed⟩ := watch
        obtain rfl : pending = [] := by simpa [pendingOf, hwatch] using hnone
        simp
    · simp [hn]
  rw [takeEvent, hwatches]

end Store

namespace World

variable {w : World} {number : Nat} {watch : Watch} {a : Action}

/-- The change that an action makes to the store. -/
def change? (w : World) : Action → Option StoreChange
  | .store c => some c
  | .monitor n =>
    match w.call? n with
    | some (.get k) => some (.get k)
    | some (.replace r) => some (.replace r)
    | _ => none
  | .dispatchWatch scope => some (.openWatch scope)
  | _ => none

/-- The watch that a loop takes its next event from. -/
def reading? (w : World) (n : Nat) : Option Nat :=
  match w.loops[n]? with
  | some ⟨.watch number, _, false, false⟩ => some number
  | _ => none

/-- All actions but the moves of loops change the store in one of the ways of `StoreChange`. -/
theorem store_act_eq (hloop : ∀ n, a ≠ .loop n) :
    (w.act a).store = (w.change? a).elim w.store w.store.change := by
  cases a with
  | store c | dispatchWatch scope => rfl
  | monitor n =>
    rw [store_act_monitor, change?]
    cases w.call? n with
    | none => rfl
    | some call => cases call <;> rfl
  | react e =>
    obtain ⟨_, _, heq⟩ := handle_eq w e
    rw [act, heq]
    rfl
  | abort n => rcases act_abort_cases w n with heq | ⟨m, -, -, heq⟩ <;> rw [heq] <;> rfl
  | emit n item =>
    obtain ⟨loops, heq⟩ := act_emit_eq w n item
    rw [heq]
    rfl
  | loop n => exact absurd rfl (hloop n)
  | _ => rfl

/-- A loop takes the next event of the watch that it reads, if there is one. -/
theorem store_act_loop_eq (w : World) (n : Nat) :
    (w.act (.loop n)).store = (w.reading? n).elim w.store w.store.takeEvent := by
  simp only [act, nudgeLoop, moveLoop?, reading?]
  cases w.loops[n]? with
  | none => rfl
  | some l =>
    obtain ⟨input, roster, stopping, ended⟩ := l
    simp only [Option.bind_eq_bind, Option.bind_some]
    cases ended with
    | true => cases stopping <;> cases input <;> rfl
    | false =>
      cases stopping with
      | true => cases input <;> rfl
      | false =>
        cases input with
        | watch number =>
          simp only [Bool.false_eq_true, if_false, Option.elim_some]
          cases hpending : w.store.pendingOf number with
          | nil =>
            rw [Store.takeEvent_of_pendingOf_eq_nil hpending]
            cases w.store.isExhausted number <;> rfl
          | cons e rest => exact store_foldl_handle _ _
        | script pending closed =>
          cases pending with
          | nil => cases closed <;> rfl
          | cons item rest =>
            cases item with
            | error e => rfl
            | ok e => exact store_foldl_handle _ _

/-- The news that an action makes. -/
def news (w : World) (a : Action) : Option News := (w.change? a).bind w.store.news

/-- The events that an action takes from a watch. -/
def taking (w : World) (number : Nat) (a : Action) : List WatchEvent :=
  match a with
  | .loop n => if w.reading? n = some number then (w.store.pendingOf number).take 1 else []
  | a => ((w.change? a).map (w.store.taking number)).getD []

/-- The action ends all watches. -/
def closes (w : World) (a : Action) : Bool := ((w.change? a).map StoreChange.closes).getD false

/-- What an action does to a watch. -/
theorem watch_act (hwatch : w.store.watches[number]? = some watch) (a : Action) :
    ∃ watch', (w.act a).store.watches[number]? = some watch' ∧
      watch.Becomes (w.taking number a) (w.news a) (w.closes a) watch' := by
  have hother (hloop : ∀ n, a ≠ .loop n) :
      ∃ watch', (w.act a).store.watches[number]? = some watch' ∧
        watch.Becomes (((w.change? a).map (w.store.taking number)).getD []) (w.news a)
          (w.closes a) watch' := by
    rw [store_act_eq hloop, news, closes]
    cases w.change? a with
    | none => exact ⟨watch, hwatch, .refl watch⟩
    | some c => exact Store.watch_change hwatch c
  cases a with
  | loop n =>
    rw [store_act_loop_eq, taking]
    cases w.reading? n with
    | none => exact ⟨watch, hwatch, .refl watch⟩
    | some number' =>
      simp only [Option.elim_some, Option.some.injEq]
      exact Store.watch_takeEvent hwatch number'
  | _ => exact hother (by simp)

/-- A watch that was not there before an action was opened by it. -/
theorem watch_act_new (hnew : w.store.watches[number]? = none)
    (hwatch : (w.act a).store.watches[number]? = some watch) :
    ∃ scope, w.change? a = some (.openWatch scope) ∧
      watch = ⟨scope, w.store.listing scope, false⟩ := by
  have hother (hloop : ∀ n, a ≠ .loop n) :
      ∃ scope, w.change? a = some (.openWatch scope) ∧
        watch = ⟨scope, w.store.listing scope, false⟩ := by
    rw [store_act_eq hloop] at hwatch
    cases hchange : w.change? a with
    | none =>
      rw [hchange] at hwatch
      cases hnew.symm.trans hwatch
    | some c =>
      rw [hchange] at hwatch
      obtain ⟨scope, rfl, heq⟩ := Store.watch_change_new hnew hwatch
      exact ⟨scope, rfl, heq⟩
  cases a with
  | loop n =>
    rw [store_act_loop_eq] at hwatch
    cases hreading : w.reading? n with
    | none =>
      rw [hreading] at hwatch
      cases hnew.symm.trans hwatch
    | some number' => simp [hreading, Store.takeEvent, List.getElem?_modify, hnew] at hwatch
  | _ => exact hother (by simp)

/-- Nothing is taken from a watch that is not open yet. -/
theorem taking_eq_nil (hnew : w.store.watches[number]? = none) (a : Action) :
    w.taking number a = [] := by
  have hpending : w.store.pendingOf number = [] := by
    rw [Store.pendingOf, hnew]
    rfl
  have hother : ((w.change? a).map (w.store.taking number)).getD [] = [] := by
    cases w.change? a with
    | none => rfl
    | some c => cases c <;> simp [Store.taking, hpending]
  cases a with
  | loop n => simp [taking, hpending]
  | _ => exact hother

/-! ### Streams -/

/-- The events that were taken from a watch in a history. -/
def taken (w : World) (number : Nat) : List Action → List WatchEvent
  | [] => []
  | a :: h => w.taking number a ++ (w.act a).taken number h

/-- The events of a watch from its start: those that were taken in a history, and those that
wait. -/
def stream (w : World) (h : List Action) (number : Nat) : List WatchEvent :=
  w.taken number h ++ (w.after h).store.pendingOf number

/-- What is taken in a history is what is taken in its first part and in its last action. -/
theorem taken_concat (w : World) (number : Nat) (h : List Action) (a : Action) :
    w.taken number (h ++ [a]) = w.taken number h ++ (w.after h).taking number a := by
  induction h generalizing w with
  | nil => simp [taken]
  | cons b h ih => rw [List.cons_append, taken, taken, ih, after_cons, List.append_assoc]

/-- A watch stays known by its number. -/
theorem exists_watch_after (hwatch : ∃ watch, w.store.watches[number]? = some watch)
    (h : List Action) : ∃ watch, (w.after h).store.watches[number]? = some watch := by
  refine after_invariant (fun w => ∃ watch, w.store.watches[number]? = some watch) ?_ h hwatch
  rintro w a ⟨watch, hwatch⟩
  obtain ⟨watch', hwatch', -⟩ := watch_act hwatch a
  exact ⟨watch', hwatch'⟩

/-- Nothing was taken from a watch that is not there. -/
theorem taken_eq_nil {h : List Action}
    (hnew : (w.after h).store.watches[number]? = none) : w.taken number h = [] := by
  induction h generalizing w with
  | nil => rfl
  | cons a h ih =>
    cases hwatch : w.store.watches[number]? with
    | none => rw [taken, taking_eq_nil hwatch, ih hnew, List.nil_append]
    | some watch =>
      obtain ⟨watch', hwatch'⟩ := exists_watch_after ⟨watch, hwatch⟩ (a :: h)
      cases hnew.symm.trans hwatch'

/-- The stream of an open watch grows by the news that it hears. -/
theorem stream_concat {h : List Action} (hwatch : (w.after h).store.watches[number]? = some watch)
    (hopen : watch.closed = false) (a : Action) :
    w.stream (h ++ [a]) number =
      w.stream h number ++ heard watch.scope ((w.after h).news a) := by
  obtain ⟨watch', hwatch', hbecomes⟩ := watch_act hwatch a
  have hpending : (w.after h).store.pendingOf number = watch.pending := by
    rw [Store.pendingOf, hwatch]
    rfl
  have hpending' : ((w.after h).act a).store.pendingOf number = watch'.pending := by
    rw [Store.pendingOf, hwatch']
    rfl
  rw [stream, stream, taken_concat, after_concat, hpending, hpending', List.append_assoc,
    hbecomes.pending hopen, List.append_assoc]

end World

end RunOperator
