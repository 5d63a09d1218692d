import Mathlib.Data.List.Induction
import RunOperator.Proofs.Broadcast

/-!
# A watch is a replica of the store

Who follows the events of a watch from its start has at any time exactly the runs that are stored in
the scope of the watch, with their versions (`World.replica_of_watch`). The watch may have been
opened at any point of a history, beside any number of others, and its events may have been taken by
a loop, by someone else, or not yet. What is refused tells it nothing, and only the end of all
watches ends it.
-/

namespace RunOperator

namespace Replica

variable {m : KeyMap Run} {k : RunKey} {e : WatchEvent} {scope : Option String}

/-- The runs after an event: a listing begins without runs, a run that is listed or applied takes
its place under its key, and a run that is deleted goes. -/
def follow (m : KeyMap Run) : WatchEvent → KeyMap Run
  | .init => .empty
  | .initApply r | .apply r => m.insert r.key r
  | .initDone => m
  | .delete r => m.erase r.key

/-- The runs that some events show. -/
def ofEvents (events : List WatchEvent) : KeyMap Run := events.foldl follow .empty

/-- Events that follow others are folded into what those leave. -/
theorem ofEvents_append (first second : List WatchEvent) :
    ofEvents (first ++ second) = second.foldl follow (ofEvents first) := List.foldl_append

/-- The runs after some news. -/
def shown (m : KeyMap Run) (news : Option News) : KeyMap Run := news.elim m fun n => follow m n.2

/-- What is in a scope after an event follows from the event and what was there, if the event is
about a run in the scope. It does not depend on an event about another. -/
theorem restrict_follow (hkey : e.key? = some k) :
    (follow m e).restrict (·.inScope scope) =
      if k.inScope scope then follow (m.restrict (·.inScope scope)) e
      else m.restrict (·.inScope scope) := by
  have hinsert (r : Run) : (m.insert r.key r).restrict (·.inScope scope) =
      if r.key.inScope scope then (m.restrict (·.inScope scope)).insert r.key r
      else m.restrict (·.inScope scope) := by
    refine KeyMap.ext_get? fun k' => ?_
    by_cases hk : r.key = k'
    · subst hk
      cases hscope : r.key.inScope scope <;> simp [KeyMap.get?_restrict, hscope]
    · cases hscope : r.key.inScope scope <;>
        simp [KeyMap.get?_restrict, KeyMap.get?_insert, hk]
  cases e with
  | init | initDone => cases hkey
  | initApply r | apply r =>
    cases hkey
    exact hinsert r
  | delete r =>
    cases hkey
    refine KeyMap.ext_get? fun k' => ?_
    by_cases hk : r.key = k'
    · subst hk
      cases hscope : r.key.inScope scope <;>
        simp [follow, KeyMap.get?_restrict, KeyMap.get?_erase, hscope]
    · cases hscope : r.key.inScope scope <;>
        simp [follow, KeyMap.get?_restrict, KeyMap.get?_erase, hk]

/-- The news that a watch hears keep its replica in step. -/
theorem foldl_follow_heard {news : Option News}
    (hkey : ∀ k e, news = some (k, e) → e.key? = some k) :
    (heard scope news).foldl follow (m.restrict (·.inScope scope)) =
      (shown m news).restrict (·.inScope scope) := by
  cases news with
  | none => rfl
  | some n =>
    obtain ⟨k, e⟩ := n
    rw [shown, Option.elim_some, restrict_follow (hkey k e rfl), heard_some]
    split <;> rfl

/-! ### Listings -/

/-- A listing leaves a key as it is if it does not contain it. -/
theorem get?_foldl_initApply_of_not_mem {runs : List Run} (h : ∀ r ∈ runs, r.key ≠ k) :
    ((runs.map .initApply).foldl follow m).get? k = m.get? k := by
  induction runs generalizing m with
  | nil => rfl
  | cons r runs ih =>
    rw [List.map_cons, List.foldl_cons, ih fun r' hr' => h r' (List.mem_cons_of_mem r hr'), follow,
      KeyMap.get?_insert, if_neg (h r List.mem_cons_self)]

/-- After a listing in which no key stands twice, each of its runs is what its key stands for. -/
theorem get?_foldl_initApply_of_mem {runs : List Run} {r : Run}
    (hnodup : (runs.map Run.key).Nodup) (hr : r ∈ runs) :
    ((runs.map .initApply).foldl follow m).get? r.key = some r := by
  induction runs generalizing m with
  | nil => cases hr
  | cons r' runs ih =>
    obtain ⟨hnew, hnodup⟩ := List.nodup_cons.1 hnodup
    rw [List.map_cons, List.foldl_cons]
    rcases List.mem_cons.1 hr with rfl | hr
    · rw [get?_foldl_initApply_of_not_mem, follow, KeyMap.get?_insert_self]
      intro r' hr' heq
      exact hnew (heq ▸ List.mem_map_of_mem hr')
    · exact ih hnodup hr

end Replica

open Replica

namespace Store

variable {s : Store} {c : StoreChange} {scope : Option String} {k : RunKey} {e : WatchEvent}

/-- A listing shows the runs in its scope. -/
theorem Filed.ofEvents_listing (h : s.Filed) (scope : Option String) :
    ofEvents (s.listing scope) = s.runs.restrict (·.inScope scope) := by
  have hlisting : ofEvents (s.listing scope) =
      ((s.list scope .all).map .initApply).foldl follow .empty := by
    rw [listing, ofEvents_append]
    rfl
  refine KeyMap.ext_get? fun k => ?_
  rw [hlisting, KeyMap.get?_restrict]
  by_cases hlisted : ∃ r ∈ s.list scope .all, r.key = k
  · obtain ⟨r, hr, rfl⟩ := hlisted
    obtain ⟨hscope, hstored⟩ := h.mem_list_iff.1 hr
    rw [get?_foldl_initApply_of_mem h.nodup_list hr, if_pos hscope, hstored]
  · rw [get?_foldl_initApply_of_not_mem fun r hr hkey => hlisted ⟨r, hr, hkey⟩]
    split
    · next hscope =>
      cases hstored : s.runs.get? k with
      | none => rfl
      | some r =>
        obtain rfl := h k r hstored
        exact absurd ⟨r, h.mem_list_iff.2 ⟨hscope, hstored⟩, rfl⟩ hlisted
    · rfl

/-- The events of a listing are about runs in its scope. -/
theorem Filed.inScope_of_mem_listing (h : s.Filed) (he : e ∈ s.listing scope)
    (hkey : e.key? = some k) : k.inScope scope = true := by
  simp only [listing, List.cons_append, List.mem_cons, List.mem_append, List.mem_map,
    List.mem_nil_iff, or_false] at he
  obtain rfl | ⟨r, hr, rfl⟩ | rfl := he
  · cases hkey
  · cases hkey
    exact (h.mem_list_iff.1 hr).1
  · cases hkey

/-- The news of a change carry the key that they are told under. -/
theorem Filed.key?_of_news (h : s.Filed) (hc : c.KeepsKeys) (hnews : s.news c = some (k, e)) :
    e.key? = some k := by
  cases c with
  | insert r =>
    cases hnews
    rfl
  | delete k' =>
    obtain ⟨r, hr, heq⟩ := Option.map_eq_some_iff.1 hnews
    cases heq
    exact congrArg some (h k r hr)
  | modify k' edit =>
    obtain ⟨r, hr, heq⟩ := Option.map_eq_some_iff.1 hnews
    cases heq
    exact congrArg some ((hc r).trans (h k r hr))
  | replace r =>
    rw [news] at hnews
    cases hanswer : (s.replace r).1 with
    | error e =>
      rw [hanswer] at hnews
      cases hnews
    | ok written =>
      obtain ⟨-, -, rfl⟩ := replace_eq_ok_iff.1 hanswer
      rw [hanswer] at hnews
      cases hnews
      rfl
  | _ => cases hnews

/-- A change does to the stored runs what its news tell. -/
theorem Filed.runs_change (h : s.Filed) (hc : c.KeepsKeys) :
    (s.change c).runs = shown s.runs (s.news c) := by
  cases c with
  | insert r => rfl
  | delete k =>
    simp only [Store.change, Store.delete, news]
    cases hr : s.runs.get? k with
    | none => rfl
    | some r => exact (congrArg s.runs.erase (h k r hr)).symm
  | modify k edit =>
    simp only [Store.change, Store.modify, news]
    cases hr : s.runs.get? k with
    | none => rfl
    | some r =>
      have hkey : (s.stampVersion (edit r)).key = k := (hc r).trans (h k r hr)
      exact congrArg (fun k' => s.runs.insert k' (s.stampVersion (edit r))) hkey.symm
  | replace r =>
    rw [Store.change, news]
    cases hanswer : (s.replace r).1 with
    | error e => exact (runs_replace_of_error hanswer).1
    | ok written =>
      obtain ⟨-, -, rfl⟩ := replace_eq_ok_iff.1 hanswer
      exact (runs_replace_of_ok hanswer).1
  | get k => exact runs_get s k
  | _ => rfl

end Store

namespace World

variable {w : World} {a : Action}

private theorem keepsKeys_of_change? {c : StoreChange} (ha : ∀ c, a = .store c → c.KeepsKeys)
    (hc : w.change? a = some c) : c.KeepsKeys := by
  cases a with
  | store c' =>
    cases hc
    exact ha c rfl
  | monitor n =>
    simp only [change?] at hc
    split at hc <;> cases hc <;> trivial
  | dispatchWatch scope =>
    cases hc
    trivial
  | _ => cases hc

/-- An action does to the stored runs what its news tell. -/
theorem runs_act_eq_shown (hw : w.store.Filed) (ha : ∀ c, a = .store c → c.KeepsKeys) :
    (w.act a).store.runs = shown w.store.runs (w.news a) := by
  have hother (hloop : ∀ n, a ≠ .loop n) :
      (w.act a).store.runs = shown w.store.runs (w.news a) := by
    rw [store_act_eq hloop, news]
    cases hc : w.change? a with
    | none => rfl
    | some c => exact hw.runs_change (keepsKeys_of_change? ha hc)
  cases a with
  | loop n => exact (w.runs_act (by simp) (by simp)).1
  | _ => exact hother (by simp)

/-- The news that an action makes about a run carries the key of the run. -/
theorem key?_of_news (hw : w.store.Filed) (ha : ∀ c, a = .store c → c.KeepsKeys) (k : RunKey)
    (e : WatchEvent) (hnews : w.news a = some (k, e)) : e.key? = some k := by
  obtain ⟨c, hc, hnews⟩ := Option.bind_eq_some_iff.1 hnews
  exact hw.key?_of_news (keepsKeys_of_change? ha hc) hnews

/-- The events show the stored runs of a scope and tell of no others. -/
structure Mirrors (w : World) (scope : Option String) (events : List WatchEvent) : Prop where
  runs : ofEvents events = w.store.runs.restrict (·.inScope scope)
  inScope : ∀ e ∈ events, ∀ k, e.key? = some k → k.inScope scope = true

/-- An action keeps the events in step with the runs when its news are added to them. -/
theorem Mirrors.act {scope : Option String} {events : List WatchEvent}
    (h : w.Mirrors scope events) (hw : w.store.Filed) (ha : ∀ c, a = .store c → c.KeepsKeys) :
    (w.act a).Mirrors scope (events ++ heard scope (w.news a)) where
  runs := by
    rw [ofEvents_append, h.runs, runs_act_eq_shown hw ha]
    exact foldl_follow_heard (key?_of_news hw ha)
  inScope := by
    intro e he k hkey
    rcases List.mem_append.1 he with he | he
    · exact h.inScope e he k hkey
    · obtain ⟨⟨k', e'⟩, hn, rfl⟩ := List.mem_map.1 he
      obtain ⟨hnews, hscope⟩ := List.mem_filter.1 hn
      have hkey' := key?_of_news hw ha k' e' (Option.mem_toList.1 hnews)
      cases hkey.symm.trans hkey'
      exact hscope

/-- The listing of a watch that an action has opened shows the stored runs. -/
theorem mirrors_listing {scope : Option String} (hw : w.store.Filed)
    (hc : w.change? a = some (.openWatch scope)) :
    (w.act a).Mirrors scope (w.store.listing scope) where
  runs := by
    have hruns : (w.act a).store.runs = w.store.runs := by
      have hloop : ∀ n, a ≠ .loop n := by
        rintro n rfl
        cases hc
      rw [store_act_eq hloop, hc]
      rfl
    rw [hw.ofEvents_listing, hruns]
  inScope _ he _ hkey := hw.inScope_of_mem_listing he hkey

/-- The stream of an open watch shows at any time what is stored in its scope. -/
theorem mirrors_stream (hw : w.store.Filed) (hempty : w.store.watches = []) {h : List Action}
    (hkeys : ∀ c, .store c ∈ h → c.KeepsKeys) {number : Nat} {watch : Watch}
    (hwatch : (w.after h).store.watches[number]? = some watch) (hopen : watch.closed = false) :
    (w.after h).Mirrors watch.scope (w.stream h number) := by
  induction h using List.reverseRecOn generalizing watch with
  | nil => simp [hempty] at hwatch
  | append_singleton h a ih =>
    have hkeys' : ∀ c, .store c ∈ h → c.KeepsKeys :=
      fun c hc => hkeys c (List.mem_append_left _ hc)
    have ha : ∀ c, a = .store c → c.KeepsKeys := by
      rintro c rfl
      exact hkeys c (List.mem_append_right _ List.mem_cons_self)
    have hfiled := filed_after hw hkeys'
    rw [after_concat] at hwatch ⊢
    cases hbefore : (w.after h).store.watches[number]? with
    | none =>
      obtain ⟨scope, hc, rfl⟩ := watch_act_new hbefore hwatch
      rw [stream, taken_concat, taken_eq_nil hbefore, taking_eq_nil hbefore, after_concat,
        Store.pendingOf, hwatch]
      exact mirrors_listing hfiled hc
    | some before =>
      obtain ⟨watch', hwatch', hbecomes⟩ := watch_act hbefore a
      obtain rfl := Option.some.inj (hwatch'.symm.trans hwatch)
      have hopenBefore : before.closed = false := by
        rw [hbecomes.closed, Bool.or_eq_false_iff] at hopen
        exact hopen.1
      rw [stream_concat hbefore hopenBefore, hbecomes.scope]
      exact (ih hkeys' hbefore hopenBefore).act hfiled ha

/-- The action is refused by the store: the run to delete or to change is not there, or the
replacement fails. -/
def Refuses (w : World) : Action → Prop
  | .store (.delete k) | .store (.modify k _) => w.store.runs.get? k = none
  | .store (.replace r) => ∃ e, (w.store.replace r).1 = .error e
  | .monitor n => ∃ r e, w.call? n = some (.replace r) ∧ (w.store.replace r).1 = .error e
  | _ => False

/-- What is refused is no news. -/
theorem news_of_refuses (h : w.Refuses a) : w.news a = none := by
  have hreplace {r : Run} {e : ClientError} (herror : (w.store.replace r).1 = .error e) :
      w.store.news (.replace r) = none := by
    rw [Store.news, herror]
    rfl
  unfold Refuses at h
  split at h
  · simp [news, change?, Store.news, h]
  · simp [news, change?, Store.news, h]
  · obtain ⟨e, herror⟩ := h
    exact hreplace herror
  · obtain ⟨r, e, hcall, herror⟩ := h
    rw [news, change?, hcall]
    exact hreplace herror
  · cases h

/-- Only the end of all watches ends a watch. -/
theorem closes_eq_false (ha : a ≠ .store .closeWatches) : w.closes a = false := by
  cases a with
  | store c =>
    cases c with
    | closeWatches => exact absurd rfl ha
    | _ => rfl
  | monitor n =>
    simp only [closes, change?]
    split <;> rfl
  | _ => rfl

/-- **A watch is a faithful replica of the store.** After any history in which nobody gives a stored
run another key, the events of an open watch from its start, whether they were taken or still wait,
show exactly the runs that are stored in the scope of the watch, and all of them are about runs in
this scope. An action that the store refuses adds no event, and whatever happens next, except that
all watches are ended, leaves the watch open. -/
theorem replica_of_watch (settings : Settings) (wall : Instant) (h : List Action)
    (hkeys : ∀ c, .store c ∈ h → c.KeepsKeys) {number : Nat} {watch : Watch}
    (hwatch : ((initial settings wall).after h).store.watches[number]? = some watch)
    (hopen : watch.closed = false) :
    ofEvents ((initial settings wall).stream h number) =
      ((initial settings wall).after h).store.runs.restrict (·.inScope watch.scope) ∧
    (∀ e ∈ (initial settings wall).stream h number, ∀ k, e.key? = some k →
      k.inScope watch.scope = true) ∧
    (∀ a, ((initial settings wall).after h).Refuses a →
      (initial settings wall).stream (h ++ [a]) number = (initial settings wall).stream h number) ∧
    (∀ a, a ≠ .store .closeWatches → ∃ watch',
      ((initial settings wall).after (h ++ [a])).store.watches[number]? = some watch' ∧
        watch'.scope = watch.scope ∧ watch'.closed = false) := by
  have hmirrors : ((initial settings wall).after h).Mirrors watch.scope
      ((initial settings wall).stream h number) :=
    mirrors_stream Store.filed_empty rfl hkeys hwatch hopen
  refine ⟨hmirrors.runs, hmirrors.inScope, ?_, ?_⟩
  · intro a hrefuses
    rw [stream_concat hwatch hopen, news_of_refuses hrefuses, heard_none, List.append_nil]
  · intro a ha
    obtain ⟨watch', hwatch', hbecomes⟩ := watch_act hwatch a
    refine ⟨watch', by rw [after_concat, hwatch'], hbecomes.scope, ?_⟩
    rw [hbecomes.closed, hopen, closes_eq_false ha]
    rfl

/-- A loop and someone else watch the store, the latter one namespace only. The loop resumes a run,
whose monitor replaces it; another client replaces the run and is refused; a run of another
namespace comes and goes. -/
def watchedHistory : List Action :=
  let a := Run.named "ns" "a" { RunSpec.empty with state := some "QUEUED" }
  let b := Run.named "elsewhere" "a" RunSpec.empty
  [.store (.insert a), .dispatchWatch none, .loop 0, .loop 0, .loop 0, .store (.insert b),
    .store (.openWatch (some "ns")), .store (.setPods a.key [.running]), .store (.drain 1),
    .pass 1000, .monitor 0, .monitor 0, .monitor 0, .monitor 0, .loop 0, .store (.replace a),
    .store (.modify a.key id), .store (.delete b.key), .store (.delete b.key)]

/-- The one who watches the namespace sees the run with its fourth version. -/
theorem replica_after_watchedHistory :
    (∀ c, .store c ∈ watchedHistory → c.KeepsKeys) ∧
    ∃ watch,
      ((initial .standard ⟨0, 0⟩).after watchedHistory).store.watches[1]? = some watch ∧
      watch.scope = some "ns" ∧ watch.closed = false ∧
      ((ofEvents ((initial .standard ⟨0, 0⟩).stream watchedHistory 1)).get? ⟨"ns", "a"⟩).map
        (fun r => (r.spec.state, r.metadata.resourceVersion)) = some (some "RUNNING", some "4") ∧
      ofEvents ((initial .standard ⟨0, 0⟩).stream watchedHistory 1) =
        ((initial .standard ⟨0, 0⟩).after watchedHistory).store.runs.restrict
          (·.inScope watch.scope) ∧
      (∀ e ∈ (initial .standard ⟨0, 0⟩).stream watchedHistory 1, ∀ k, e.key? = some k →
        k.inScope watch.scope = true) ∧
      (∀ a, ((initial .standard ⟨0, 0⟩).after watchedHistory).Refuses a →
        (initial .standard ⟨0, 0⟩).stream (watchedHistory ++ [a]) 1 =
          (initial .standard ⟨0, 0⟩).stream watchedHistory 1) ∧
      (∀ a, a ≠ .store .closeWatches → ∃ watch',
        ((initial .standard ⟨0, 0⟩).after (watchedHistory ++ [a])).store.watches[1]? =
            some watch' ∧
          watch'.scope = watch.scope ∧ watch'.closed = false) := by
  have hkeys : ∀ c, .store c ∈ watchedHistory → c.KeepsKeys := by
    intro c hc
    simp only [watchedHistory, List.mem_cons, Action.store.injEq, reduceCtorEq, false_or,
      List.not_mem_nil, or_false] at hc
    rcases hc with rfl | rfl | rfl | rfl | rfl | rfl | rfl | rfl | rfl
    all_goals first | trivial | exact fun _ => rfl
  exact ⟨hkeys, _, rfl, rfl, rfl, rfl,
    replica_of_watch .standard ⟨0, 0⟩ watchedHistory hkeys rfl rfl⟩

end World

end RunOperator
