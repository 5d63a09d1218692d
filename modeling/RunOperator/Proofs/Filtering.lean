import Mathlib.Data.List.Basic
import Mathlib.Data.List.Induction
import RunOperator.Proofs.RunFields
import RunOperator.Proofs.StoreEffects

/-!
# What a filter keeps

A filter is built by demands, one after the other. Demands for states and for kinds add up, and of
the demands for a name, for an experiment or against a state the last one stays
(`RunFilter.ofDemands_eq`). `Demand.Meets` says what this asks of the texts that are stored in a
run, without the filter in between, and the filter keeps the runs that meet its demands
(`RunFilter.accepts_ofDemands_iff`).

A text that is not the word of a state is no state. It meets no demand for states, and a demand
against a state is not directed at it, so that the demand for a state and the demand against it
share out all runs (`RunFilter.apply_withStates_perm`). Where every run is stored under its own
key, a listing of one namespace is the part of the listing of all namespaces that lies in it
(`Store.Filed.list_some`).
-/

namespace RunOperator

/-- What one call demands of runs. -/
inductive Demand where
  | name (accepts : String → Bool)
  | states (states : List RunState)
  | notState (state : RunState)
  | experiment (experiment : String)
  | kinds (kinds : List RunKind)

namespace Demand

/-- The filter with one more demand. -/
def addTo (f : RunFilter) : Demand → RunFilter
  | name accepts => f.nameMatching accepts
  | states ss => f.withStates ss
  | notState s => f.excludingState s
  | experiment e => f.forExperiment e
  | kinds ks => f.withKinds ks

/-- The test of a demand on the name. -/
def name? : Demand → Option (String → Bool)
  | name accepts => some accepts
  | _ => none

/-- The state that a demand excludes. -/
def notState? : Demand → Option RunState
  | notState s => some s
  | _ => none

/-- The experiment that a demand asks for. -/
def experiment? : Demand → Option String
  | experiment e => some e
  | _ => none

/-- The last demand of a sort. -/
def last {α : Type} (sort : Demand → Option α) (demands : List Demand) : Option α :=
  (demands.filterMap sort).getLast?

private theorem last_concat {α : Type} (sort : Demand → Option α) (demands : List Demand)
    (d : Demand) : last sort (demands ++ [d]) = (sort d).or (last sort demands) := by
  rw [last, List.filterMap_append, List.getLast?_append, List.filterMap_cons, List.filterMap_nil,
    last]
  cases sort d <;> rfl

/-- The states that are demanded. -/
def allStates (demands : List Demand) : List RunState :=
  demands.flatMap fun
    | states ss => ss
    | _ => []

/-- The kinds that are demanded. -/
def allKinds (demands : List Demand) : List RunKind :=
  demands.flatMap fun
    | kinds ks => ks
    | _ => []

/-- What is stored in the run meets the demands. Demands for no state or no kind at all are
none. -/
structure Meets (demands : List Demand) (r : Run) : Prop where
  name : ∀ accepts ∈ last name? demands,
    accepts (r.metadata.name.getD (r.metadata.generateName.getD "")) = true
  state : allStates demands ≠ [] → ∃ s ∈ allStates demands, r.IsIn s
  notState : ∀ s ∈ last notState? demands, ¬ r.IsIn s
  experiment : ∀ e ∈ last experiment? demands, r.spec.experimentName = some e
  kind : allKinds demands ≠ [] → ∃ k ∈ allKinds demands, r.IsLabelled k

end Demand

namespace RunFilter

variable {f : RunFilter} {r : Run} {s : RunState} {demands : List Demand}

/-! ### The criteria of a filter -/

/-- The test of a filter is put to the name that the run was given, or that its name is made
from. -/
theorem meetsName_iff :
    f.meetsName r = true ↔ ∀ accepts ∈ f.acceptsName,
      accepts (r.metadata.name.getD (r.metadata.generateName.getD "")) = true := by
  rw [meetsName, r.displayName_eq]
  cases f.acceptsName <;> simp

/-- Where states are demanded, the run is in one of them. -/
theorem meetsStates_iff :
    f.meetsStates r = true ↔ (f.states ≠ [] → ∃ s ∈ f.states, r.IsIn s) := by
  simp only [← Run.state_eq_ok_iff]
  unfold meetsStates
  cases f.states <;> cases r.state <;> simp

/-- Where a state is excluded, the run is not in it. -/
theorem meetsExclusion_iff :
    f.meetsExclusion r = true ↔ ∀ s ∈ f.excludedState, ¬ r.IsIn s := by
  simp only [← Run.state_eq_ok_iff]
  unfold meetsExclusion
  cases f.excludedState <;> cases r.state <;> simp

/-- Where an experiment is demanded, it is that of the run. -/
theorem meetsExperiment_iff :
    f.meetsExperiment r = true ↔ ∀ e ∈ f.experiment, r.spec.experimentName = some e := by
  unfold meetsExperiment
  cases f.experiment <;> simp

/-- Where kinds are demanded, the run carries the label of one of them. -/
theorem meetsKinds_iff :
    f.meetsKinds r = true ↔ (f.kinds ≠ [] → ∃ k ∈ f.kinds, r.IsLabelled k) := by
  simp only [← Run.kind_eq_some_iff]
  unfold meetsKinds
  cases f.kinds <;> cases r.kind <;> simp

/-! ### Filters by their demands -/

/-- The filter that makes some demands, one after the other. -/
def ofDemands (demands : List Demand) : RunFilter :=
  demands.foldl (fun f d => d.addTo f) .all

/-- Demands for states and for kinds add up, and of the others the last one stays. -/
theorem ofDemands_eq (demands : List Demand) :
    ofDemands demands = {
      acceptsName := Demand.last Demand.name? demands
      states := Demand.allStates demands
      excludedState := Demand.last Demand.notState? demands
      experiment := Demand.last Demand.experiment? demands
      kinds := Demand.allKinds demands } := by
  induction demands using List.reverseRecOn with
  | nil => rfl
  | append_singleton demands d ih =>
    have hadd : ofDemands (demands ++ [d]) = d.addTo (ofDemands demands) := by
      rw [ofDemands, List.foldl_append]
      rfl
    rw [hadd, ih]
    cases d <;> simp [Demand.addTo, Demand.last_concat, Demand.name?, Demand.notState?,
      Demand.experiment?, Demand.allStates, Demand.allKinds, nameMatching, withStates,
      excludingState, forExperiment, withKinds]

/-- The filter lets those runs pass that meet its demands. -/
theorem accepts_ofDemands_iff :
    (ofDemands demands).accepts r = true ↔ Demand.Meets demands r := by
  simp only [accepts, Bool.and_eq_true, meetsName_iff, meetsStates_iff, meetsExclusion_iff,
    meetsExperiment_iff, meetsKinds_iff, ofDemands_eq]
  constructor
  · rintro ⟨⟨⟨⟨hname, hstate⟩, hnot⟩, hexperiment⟩, hkind⟩
    exact ⟨hname, hstate, hnot, hexperiment, hkind⟩
  · rintro ⟨hname, hstate, hnot, hexperiment, hkind⟩
    exact ⟨⟨⟨⟨hname, hstate⟩, hnot⟩, hexperiment⟩, hkind⟩

instance (demands : List Demand) (r : Run) : Decidable (Demand.Meets demands r) :=
  decidable_of_iff ((ofDemands demands).accepts r = true) accepts_ofDemands_iff

/-! ### A state and all others -/

/-- One more demand for a state keeps the runs that are in it. -/
theorem accepts_withStates_singleton_iff (hstates : f.states = []) :
    (f.withStates [s]).accepts r = true ↔ r.IsIn s ∧ f.accepts r = true := by
  simp only [accepts, Bool.and_eq_true, meetsName_iff, meetsStates_iff, meetsExclusion_iff,
    meetsExperiment_iff, meetsKinds_iff, withStates, hstates, List.nil_append, List.cons_ne_nil,
    List.mem_singleton, exists_eq_left, ne_eq, not_true_eq_false, not_false_eq_true, false_implies,
    true_implies]
  tauto

/-- One more demand against a state keeps the runs that are not in it. -/
theorem accepts_excludingState_iff (hnone : f.excludedState = none) :
    (f.excludingState s).accepts r = true ↔ ¬ r.IsIn s ∧ f.accepts r = true := by
  simp only [accepts, Bool.and_eq_true, meetsName_iff, meetsStates_iff, meetsExclusion_iff,
    meetsExperiment_iff, meetsKinds_iff, excludingState, hnone, Option.mem_some_iff,
    Option.not_mem_none, forall_eq', false_implies, implies_true]
  tauto

/-- The demand for a state and the demand against it share out the runs that pass. -/
theorem apply_withStates_perm (hstates : f.states = []) (hnone : f.excludedState = none)
    (s : RunState) (runs : List Run) :
    ((f.withStates [s]).apply runs ++ (f.excludingState s).apply runs).Perm (f.apply runs) := by
  have hwith : (f.withStates [s]).apply runs =
      (f.apply runs).filter (f.withStates [s]).accepts := by
    rw [apply, apply, List.filter_filter]
    refine List.filter_congr fun r _ => ?_
    rw [Bool.eq_iff_iff, Bool.and_eq_true, accepts_withStates_singleton_iff hstates]
    tauto
  have hwithout : (f.excludingState s).apply runs =
      (f.apply runs).filter fun r => !(f.withStates [s]).accepts r := by
    rw [apply, apply, List.filter_filter]
    refine List.filter_congr fun r _ => ?_
    rw [Bool.eq_iff_iff, Bool.and_eq_true, Bool.not_eq_true', ← Bool.not_eq_true,
      accepts_withStates_singleton_iff hstates, accepts_excludingState_iff hnone]
    tauto
  rw [hwith, hwithout]
  exact List.filter_append_perm _ _

/-- No run passes both the demand for a state and the demand against it. -/
theorem not_mem_apply_excludingState (hstates : f.states = []) (hnone : f.excludedState = none)
    {runs : List Run} (hr : r ∈ (f.withStates [s]).apply runs) :
    r ∉ (f.excludingState s).apply runs := by
  intro hr'
  have hin := (accepts_withStates_singleton_iff hstates).1 (List.mem_filter.1 hr).2
  exact ((accepts_excludingState_iff hnone).1 (List.mem_filter.1 hr').2).1 hin.1

end RunFilter

namespace Store

variable {s : Store} {f : RunFilter}

/-! ### Listings -/

/-- The runs that pass a filter, with the keys under which they are stored. -/
def listed (s : Store) (f : RunFilter) : List (RunKey × Run) :=
  s.runs.entries.filter fun e => f.accepts e.2

/-- A listing is what passes the filter and lies in the scope, in the order of the store. -/
theorem list_eq (s : Store) (scope : Option String) (f : RunFilter) :
    s.list scope f = ((s.listed f).filter fun e => e.1.inScope scope).map Prod.snd := by
  change (List.map Prod.snd (s.runs.entries.filter fun e => e.1.inScope scope)).filter f.accepts = _
  rw [List.filter_map, listed, List.filter_filter, List.filter_filter]
  refine congrArg (List.map Prod.snd) (List.filter_congr fun e _ => ?_)
  exact Bool.and_comm _ _

/-- The listing of all namespaces is all that passes the filter. -/
theorem list_none (s : Store) (f : RunFilter) : s.list none f = (s.listed f).map Prod.snd := by
  rw [list_eq]
  exact congrArg (List.map Prod.snd) (List.filter_eq_self.2 fun _ _ => rfl)

/-- The runs that pass stand in strictly increasing order of the keys they are stored under. -/
theorem pairwise_listed (s : Store) (f : RunFilter) :
    (s.listed f).Pairwise fun a b => a.1 < b.1 :=
  s.runs.increasing.filter _

private theorem Filed.key_of_mem_listed (h : s.Filed) {e : RunKey × Run} (he : e ∈ s.listed f) :
    e.2.key = e.1 :=
  h e.1 e.2 (KeyMap.mem_entries_iff.1 (List.mem_filter.1 he).1)

/-- A listing of one namespace is the part of the listing of all that lies in it. -/
theorem Filed.list_some (h : s.Filed) (ns : String) (f : RunFilter) :
    s.list (some ns) f = (s.list none f).filter fun r => r.key.ns == ns := by
  rw [list_eq, list_none, List.filter_map]
  refine congrArg (List.map Prod.snd) (List.filter_congr fun e he => ?_)
  rw [Function.comp_apply, h.key_of_mem_listed he]
  rfl

/-- Where every run is stored under its own key, listings are in strictly increasing order of the
keys. -/
theorem Filed.pairwise_list (h : s.Filed) (scope : Option String) (f : RunFilter) :
    (s.list scope f).Pairwise fun a b => a.key < b.key := by
  rw [list_eq, List.pairwise_map]
  refine ((s.pairwise_listed f).filter _).imp_of_mem fun {a b} ha hb hlt => ?_
  rwa [h.key_of_mem_listed (List.mem_filter.1 ha).1, h.key_of_mem_listed (List.mem_filter.1 hb).1]

end Store

namespace RunFilter

/-- **A filter keeps exactly the runs that meet its demands.** For any demands, made in any order
and any number of times, the runs that are kept are those that meet them, in the order given and as
often as they were given. A filter without demands on the state is divided by the demand for a state
and the demand against it into two parts that have no run in common and together are the whole. And
a store lists its runs in strictly increasing order of the keys under which they are stored; a
namespace lists the runs among them that are stored in it, which are those that belong to it if
every run is stored under its own key. -/
theorem filters_keep_matching_runs :
    (∀ demands runs, (ofDemands demands).apply runs =
      runs.filter fun r => decide (Demand.Meets demands r)) ∧
    (∀ (f : RunFilter) (s : RunState) (runs : List Run), f.states = [] → f.excludedState = none →
      ((f.withStates [s]).apply runs ++ (f.excludingState s).apply runs).Perm (f.apply runs) ∧
        ∀ r ∈ (f.withStates [s]).apply runs, r ∉ (f.excludingState s).apply runs) ∧
    ∀ (s : Store) (f : RunFilter),
      (s.listed f).Pairwise (fun a b => a.1 < b.1) ∧
      s.list none f = (s.listed f).map Prod.snd ∧
      (∀ ns, s.list (some ns) f = ((s.listed f).filter fun e => e.1.ns == ns).map Prod.snd) ∧
      (s.Filed →
        (∀ ns, s.list (some ns) f = (s.list none f).filter fun r => r.key.ns == ns) ∧
          ∀ scope, (s.list scope f).Pairwise fun a b => a.key < b.key) := by
  refine ⟨fun demands runs => List.filter_congr fun r _ => ?_, fun f s runs hstates hnone => ?_,
    fun s f => ⟨s.pairwise_listed f, s.list_none f, fun ns => s.list_eq (some ns) f, fun h => ?_⟩⟩
  · rw [Bool.eq_iff_iff, decide_eq_true_eq]
    exact accepts_ofDemands_iff
  · exact ⟨apply_withStates_perm hstates hnone s runs,
      fun r hr => not_mem_apply_excludingState hstates hnone hr⟩
  · exact ⟨fun ns => h.list_some ns f, fun scope => h.pairwise_list scope f⟩

/-- A run of an experiment, with the text of a state and the label for a kind where they are
given. -/
def trialRun (ns name experiment : String) (state label : Option String) : Run :=
  let r := Run.named ns name { RunSpec.empty with experimentName := some experiment, state }
  { r with metadata := { r.metadata with labels := label.map fun text => [("runKind", text)] } }

/-- Runs with the label of a kind, with a text that is the word of no kind, and without a label;
with the word of a state, with a text that is the word of no state, and without one. -/
def mixedRuns : List Run :=
  [trialRun "b" "late" "mnist" (some "RUNNING") (some "training"),
    trialRun "a" "broken" "mnist" (some "WHATEVER") (some "training"),
    trialRun "a" "fresh" "mnist" none (some "inference"),
    trialRun "b" "misspelt" "mnist" (some "RUNNING") (some "Training"),
    trialRun "b" "bare" "mnist" (some "RUNNING") none,
    trialRun "a" "notebook" "jupyter" (some "RUNNING") (some "jupyter"),
    trialRun "a" "draft" "mnist" (some "QUEUED") (some "inference"),
    trialRun "b" "done" "mnist" (some "COMPLETE") (some "training")]

/-- The store after the runs were inserted. -/
def mixedStore : Store := mixedRuns.foldl (fun s r => s.change (.insert r)) .empty

/-- Running or queued, for training or inference, of one experiment, not failed and not under one
name. Other demands for the name, the experiment and against a state were made before. -/
def mixedDemands : List Demand :=
  [.name fun _ => false, .kinds [.training], .states [.running], .notState .queued,
    .experiment "jupyter", .kinds [.inference], .states [.queued], .notState .failed,
    .experiment "mnist", .name fun name => name != "draft"]

/-- The run without a state counts as queued. A text that is no state is not hit by an exclusion,
and a text that is no kind is as good as none. -/
theorem filters_keep_mixedRuns :
    all.states = [] ∧ all.excludedState = none ∧ mixedStore.Filed ∧
    (mixedRuns.filter fun r => decide (Demand.Meets mixedDemands r)) =
      (ofDemands mixedDemands).apply mixedRuns ∧
    ((ofDemands mixedDemands).apply mixedRuns).map Run.displayName = ["late", "fresh"] ∧
    ((ofDemands [.kinds [.training], .kinds [.inference]]).apply mixedRuns).map Run.displayName =
      ["late", "broken", "fresh", "draft", "done"] ∧
    ((all.withStates [.running]).apply mixedRuns ++
      (all.excludingState .running).apply mixedRuns).Perm (all.apply mixedRuns) ∧
    ((all.excludingState .running).apply mixedRuns).map Run.displayName =
      ["broken", "fresh", "draft", "done"] ∧
    mixedStore.list (some "a") .all =
      (mixedStore.list none .all).filter (fun r => r.key.ns == "a") ∧
    (mixedStore.list (some "a") (all.withKinds [.inference])).map Run.displayName =
      ["draft", "fresh"] ∧
    (mixedStore.list none .all).map Run.displayName =
      ["broken", "draft", "fresh", "notebook", "bare", "done", "late", "misspelt"] := by
  obtain ⟨hkept, hshared, hlisted⟩ := filters_keep_matching_runs
  have hfiled : mixedStore.Filed :=
    List.foldlRecOn _ _ Store.filed_empty fun _ hs _ _ => hs.change trivial
  exact ⟨rfl, rfl, hfiled, (hkept _ mixedRuns).symm, by decide, by decide,
    (hshared all .running mixedRuns rfl rfl).1, by decide,
    ((hlisted mixedStore .all).2.2.2 hfiled).1 "a", by decide, by decide⟩

end RunFilter

end RunOperator
