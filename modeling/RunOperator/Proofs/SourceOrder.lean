import Mathlib.Data.List.Basic
import RunOperator.Config.Source
import RunOperator.Proofs.Layering

/-!
# The order in which sources are listed

Sources are sorted by precedence before they are loaded, and the sorting is stable. What is loaded
is therefore determined by which sources of each precedence are listed, and in which order
(`Source.Arranges.eq`); how they are mixed with others makes no difference. `Config.loadBy` is the
loading of a configuration by any action on sources. With the action that notes the sources down
(`Source.loadNoted`) it tells which sources are loaded at all, and these are the ones up to the
first that fails (`Config.loadNoted_eq`).
-/

namespace RunOperator

namespace Source

/-! ### Arrangements -/

/-- A reordering of sources that keeps those of one precedence in their order. -/
structure Reorders (sources reordered : List Source) : Prop where
  perm : reordered.Perm sources
  stable : ∀ p, (reordered.filter fun s => s.precedence == p) =
    sources.filter fun s => s.precedence == p

/-- The sources in the order of their precedence, and those of one precedence as they are listed. -/
structure Arranges (sources ordered : List Source) : Prop extends Reorders sources ordered where
  sorted : ordered.Pairwise fun a b => a.precedence ≤ b.precedence

variable {sources sources' ordered ordered' : List Source} {s : Source}

/-- Reordered sources can be put back in their order. -/
theorem Reorders.symm (h : Reorders sources sources') : Reorders sources' sources :=
  ⟨h.perm.symm, fun p => (h.stable p).symm⟩

/-- A reordering of a reordering is a reordering. -/
theorem Reorders.trans (h : Reorders sources sources') (h' : Reorders sources' ordered) :
    Reorders sources ordered :=
  ⟨h'.perm.trans h.perm, fun p => (h'.stable p).trans (h.stable p)⟩

/-- Reorderings that begin with the same source agree behind it. -/
theorem Reorders.of_cons (h : Reorders (s :: sources) (s :: sources')) :
    Reorders sources sources' := by
  refine ⟨h.perm.cons_inv, fun p => ?_⟩
  have hstable := h.stable p
  rw [List.filter_cons, List.filter_cons] at hstable
  split at hstable
  · exact (List.cons.inj hstable).2
  · exact hstable

/-- A sorted list begins with a source of the lowest precedence, and with the first one of these. -/
theorem eq_of_sorted (hsorted : ordered.Pairwise fun a b => a.precedence ≤ b.precedence)
    (hsorted' : ordered'.Pairwise fun a b => a.precedence ≤ b.precedence)
    (h : Reorders ordered ordered') : ordered' = ordered := by
  induction ordered generalizing ordered' with
  | nil => exact h.perm.eq_nil
  | cons a ordered ih =>
    cases ordered' with
    | nil => exact h.perm.nil_eq
    | cons b ordered' =>
      have hle : ∀ c ∈ a :: ordered, a.precedence ≤ c.precedence := by
        intro c hc
        rcases List.mem_cons.1 hc with rfl | hc
        · exact Nat.le_refl _
        · exact (List.pairwise_cons.1 hsorted).1 c hc
      have hle' : ∀ c ∈ b :: ordered', b.precedence ≤ c.precedence := by
        intro c hc
        rcases List.mem_cons.1 hc with rfl | hc
        · exact Nat.le_refl _
        · exact (List.pairwise_cons.1 hsorted').1 c hc
      have hsame : a.precedence = b.precedence :=
        Nat.le_antisymm (hle b (h.perm.subset List.mem_cons_self))
          (hle' a (h.perm.symm.subset List.mem_cons_self))
      have hfirst := h.stable a.precedence
      rw [List.filter_cons_of_pos (by rw [hsame, beq_self_eq_true]),
        List.filter_cons_of_pos (by rw [beq_self_eq_true])] at hfirst
      obtain rfl := (List.cons.inj hfirst).1
      rw [ih (List.pairwise_cons.1 hsorted).2 (List.pairwise_cons.1 hsorted').2 h.of_cons]

/-- There is only one arrangement, and reordered sources have the same one. -/
theorem Arranges.eq (h : Arranges sources ordered) (h' : Arranges sources' ordered')
    (hreorders : Reorders sources sources') : ordered' = ordered :=
  eq_of_sorted h.sorted h'.sorted
    (h.toReorders.symm.trans (hreorders.trans h'.toReorders))

/-- Sorting is stable. -/
theorem arranges_inOrder (sources : List Source) : Arranges sources (inOrder sources) := by
  have htrans : ∀ a b c : Source, decide (a.precedence ≤ b.precedence) = true →
      decide (b.precedence ≤ c.precedence) = true →
      decide (a.precedence ≤ c.precedence) = true := by
    intro a b c hab hbc
    simp only [decide_eq_true_eq] at *
    exact Nat.le_trans hab hbc
  have htotal : ∀ a b : Source, (decide (a.precedence ≤ b.precedence) ||
      decide (b.precedence ≤ a.precedence)) = true := by
    intro a b
    simp only [Bool.or_eq_true, decide_eq_true_eq]
    exact Nat.le_total _ _
  have hperm : (inOrder sources).Perm sources := List.mergeSort_perm _ _
  refine ⟨⟨hperm, fun p => ?_⟩, ?_⟩
  · -- The sources of one precedence are sorted already, so that they stay a part of the list.
    have htied : (sources.filter fun s => s.precedence == p).Pairwise
        fun a b => decide (a.precedence ≤ b.precedence) = true := by
      refine List.pairwise_of_forall_mem_list fun a ha b hb => ?_
      have hpa := (List.mem_filter.1 ha).2
      have hpb := (List.mem_filter.1 hb).2
      rw [beq_iff_eq] at hpa hpb
      exact decide_eq_true (Nat.le_of_eq (hpa.trans hpb.symm))
    have hpart := (List.sublist_mergeSort htrans htotal htied List.filter_sublist).filter
      fun s => s.precedence == p
    rw [List.filter_filter] at hpart
    simp only [Bool.and_self] at hpart
    exact (hpart.eq_of_length (hperm.filter _).length_eq.symm).symm
  · exact (List.pairwise_mergeSort htrans htotal sources).imp of_decide_eq_true

/-- The sorted sources are the only arrangement. -/
theorem Arranges.eq_inOrder (h : Arranges sources ordered) : inOrder sources = ordered :=
  h.eq (arranges_inOrder sources) ⟨List.Perm.refl _, fun _ => rfl⟩

/-- Behind a source come those of higher precedence, and those of the same that are listed later. -/
theorem Arranges.exists_eq_append {before after : List Source}
    (h : Arranges (before ++ s :: after) ordered) :
    ∃ lower upper, ordered = lower ++ s :: upper ∧
      ∀ o ∈ upper, s.precedence < o.precedence ∨ o.precedence = s.precedence ∧ o ∈ after := by
  have hstable := h.stable s.precedence
  rw [List.filter_append, List.filter_cons_of_pos (by rw [beq_self_eq_true])] at hstable
  obtain ⟨lower, rest, rfl, -, hrest⟩ := List.filter_eq_append_iff.1 hstable
  obtain ⟨middle, upper, rfl, -, -, hupper⟩ := List.filter_eq_cons_iff.1 hrest
  refine ⟨lower ++ middle, upper, (List.append_assoc _ _ _).symm, fun o ho => ?_⟩
  have hle : s.precedence ≤ o.precedence :=
    (List.pairwise_cons.1 (List.pairwise_append.1 (List.pairwise_append.1 h.sorted).2.1).2.1).1 o ho
  rcases Nat.lt_or_eq_of_le hle with hlt | heq
  · exact Or.inl hlt
  · have hlater : o ∈ after.filter fun o => o.precedence == s.precedence :=
      hupper ▸ List.mem_filter.2 ⟨ho, beq_iff_eq.2 heq.symm⟩
    exact Or.inr ⟨heq.symm, (List.mem_filter.1 hlater).1⟩

/-! ### Loading -/

/-- Loads a source and notes it down. -/
def loadNoted (s : Source) : ExceptT ConfigError (StateM (List Source)) Layer := do
  modify (· ++ [s])
  s.load

/-- Loading a source notes it, whatever comes of it. -/
theorem run_loadNoted (s : Source) (noted : List Source) :
    s.loadNoted.run.run noted = (s.load, noted ++ [s]) := rfl

/-- The sources up to the first that fails. -/
def tried : List Source → List Source
  | [] => []
  | s :: rest =>
    match s.load with
    | .ok _ => s :: tried rest
    | .error _ => [s]

/-- Sources are loaded until one fails. -/
theorem run_mapM_loadNoted (ordered noted : List Source) :
    (ordered.mapM loadNoted).run.run noted = (ordered.mapM load, noted ++ tried ordered) := by
  induction ordered generalizing noted with
  | nil =>
    rw [tried, List.append_nil]
    rfl
  | cons s ordered ih =>
    rw [List.mapM_cons, List.mapM_cons, ExceptT.run_bind, StateT.run_bind, run_loadNoted, tried]
    cases s.load with
    | error e => rfl
    | ok l =>
      change StateT.run (ordered.mapM loadNoted >>= fun layers => pure (l :: layers)).run
        (noted ++ [s]) = _
      rw [ExceptT.run_bind, StateT.run_bind, ih, List.append_assoc]
      cases ordered.mapM load <;> rfl

variable {layers : List Layer} {before : List Source} {e : ConfigError}

/-- If every source can be loaded, all of them are tried. -/
theorem mapM_load_of_ok (h : ordered.map load = layers.map .ok) :
    ordered.mapM load = .ok layers ∧ tried ordered = ordered := by
  induction ordered generalizing layers with
  | nil =>
    obtain rfl := List.map_eq_nil_iff.1 h.symm
    exact ⟨rfl, rfl⟩
  | cons s ordered ih =>
    obtain ⟨l, layers, rfl, hload, hrest⟩ := List.map_eq_cons_iff.1 h.symm
    obtain ⟨hlayers, htried⟩ := ih hrest.symm
    rw [List.mapM_cons, ← hload, hlayers, tried, ← hload, htried]
    exact ⟨rfl, rfl⟩

/-- The first source that cannot be loaded is the last one that is tried, and its error is the
answer. -/
theorem mapM_load_of_error (after : List Source) (hbefore : ∀ b ∈ before, ∃ l, b.load = .ok l)
    (hs : s.load = .error e) :
    (before ++ s :: after).mapM load = .error e ∧
      tried (before ++ s :: after) = before ++ [s] := by
  induction before with
  | nil =>
    rw [List.nil_append, List.mapM_cons, tried, hs]
    exact ⟨rfl, rfl⟩
  | cons b before ih =>
    obtain ⟨l, hb⟩ := hbefore b List.mem_cons_self
    obtain ⟨herror, htried⟩ := ih fun b' hb' => hbefore b' (List.mem_cons_of_mem _ hb')
    rw [List.cons_append, List.mapM_cons, tried, hb, herror, htried]
    exact ⟨rfl, rfl⟩

/-- Either all sources can be loaded, or there is a first one that fails. -/
theorem loads_or_fails (ordered : List Source) :
    (∃ layers : List Layer, ordered.map load = layers.map .ok) ∨
      ∃ before s after e, ordered = before ++ s :: after ∧
        (∀ b ∈ before, ∃ l, b.load = .ok l) ∧ s.load = .error e := by
  induction ordered with
  | nil => exact Or.inl ⟨[], rfl⟩
  | cons s ordered ih =>
    cases hs : s.load with
    | error e => exact Or.inr ⟨[], s, ordered, e, rfl, by simp, hs⟩
    | ok l =>
      rcases ih with ⟨layers, hlayers⟩ | ⟨before, s', after, e, rfl, hbefore, hs'⟩
      · exact Or.inl ⟨l :: layers, by rw [List.map_cons, List.map_cons, hs, hlayers]⟩
      · refine Or.inr ⟨s :: before, s', after, e, rfl, fun b hb => ?_, hs'⟩
        rcases List.mem_cons.1 hb with rfl | hb
        · exact ⟨l, hs⟩
        · exact hbefore b hb

end Source

namespace Setting

variable {α : Type}

/-- The value that a source sets. -/
def setBy (f : Setting α) (s : Source) : Option α := s.load.toOption.bind f.setIn

/-- What the sources set is what their layers set. -/
theorem filterMap_setBy (f : Setting α) {ordered : List Source} {layers : List Layer}
    (h : ordered.map Source.load = layers.map .ok) :
    ordered.filterMap f.setBy = layers.filterMap f.setIn := by
  induction ordered generalizing layers with
  | nil =>
    obtain rfl := List.map_eq_nil_iff.1 h.symm
    rfl
  | cons s ordered ih =>
    obtain ⟨l, layers, rfl, hload, hrest⟩ := List.map_eq_cons_iff.1 h.symm
    have hset : f.setBy s = f.setIn l := by rw [setBy, ← hload]; rfl
    rw [List.filterMap_cons, List.filterMap_cons, hset, ih hrest.symm]

/-- In merged layers a setting has the last value that a layer gives it. -/
theorem setIn_mergeAll (f : Setting α) (layers : List Layer) :
    f.setIn (Layer.mergeAll layers) = f.last layers := by
  induction layers with
  | nil => exact f.setIn_empty
  | cons l layers ih =>
    rw [← List.singleton_append, Layer.mergeAll_append, Layer.mergeAll_singleton, f.setIn_merge, ih,
      f.last_append, f.last_singleton]

/-- A setting that a source sets is kept, unless a source of higher precedence sets it too, or one
of the same precedence that is listed later. -/
theorem setIn_mergeAll_or_overridden (f : Setting α) {before after ordered : List Source}
    {s : Source} {v : α} {layers : List Layer} (hs : f.setBy s = some v)
    (hordered : Source.Arranges (before ++ s :: after) ordered)
    (hlayers : ordered.map Source.load = layers.map .ok) :
    f.setIn (Layer.mergeAll layers) = some v ∨
      ∃ o ∈ before ++ s :: after, (f.setBy o).isSome = true ∧
        (s.precedence < o.precedence ∨ o.precedence = s.precedence ∧ o ∈ after) := by
  obtain ⟨lower, upper, rfl, hupper⟩ := hordered.exists_eq_append
  by_cases hset : ∃ o ∈ upper, (f.setBy o).isSome = true
  · obtain ⟨o, ho, hsome⟩ := hset
    have hlisted := hordered.perm.subset (List.mem_append_right lower (List.mem_cons_of_mem s ho))
    exact Or.inr ⟨o, hlisted, hsome, hupper o ho⟩
  · have hnone : upper.filterMap f.setBy = [] := by
      refine List.filterMap_eq_nil_iff.2 fun o ho => Option.not_isSome_iff_eq_none.1 fun hsome => ?_
      exact hset ⟨o, ho, hsome⟩
    left
    rw [f.setIn_mergeAll, last, ← f.filterMap_setBy hlayers, List.filterMap_append,
      List.filterMap_cons_some hs, hnone, List.getLast?_concat]

end Setting

namespace Config

/-- The outcome of the loading, and the sources that are loaded for it in this order. -/
def loadNoted (sources : List Source) : Except ConfigError Config × List Source :=
  (loadBy Source.loadNoted sources).run.run []

/-- Nothing but the results of the sources counts. -/
theorem run_mapM_load (ordered : List Source) :
    (ordered.mapM (m := ExceptT ConfigError Id) Source.load).run =
      (ordered.mapM Source.load : Except ConfigError (List Layer)) := by
  induction ordered with
  | nil => rfl
  | cons s ordered ih =>
    rw [List.mapM_cons, List.mapM_cons, ExceptT.run_bind]
    cases s.load with
    | error e => rfl
    | ok l =>
      change ExceptT.run (ordered.mapM (m := ExceptT ConfigError Id) Source.load >>=
        fun layers => pure (l :: layers)) = _
      rw [ExceptT.run_bind, ih]
      cases (ordered.mapM Source.load : Except ConfigError (List Layer)) <;> rfl

/-- Loading merges the layers of the sources in their order. -/
theorem load_eq (sources : List Source) :
    load sources = (Source.inOrder sources).mapM Source.load >>= fun layers =>
      (Layer.mergeAll layers).finalize := by
  rw [load, loadBy, ExceptT.run_bind, run_mapM_load]
  cases ((Source.inOrder sources).mapM Source.load : Except ConfigError (List Layer)) <;> rfl

/-- The sources that were tried are noted in their order. -/
theorem loadNoted_eq (sources : List Source) :
    loadNoted sources = (load sources, Source.tried (Source.inOrder sources)) := by
  rw [loadNoted, load_eq, loadBy, ExceptT.run_bind, StateT.run_bind, Source.run_mapM_loadNoted]
  cases ((Source.inOrder sources).mapM Source.load : Except ConfigError (List Layer)) <;> rfl

variable {sources ordered : List Source}

/-- If every source can be loaded, their layers are merged and all of them are noted. -/
theorem loadNoted_of_ok (h : Source.Arranges sources ordered) {layers : List Layer}
    (hlayers : ordered.map Source.load = layers.map .ok) :
    loadNoted sources = ((Layer.mergeAll layers).finalize, ordered) := by
  obtain ⟨hload, htried⟩ := Source.mapM_load_of_ok hlayers
  rw [loadNoted_eq, load_eq, h.eq_inOrder, hload, htried]
  rfl

/-- The first source that cannot be loaded decides, and no source behind it is noted. -/
theorem loadNoted_of_error {before after : List Source} {s : Source} {e : ConfigError}
    (h : Source.Arranges sources (before ++ s :: after))
    (hbefore : ∀ b ∈ before, ∃ l, b.load = .ok l) (hs : s.load = .error e) :
    loadNoted sources = (.error e, before ++ [s]) := by
  obtain ⟨hload, htried⟩ := Source.mapM_load_of_error after hbefore hs
  rw [loadNoted_eq, load_eq, h.eq_inOrder, hload, htried]
  rfl

/-- **The order in which sources are listed does not matter.** Any reordering that keeps sources of
one precedence in their order loads the same sources with the same outcome. They are loaded in the
order of their precedence, those of one precedence as they are listed. If none of them fails, the
outcome is that of their layers merged in this order, so that a setting which a source sets is lost
only to a source of higher precedence or to a later one of the same precedence. If one fails, the
outcome is the error of the first that does, whatever the layers before it contain, and no source
behind it is loaded. -/
theorem load_follows_precedence (sources : List Source) :
    (∀ reordered, Source.Reorders sources reordered →
      load reordered = load sources ∧ loadNoted reordered = loadNoted sources) ∧
    (loadNoted sources).1 = load sources ∧
    (∃ ordered, Source.Arranges sources ordered) ∧
    ∀ ordered, Source.Arranges sources ordered →
      ((∀ s ∈ sources, ∃ l, s.load = .ok l) →
        ∃ layers : List Layer, ordered.map Source.load = layers.map .ok ∧
          loadNoted sources = ((Layer.mergeAll layers).finalize, ordered) ∧
          ∀ {α : Type} (f : Setting α) before s after v, sources = before ++ s :: after →
            f.setBy s = some v →
            f.setIn (Layer.mergeAll layers) = some v ∨
              ∃ o ∈ sources, (f.setBy o).isSome = true ∧
                (s.precedence < o.precedence ∨ o.precedence = s.precedence ∧ o ∈ after)) ∧
      ((∃ s ∈ sources, ∃ e, s.load = .error e) →
        ∃ before s after e, ordered = before ++ s :: after ∧
          (∀ b ∈ before, ∃ l, b.load = .ok l) ∧ s.load = .error e ∧
          loadNoted sources = (.error e, before ++ [s])) := by
  have harranged := Source.arranges_inOrder sources
  refine ⟨fun reordered h => ?_, congrArg Prod.fst (loadNoted_eq sources), ⟨_, harranged⟩,
    fun ordered hordered => ⟨fun hok => ?_, fun hfails => ?_⟩⟩
  · have hsame := harranged.eq (Source.arranges_inOrder reordered) h
    rw [loadNoted_eq, loadNoted_eq, load_eq, load_eq, hsame]
    exact ⟨rfl, rfl⟩
  · rcases Source.loads_or_fails ordered with ⟨layers, hlayers⟩ | ⟨_, s, _, e, rfl, -, hs⟩
    · refine ⟨layers, hlayers, loadNoted_of_ok hordered hlayers, ?_⟩
      rintro α f before s after v rfl hset
      exact f.setIn_mergeAll_or_overridden hset hordered hlayers
    · obtain ⟨l, hl⟩ := hok s (hordered.perm.subset (List.mem_append_right _ List.mem_cons_self))
      cases hs.symm.trans hl
  · rcases Source.loads_or_fails ordered with ⟨layers, hlayers⟩ | ⟨before, s, after, e, rfl, hb, hs⟩
    · obtain ⟨s, hmem, e, hs⟩ := hfails
      have hload : s.load ∈ layers.map .ok :=
        hlayers ▸ List.mem_map_of_mem (hordered.perm.symm.subset hmem)
      obtain ⟨l, -, hl⟩ := List.mem_map.1 hload
      cases hl.trans hs
    · exact ⟨before, s, after, e, rfl, hb, hs, loadNoted_of_error hordered hb hs⟩

/-- The environment is listed between two files, of which the second overrides the timeout. -/
def tiedSources : List Source :=
  [⟨"first", 20, .ok ⟨some ⟨none, some "early", some 5⟩, none, none⟩⟩,
    ⟨"environment", 50, .ok ⟨some ⟨none, some "late", none⟩, none, none⟩⟩,
    ⟨"second", 20, .ok ⟨some ⟨none, none, some 7⟩, none, none⟩⟩]

/-- Two sources fail, and the source before them leaves the poll interval at zero. -/
def failingSources : List Source :=
  [⟨"environment", 50, .error (.tomlParse "late")⟩, ⟨"file", 20, .error (.tomlParse "early")⟩,
    ⟨"defaults", 10, .ok ⟨none, some ⟨some 0, none⟩, none⟩⟩]

/-- Sources of one precedence are merged as they are listed, and of two errors the one of the lower
precedence is reported. -/
theorem load_follows_precedence_of_ties_and_failures :
    Source.Arranges tiedSources [tiedSources[0], tiedSources[2], tiedSources[1]] ∧
    load [tiedSources[0], tiedSources[2], tiedSources[1]] = load tiedSources ∧
    (∀ s ∈ tiedSources, ∃ l, s.load = .ok l) ∧
    (loadNoted tiedSources).1.toOption.map Config.kube = some ⟨none, some "late", 7⟩ ∧
    Source.Arranges failingSources failingSources.reverse ∧
    (∃ s ∈ failingSources, ∃ e, s.load = .error e) ∧
    loadNoted failingSources =
      (.error (.tomlParse "early"), [failingSources[2], failingSources[1]]) := by
  have htied : Source.Arranges tiedSources [tiedSources[0], tiedSources[2], tiedSources[1]] := by
    refine ⟨⟨(List.Perm.swap _ _ _).cons _, fun p => ?_⟩, by decide⟩
    by_cases hp : 20 = p
    · subst hp
      rfl
    · simp [tiedSources, List.filter_cons, hp]
  have hreversed : Source.Arranges failingSources failingSources.reverse := by
    refine ⟨⟨List.reverse_perm _, fun p => ?_⟩, by decide⟩
    simp only [failingSources, List.reverse_cons, List.reverse_nil, List.nil_append,
      List.cons_append, List.filter_cons, List.filter_nil, beq_iff_eq]
    split <;> split <;> split <;> first | rfl | omega
  have hok : ∀ s ∈ tiedSources, ∃ l, s.load = .ok l := by simp [tiedSources]
  have hfails : ∃ s ∈ failingSources, ∃ e, s.load = .error e := ⟨_, List.mem_cons_self, _, rfl⟩
  obtain ⟨hsame, -, -, hordered⟩ := load_follows_precedence tiedSources
  obtain ⟨-, -, -, hfailing⟩ := load_follows_precedence failingSources
  refine ⟨htied, (hsame _ htied.toReorders).1, hok, ?_, hreversed, hfails, ?_⟩
  · obtain ⟨layers, hlayers, houtcome, -⟩ := (hordered _ htied).1 hok
    obtain rfl : [_, _, _] = layers :=
      (List.map_inj_right fun _ _ => Except.ok.inj).1 (hlayers : List.map Except.ok [_, _, _] = _)
    rw [houtcome]
    decide
  · obtain ⟨before, s, after, e, heq, hbefore, hs, houtcome⟩ := (hfailing _ hreversed).2 hfails
    rw [houtcome]
    -- The defaults can be loaded and the file cannot, so that exactly the defaults come before.
    match before, heq, hbefore with
    | [], heq, _ =>
      obtain ⟨rfl, -⟩ := List.cons.inj heq
      cases hs
    | [b], heq, _ =>
      obtain ⟨rfl, hrest⟩ := List.cons.inj heq
      obtain ⟨rfl, -⟩ := List.cons.inj hrest
      cases hs
      rfl
    | b :: b' :: rest, heq, hbefore =>
      obtain ⟨-, hrest⟩ := List.cons.inj heq
      obtain ⟨rfl, -⟩ := List.cons.inj hrest
      obtain ⟨l, hl⟩ := hbefore _ (List.mem_cons_of_mem _ List.mem_cons_self)
      cases hl

end Config

end RunOperator
