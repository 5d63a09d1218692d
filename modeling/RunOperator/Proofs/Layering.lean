import RunOperator.Config.Basic

/-!
# Layers are merged setting by setting

A configuration has seven settings, and each of them takes the value from the last layer that sets
it, or else its default. `Merging.finalize_last_wins` says so for any number of layers and however
their merges are grouped. Whether a layer has the section of a setting makes no difference, only
whether it sets the setting does. A configuration is refused for a zero that is left in the end, and
not for one that a later layer overrides.
-/

namespace RunOperator

/-! ### Settings -/

/-- A setting of the configuration, with the type of its values. -/
inductive Setting : Type → Type where
  | kubeconfig : Setting String
  | ns : Setting String
  | requestTimeoutSecs : Setting Nat
  | pollIntervalMs : Setting Nat
  | retryLimit : Setting Nat
  | level : Setting String
  | json : Setting Bool

namespace Setting

variable {α : Type}

/-- The value that a layer sets; a layer without the section sets none. -/
def setIn : {α : Type} → Setting α → Layer → Option α
  | _, kubeconfig, l => l.kube.bind KubeLayer.kubeconfig
  | _, ns, l => l.kube.bind KubeLayer.ns
  | _, requestTimeoutSecs, l => l.kube.bind KubeLayer.requestTimeoutSecs
  | _, pollIntervalMs, l => l.monitor.bind MonitorLayer.pollIntervalMs
  | _, retryLimit, l => l.monitor.bind MonitorLayer.retryLimit
  | _, level, l => l.logging.bind LoggingLayer.level
  | _, json, l => l.logging.bind LoggingLayer.json

/-- The value in a configuration. Only the two settings that have no default may be open there. -/
def valueIn : {α : Type} → Setting α → Config → Option α
  | _, kubeconfig, c => c.kube.kubeconfig
  | _, ns, c => c.kube.ns
  | _, requestTimeoutSecs, c => some c.kube.requestTimeoutSecs
  | _, pollIntervalMs, c => some c.monitor.pollIntervalMs
  | _, retryLimit, c => some c.monitor.retryLimit
  | _, level, c => some c.logging.level
  | _, json, c => some c.logging.json

/-- The default of a setting. -/
def fallback : {α : Type} → Setting α → Option α
  | _, kubeconfig | _, ns => none
  | _, requestTimeoutSecs => some 30
  | _, pollIntervalMs => some 1000
  | _, retryLimit => some 5
  | _, level => some "info"
  | _, json => some false

/-- The value from the last layer that sets the setting. -/
def last (f : Setting α) (layers : List Layer) : Option α := (layers.filterMap f.setIn).getLast?

/-- The value from the last layer that sets the setting, or else its default. -/
def resolve (f : Setting α) (layers : List Layer) : Option α := (f.last layers).or f.fallback

/-- The last setting of all layers is that of the later ones, if they have it. -/
theorem last_append (f : Setting α) (before after : List Layer) :
    f.last (before ++ after) = (f.last after).or (f.last before) := by
  rw [last, List.filterMap_append, List.getLast?_append, last, last]

/-- The last setting of one layer is its own. -/
theorem last_singleton (f : Setting α) (l : Layer) : f.last [l] = f.setIn l := by
  rw [last, List.filterMap_cons, List.filterMap_nil]
  cases f.setIn l <;> rfl

end Setting

/-- A field of a section after a merge: the sections may be missing. -/
theorem bind_mergeSection {α β : Type} {merge : α → α → α} {field : α → Option β}
    (hfield : ∀ x y, field (merge x y) = override (field x) (field y)) (a b : Option α) :
    (mergeSection merge a b).bind field = (b.bind field).or (a.bind field) := by
  cases a with
  | none => cases b <;> simp [mergeSection]
  | some x =>
    cases b with
    | none => rfl
    | some y => exact hfield x y

/-- A merge takes a setting from the later layer if this sets it, and leaves it alone otherwise. -/
theorem Setting.setIn_merge {α : Type} (f : Setting α) (a b : Layer) :
    f.setIn (a.merge b) = (f.setIn b).or (f.setIn a) := by
  cases f <;> exact bind_mergeSection (fun _ _ => rfl) _ _

/-- The empty layer sets nothing. -/
theorem Setting.setIn_empty {α : Type} (f : Setting α) : f.setIn .empty = none := by
  cases f <;> rfl

/-! ### Configurations -/

/-- The number that is checked, as a setting. -/
def ZeroField.setting : ZeroField → Setting Nat
  | pollInterval => .pollIntervalMs
  | retryLimit => .retryLimit
  | requestTimeout => .requestTimeoutSecs

/-- The numbers that are checked, in the order of the checks. -/
def ZeroField.inOrder : List ZeroField := [pollInterval, retryLimit, requestTimeout]

namespace Config

/-- A configuration is determined by its settings. -/
theorem ext_valueIn {c c' : Config} (h : ∀ {α : Type} (f : Setting α), f.valueIn c = f.valueIn c') :
    c = c' := by
  obtain ⟨⟨kubeconfig, ns, timeout⟩, ⟨interval, limit⟩, ⟨level, json⟩⟩ := c
  obtain ⟨⟨kubeconfig', ns', timeout'⟩, ⟨interval', limit'⟩, ⟨level', json'⟩⟩ := c'
  obtain rfl : kubeconfig = kubeconfig' := h .kubeconfig
  obtain rfl : ns = ns' := h .ns
  obtain rfl : timeout = timeout' := Option.some.inj (h .requestTimeoutSecs)
  obtain rfl : interval = interval' := Option.some.inj (h .pollIntervalMs)
  obtain rfl : limit = limit' := Option.some.inj (h .retryLimit)
  obtain rfl : level = level' := Option.some.inj (h .level)
  obtain rfl : json = json' := Option.some.inj (h .json)
  rfl

/-- What a layer leaves open takes its default. -/
theorem valueIn_ofLayer {α : Type} (f : Setting α) (l : Layer) :
    f.valueIn (ofLayer l) = (f.setIn l).or f.fallback := by
  obtain ⟨kube, monitor, logging⟩ := l
  cases f with
  | kubeconfig | ns =>
    cases kube with
    | none => rfl
    | some _ => exact Option.or_none.symm
  | requestTimeoutSecs =>
    cases kube with
    | none => rfl
    | some _ => exact Option.or_some.symm
  | pollIntervalMs | retryLimit =>
    cases monitor with
    | none => rfl
    | some _ => exact Option.or_some.symm
  | level | json =>
    cases logging with
    | none => rfl
    | some _ => exact Option.or_some.symm

/-- A configuration is refused for the first of the checked numbers that is zero. -/
theorem zeroField?_eq (c : Config) :
    c.zeroField? = ZeroField.inOrder.find? fun z => z.setting.valueIn c == some 0 := by
  simp only [zeroField?, ZeroField.inOrder, List.find?_cons, List.find?_nil, ZeroField.setting,
    Setting.valueIn, Option.some_beq_some]
  repeat' split
  all_goals simp_all

end Config

namespace Layer

variable {l : Layer} {c : Config} {e : ConfigError}

/-- A layer becomes a configuration if none of its numbers is zero. -/
theorem finalize_eq_ok_iff :
    l.finalize = .ok c ↔ c = Config.ofLayer l ∧ (Config.ofLayer l).zeroField? = none := by
  rw [finalize]
  cases (Config.ofLayer l).zeroField? with
  | none => simp [eq_comm]
  | some z => simp

/-- The error of a layer names its first number that is zero. -/
theorem finalize_eq_error_iff :
    l.finalize = .error e ↔
      ∃ z, e = .validation z ∧ (Config.ofLayer l).zeroField? = some z := by
  rw [finalize]
  cases (Config.ofLayer l).zeroField? with
  | none => simp
  | some z => simp [eq_comm]

/-! ### Any grouping of merges gives the same layer -/

private theorem mergeSection_assoc {α : Type} {merge : α → α → α}
    (hmerge : ∀ x y z, merge (merge x y) z = merge x (merge y z)) (a b c : Option α) :
    mergeSection merge (mergeSection merge a b) c =
      mergeSection merge a (mergeSection merge b c) := by
  cases a <;> cases b <;> cases c <;> simp [mergeSection, hmerge]

private theorem override_assoc {α : Type} (a b c : Option α) :
    override (override a b) c = override a (override b c) := Option.or_assoc.symm

/-- Layers may be grouped in any way. -/
theorem merge_assoc (a b c : Layer) : (a.merge b).merge c = a.merge (b.merge c) := by
  simp only [merge, mk.injEq]
  refine ⟨mergeSection_assoc ?_ _ _ _, mergeSection_assoc ?_ _ _ _, mergeSection_assoc ?_ _ _ _⟩
  · intro x y z
    simp only [KubeLayer.merge, override_assoc]
  · intro x y z
    simp only [MonitorLayer.merge, override_assoc]
  · intro x y z
    simp only [LoggingLayer.merge, override_assoc]

/-- Merging into the empty layer changes nothing. -/
theorem empty_merge (l : Layer) : empty.merge l = l := by
  obtain ⟨kube, monitor, logging⟩ := l
  cases kube <;> cases monitor <;> cases logging <;> rfl

/-- Merging the empty layer changes nothing. -/
theorem merge_empty (l : Layer) : l.merge empty = l := by
  obtain ⟨kube, monitor, logging⟩ := l
  cases kube <;> cases monitor <;> cases logging <;> rfl

private theorem foldl_merge (base : Layer) (layers : List Layer) :
    layers.foldl merge base = base.merge (mergeAll layers) := by
  induction layers generalizing base with
  | nil => exact (merge_empty base).symm
  | cons l layers ih =>
    rw [mergeAll, List.foldl_cons, List.foldl_cons, ih, ih, empty_merge, merge_assoc]

/-- Layers may be merged in two parts. -/
theorem mergeAll_append (before after : List Layer) :
    mergeAll (before ++ after) = (mergeAll before).merge (mergeAll after) := by
  rw [mergeAll, List.foldl_append, foldl_merge]
  rfl

/-- One layer alone is merged to itself. -/
theorem mergeAll_singleton (l : Layer) : mergeAll [l] = l := empty_merge l

end Layer

/-- Merges of layers, grouped in any way. -/
inductive Merging where
  /-- The layer that sets nothing, from which merging may begin. -/
  | nothing
  | layer (l : Layer)
  | merge (earlier later : Merging)

namespace Merging

/-- The layers that are merged, the last one on top. -/
def layers : Merging → List Layer
  | nothing => []
  | layer l => [l]
  | merge earlier later => earlier.layers ++ later.layers

/-- The layer that the merges give. -/
def result : Merging → Layer
  | nothing => .empty
  | layer l => l
  | merge earlier later => earlier.result.merge later.result

/-- The grouping of the merges makes no difference. -/
theorem result_eq_mergeAll (g : Merging) : g.result = Layer.mergeAll g.layers := by
  induction g with
  | nothing => rfl
  | layer l => exact (Layer.mergeAll_singleton l).symm
  | merge earlier later hearlier hlater =>
    rw [result, layers, Layer.mergeAll_append, hearlier, hlater]

/-- A setting is as the last layer has it that sets it. -/
theorem setIn_result {α : Type} (f : Setting α) (g : Merging) :
    f.setIn g.result = f.last g.layers := by
  induction g with
  | nothing => exact f.setIn_empty
  | layer l => exact (f.last_singleton l).symm
  | merge earlier later hearlier hlater =>
    rw [result, layers, f.setIn_merge, f.last_append, hearlier, hlater]

/-- A merged configuration has the value of the last layer that sets it, or else the default. -/
theorem valueIn_ofLayer_result {α : Type} (f : Setting α) (g : Merging) :
    f.valueIn (Config.ofLayer g.result) = f.resolve g.layers := by
  rw [Config.valueIn_ofLayer, setIn_result, Setting.resolve]

private theorem zeroField?_ofLayer_result (g : Merging) :
    (Config.ofLayer g.result).zeroField? =
      ZeroField.inOrder.find? fun z => z.setting.resolve g.layers == some 0 := by
  simp only [Config.zeroField?_eq, valueIn_ofLayer_result]

/-- **The last writer wins, setting by setting.** However the merges of some layers are grouped,
the result is the same, and it has each setting from the last layer that sets it. A merge leaves a
setting alone that its later layer does not set. The configuration that comes out has for each
setting the value from the last layer that sets it, or else the default. There is none exactly if
one of the checked numbers is then zero, and the first of these is reported. -/
theorem finalize_last_wins (g : Merging) :
    g.result = Layer.mergeAll g.layers ∧
    (∀ {α : Type} (f : Setting α), f.setIn g.result = f.last g.layers) ∧
    (∀ {α : Type} (f : Setting α) (a b : Layer),
      f.setIn (a.merge b) = (f.setIn b).or (f.setIn a)) ∧
    (∀ c, g.result.finalize = .ok c ↔
      (∀ {α : Type} (f : Setting α), f.valueIn c = f.resolve g.layers) ∧
        ∀ z : ZeroField, z.setting.resolve g.layers ≠ some 0) ∧
    (∀ e, g.result.finalize = .error e ↔
      ∃ z, e = .validation z ∧
        (ZeroField.inOrder.find? fun z => z.setting.resolve g.layers == some 0) = some z) := by
  refine ⟨g.result_eq_mergeAll, fun f => setIn_result f g, fun f a b => f.setIn_merge a b,
    fun c => ?_, fun e => ?_⟩
  · rw [Layer.finalize_eq_ok_iff, zeroField?_ofLayer_result, List.find?_eq_none]
    refine and_congr ⟨?_, ?_⟩ ⟨?_, ?_⟩
    · rintro rfl α f
      exact valueIn_ofLayer_result f g
    · intro h
      exact Config.ext_valueIn fun f => (h f).trans (valueIn_ofLayer_result f g).symm
    · intro h z
      have hz : z ∈ ZeroField.inOrder := by cases z <;> simp [ZeroField.inOrder]
      simpa using h z hz
    · intro h z _
      simpa using h z
  · rw [Layer.finalize_eq_error_iff, zeroField?_ofLayer_result]

/-- A zero that a later layer overrides does no harm. -/
example :
    let zero : Layer := ⟨none, some ⟨none, some 0⟩, none⟩
    let three : Layer := ⟨some .empty, some ⟨none, some 3⟩, none⟩
    ((zero.merge three).finalize.toOption.map fun c => c.monitor.retryLimit) = some 3 := by
  decide

end Merging

end RunOperator
