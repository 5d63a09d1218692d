/-!
# Configuration layers

The configuration has three sections with seven fields. A layer sets some of them. Layers are
merged field by field: a field that the later layer sets wins, and one that it leaves open keeps
its value. What no layer sets takes a default, and the result must make sense: three of the numbers
must not be zero.
-/

namespace RunOperator

/-- The second value, or the first one where there is none. -/
def override {α : Type} (old new : Option α) : Option α := new.or old

/-- Two optional sections merged: a section that only one of them has is taken as it is. -/
def mergeSection {α : Type} (merge : α → α → α) : Option α → Option α → Option α
  | some a, some b => some (merge a b)
  | a, none => a
  | none, b => b

/-- How to reach the cluster. -/
structure KubeLayer where
  kubeconfig : Option String
  ns : Option String
  requestTimeoutSecs : Option Nat
  deriving DecidableEq, Inhabited

/-- How monitors work. -/
structure MonitorLayer where
  pollIntervalMs : Option Nat
  retryLimit : Option Nat
  deriving DecidableEq, Inhabited

/-- What is logged. -/
structure LoggingLayer where
  level : Option String
  json : Option Bool
  deriving DecidableEq, Inhabited

/-- A layer of the configuration. -/
structure Layer where
  kube : Option KubeLayer
  monitor : Option MonitorLayer
  logging : Option LoggingLayer
  deriving DecidableEq, Inhabited

namespace KubeLayer

/-- The section that leaves all fields open. -/
def empty : KubeLayer := ⟨none, none, none⟩

/-- The section with the fields of a later one over it. -/
def merge (a b : KubeLayer) : KubeLayer where
  kubeconfig := override a.kubeconfig b.kubeconfig
  ns := override a.ns b.ns
  requestTimeoutSecs := override a.requestTimeoutSecs b.requestTimeoutSecs

end KubeLayer

namespace MonitorLayer

/-- The section that leaves all fields open. -/
def empty : MonitorLayer := ⟨none, none⟩

/-- The section with the fields of a later one over it. -/
def merge (a b : MonitorLayer) : MonitorLayer where
  pollIntervalMs := override a.pollIntervalMs b.pollIntervalMs
  retryLimit := override a.retryLimit b.retryLimit

end MonitorLayer

namespace LoggingLayer

/-- The section that leaves all fields open. -/
def empty : LoggingLayer := ⟨none, none⟩

/-- The section with the fields of a later one over it. -/
def merge (a b : LoggingLayer) : LoggingLayer where
  level := override a.level b.level
  json := override a.json b.json

end LoggingLayer

namespace Layer

/-- The layer that sets nothing. -/
def empty : Layer := ⟨none, none, none⟩

/-- The layer with a later one over it. -/
def merge (a b : Layer) : Layer where
  kube := mergeSection KubeLayer.merge a.kube b.kube
  monitor := mergeSection MonitorLayer.merge a.monitor b.monitor
  logging := mergeSection LoggingLayer.merge a.logging b.logging

/-- All layers of a list, each over those before it. -/
def mergeAll (layers : List Layer) : Layer := layers.foldl merge empty

end Layer

end RunOperator
