import RunOperator.Run.Basic

/-!
# Runs as JSON

A run is read from an object with metadata and a spec, or from an array of the two. A spec is read
from an object or from an array of its fields in order. Members that a run does not have are
dropped, and `null` stands for a missing member. What is missing is not written.
-/

namespace RunOperator

namespace SelectorRequirement

/-- Reads a condition; a missing key or operator counts as empty. -/
def ofJson? (v : Json) : Option SelectorRequirement := do
  let ms ← v.members?
  let key ← Json.textOrEmpty ms "key"
  let operator ← Json.textOrEmpty ms "operator"
  let values ← Json.optional ms "values" (Json.readItems Json.text?)
  return { key, operator, values }

/-- Writes a condition. -/
def toJson (r : SelectorRequirement) : Json :=
  .object ([("key", .string r.key), ("operator", .string r.operator)]
    ++ Json.written? "values" Json.ofTextList r.values)

end SelectorRequirement

namespace LabelSelector

/-- Reads a selector from an object. -/
def ofJson? (v : Json) : Option LabelSelector := do
  let ms ← v.members?
  let matchExpressions ←
    Json.optional ms "matchExpressions" (Json.readItems SelectorRequirement.ofJson?)
  let matchLabels ← Json.optional ms "matchLabels" Json.readTexts
  return { matchExpressions, matchLabels }

/-- Writes a selector. -/
def toJson (s : LabelSelector) : Json :=
  .object (Json.written? "matchExpressions" (fun rs => .array (rs.map SelectorRequirement.toJson))
      s.matchExpressions
    ++ Json.written? "matchLabels" Json.ofTexts s.matchLabels)

end LabelSelector

namespace RunSpec

/-- The members of a spec in order. -/
def memberNames : List String :=
  ["name", "experiment-name", "parameters", "pod-count", "pod-selector", "metrics", "state",
   "start-time", "end-time"]

/-- The members of a spec that is an object, or an array of at most as many values. -/
def members? : Json → Option (List (String × Json))
  | .object ms => some ms
  | .array items =>
    if items.length ≤ memberNames.length then some (memberNames.zip items) else none
  | _ => none

/-- Reads a spec. -/
def ofJson? (v : Json) : Option RunSpec := do
  let ms ← members? v
  let name ← Json.optional ms "name" Json.text?
  let experimentName ← Json.optional ms "experiment-name" Json.text?
  let parameters ← Json.optional ms "parameters" (Json.readItems Json.text?)
  let podCount ← Json.optional ms "pod-count" Json.readInt32
  let podSelector ← Json.optional ms "pod-selector" LabelSelector.ofJson?
  let metrics ← Json.optional ms "metrics" Json.members?
  let state ← Json.optional ms "state" Json.text?
  let startTime ← Json.optional ms "start-time" Json.text?
  let endTime ← Json.optional ms "end-time" Json.text?
  return { name, experimentName, parameters, podCount, podSelector, metrics, state, startTime,
           endTime }

/-- Writes a spec. -/
def toJson (s : RunSpec) : Json :=
  .object (Json.written? "name" .string s.name
    ++ Json.written? "experiment-name" .string s.experimentName
    ++ Json.written? "parameters" Json.ofTextList s.parameters
    ++ Json.written? "pod-count" Json.ofInt s.podCount
    ++ Json.written? "pod-selector" LabelSelector.toJson s.podSelector
    ++ Json.written? "metrics" .object s.metrics
    ++ Json.written? "state" .string s.state
    ++ Json.written? "start-time" .string s.startTime
    ++ Json.written? "end-time" .string s.endTime)

end RunSpec

namespace Stamps

/-- Reads stamps from an object, or from an array of exactly the two. -/
def ofJson? (v : Json) : Option Stamps := do
  let ms ← match v with
    | .object ms => some ms
    | .array [s, e] => some [("start", s), ("end", e)]
    | _ => Option.none
  let started ← Json.optional ms "start" Json.text?
  let ended ← Json.optional ms "end" Json.text?
  return { started, ended }

/-- Writes both stamps, also those that are missing. -/
def toJson (s : Stamps) : Json :=
  .object [("start", Json.ofText? s.started), ("end", Json.ofText? s.ended)]

end Stamps

namespace Run

/-- The interface version under which runs are written. -/
def apiVersion : String := "aipg.intel.com/v1"

/-- Reads a run. -/
def ofJson? (v : Json) : Option Run := do
  let (m, s) ← match v with
    | .object ms => (Json.lookup "metadata" ms).bind fun m => (Json.lookup "spec" ms).map (m, ·)
    | .array [m, s] => some (m, s)
    | _ => none
  let metadata ← Metadata.ofJson? m
  let spec ← RunSpec.ofJson? s
  return { metadata, spec }

/-- Writes a run. -/
def toJson (r : Run) : Json :=
  .object [("apiVersion", .string apiVersion), ("kind", .string "Run"),
    ("metadata", r.metadata.toJson), ("spec", r.spec.toJson)]

end Run

end RunOperator
