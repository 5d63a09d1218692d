import RunOperator.Config.Layer
import RunOperator.Json.Basic
import RunOperator.Toml.Document

/-!
# Reading layers

A layer is read from a document of JSON or TOML. A section gives its fields by name, or as an array
in a fixed order. In an array the sections on the cluster and on monitors may leave out fields at
the end, while the section on logging must have both. An array of JSON must not be longer than its
section; of an array of TOML the rest is passed over.
-/

namespace RunOperator

/-- A value of a field as a document gives it. -/
inductive FieldValue where
  | text (value : String)
  | number (value : Int)
  | flag (value : Bool)
  | other
  deriving DecidableEq, Inhabited

namespace FieldValue

/-- The value of a text. -/
def text? : FieldValue → Option String
  | text s => some s
  | _ => none

/-- The value of a flag. -/
def flag? : FieldValue → Option Bool
  | flag b => some b
  | _ => none

/-- The value of a number that is not negative and below a bound. -/
def below? (bound : Nat) : FieldValue → Option Nat
  | number n => if 0 ≤ n ∧ n < bound then some n.toNat else none
  | _ => none

end FieldValue

/-- A section as a document gives it. -/
inductive SectionValue where
  | named (fields : List (String × Option FieldValue))
  | ordered (fields : List (Option FieldValue))
  | other
  deriving Inhabited

namespace SectionValue

/-- The fields of a section in the order of their names. In an array all fields must be there when
`complete` says so. -/
def fields? (names : List String) (complete : Bool) :
    SectionValue → Option (List (Option FieldValue))
  | named fields => some (names.map fun name => (fields.lookup name).join)
  | ordered fields =>
    if complete && fields.length < names.length then none
    else some ((List.range names.length).map fun i => (fields[i]?).join)
  | other => none

/-- A field that may be open; fails when it has a value of another type. -/
def read? {α : Type} (read : FieldValue → Option α) : Option FieldValue → Option (Option α)
  | none => some none
  | some v => (read v).map some

end SectionValue

/-- The numbers of 64 bits are below this. -/
def bound64 : Nat := 18446744073709551616

/-- The numbers of 32 bits are below this. -/
def bound32 : Nat := 4294967296

namespace KubeLayer

/-- The names of the fields. -/
def names : List String := ["kubeconfig", "namespace", "request_timeout_secs"]

/-- Reads the section. -/
def ofSection? (v : SectionValue) : Option KubeLayer := do
  match ← v.fields? names false with
  | [kubeconfig, ns, timeout] =>
    return ⟨← SectionValue.read? FieldValue.text? kubeconfig,
      ← SectionValue.read? FieldValue.text? ns,
      ← SectionValue.read? (FieldValue.below? bound64) timeout⟩
  | _ => none

end KubeLayer

namespace MonitorLayer

/-- The names of the fields. -/
def names : List String := ["poll_interval_ms", "retry_limit"]

/-- Reads the section. -/
def ofSection? (v : SectionValue) : Option MonitorLayer := do
  match ← v.fields? names false with
  | [interval, limit] =>
    return ⟨← SectionValue.read? (FieldValue.below? bound64) interval,
      ← SectionValue.read? (FieldValue.below? bound32) limit⟩
  | _ => none

end MonitorLayer

namespace LoggingLayer

/-- The names of the fields. -/
def names : List String := ["level", "json"]

/-- Reads the section. -/
def ofSection? (v : SectionValue) : Option LoggingLayer := do
  match ← v.fields? names true with
  | [level, json] =>
    return ⟨← SectionValue.read? FieldValue.text? level, ← SectionValue.read? FieldValue.flag? json⟩
  | _ => none

end LoggingLayer

namespace Layer

/-- The names of the sections. -/
def names : List String := ["kube", "monitor", "logging"]

/-- Reads a section that may be missing. -/
def section? {α : Type} (read : SectionValue → Option α) : Option SectionValue → Option (Option α)
  | none => some none
  | some v => (read v).map some

/-- Reads a layer from its sections. -/
def ofSections? (kube monitor logging : Option SectionValue) : Option Layer := do
  return ⟨← section? KubeLayer.ofSection? kube, ← section? MonitorLayer.ofSection? monitor,
    ← section? LoggingLayer.ofSection? logging⟩

/-! ### JSON -/

/-- A field of JSON; `null` leaves it open. -/
def fieldOfJson : Json → Option FieldValue
  | .null => none
  | .string s => some (.text s)
  | .number (.integer n) => some (.number n)
  | .bool b => some (.flag b)
  | _ => some .other

/-- A section of JSON of so many fields; `null` stands for a missing one. -/
def sectionOfJson (size : Nat) : Json → Option SectionValue
  | .null => none
  | .object members => some (.named (members.map fun m => (m.1, fieldOfJson m.2)))
  | .array items =>
    if items.length ≤ size then some (.ordered (items.map fieldOfJson)) else some .other
  | _ => some .other

/-- Reads a layer from sections of JSON. -/
def ofJsonSections? (kube monitor logging : Json) : Option Layer :=
  ofSections? (sectionOfJson KubeLayer.names.length kube)
    (sectionOfJson MonitorLayer.names.length monitor)
    (sectionOfJson LoggingLayer.names.length logging)

/-- Reads a layer from JSON. -/
def ofJson? : Json → Option Layer
  | .object members =>
    let part (name : String) : Json := (Json.lookup name members).getD .null
    ofJsonSections? (part "kube") (part "monitor") (part "logging")
  | .array items =>
    if items.length ≤ names.length then
      ofJsonSections? ((items[0]?).getD .null) ((items[1]?).getD .null) ((items[2]?).getD .null)
    else none
  | _ => none

/-! ### TOML -/

/-- A field of TOML. -/
def fieldOfToml : Toml.Value → FieldValue
  | .text s => .text s
  | .integer n => .number n
  | .flag b => .flag b
  | _ => .other

/-- A section of TOML. A date is a table whose entries no section knows. -/
def sectionOfToml : Toml.Value → SectionValue
  | .table entries => .named (entries.map fun e => (e.1, some (fieldOfToml e.2)))
  | .array items => .ordered (items.map fun v => some (fieldOfToml v))
  | .dateTime => .named []
  | _ => .other

/-- Reads a layer from the text of a TOML document. -/
def ofToml? (text : String) : Option Layer := do
  let entries ← Toml.parse? text
  let part (name : String) : Option SectionValue := (entries.lookup name).map sectionOfToml
  ofSections? (part "kube") (part "monitor") (part "logging")

end Layer

end RunOperator
