import RunOperator.Json.Basic
import RunOperator.Instant.Format
import RunOperator.Instant.Parser

/-!
# Reading and writing structures as JSON

A structure is read from the members of an object. A member that may be missing is read by
`optional`, for which `null` is the same as missing; a member that must not be read wrongly makes
the whole reading fail. The writers beside the readers leave out what is missing.
-/

namespace RunOperator

namespace Json

variable {α β : Type}

/-- Reads a member that may be missing or `null`; fails when it is present and unreadable. -/
def optional (members : List (String × Json)) (name : String) (read : Json → Option α) :
    Option (Option α) :=
  match lookup name members with
  | none | some .null => some none
  | some v => (read v).map some

/-- Reads a text that stands for the empty one when it is missing. -/
def textOrEmpty (members : List (String × Json)) (name : String) : Option String :=
  (optional members name text?).map (·.getD "")

/-- Reads every item of an array. -/
def readItems (read : Json → Option α) : Json → Option (List α)
  | .array items => items.mapM read
  | _ => none

/-- Reads every member of an object. -/
def readMembers (read : Json → Option α) : Json → Option (List (String × α))
  | .object members => members.mapM fun m => (read m.2).map (m.1, ·)
  | _ => none

/-- Reads a map from texts to texts. -/
def readTexts : Json → Option (List (String × String)) := readMembers text?

/-- Writes a map from texts to texts. -/
def ofTexts (texts : List (String × String)) : Json :=
  .object (texts.map fun m => (m.1, .string m.2))

/-- Writes a list of texts. -/
def ofTextList (texts : List String) : Json := .array (texts.map .string)

/-- Reads an integer that lies between two bounds. -/
def readInt (low high : Int) (v : Json) : Option Int :=
  v.int?.bind fun n => if low ≤ n ∧ n ≤ high then some n else none

/-- Reads an integer of 32 bits. -/
def readInt32 : Json → Option Int := readInt (-2147483648) 2147483647

/-- Reads an integer of 64 bits. -/
def readInt64 : Json → Option Int := readInt (-9223372036854775808) 9223372036854775807

/-- Reads a time of an object's metadata. -/
def readTime (v : Json) : Option Instant := v.text?.bind Instant.parseRelaxed?

/-- Writes a time of an object's metadata. -/
def ofTime (t : Instant) : Json := .string t.format

/-- Reads a word that stands alone or is the only member of an object, with the value `null`. -/
def readWord (ofWord? : String → Option α) : Json → Option α
  | .string w => ofWord? w
  | .object [(w, .null)] => ofWord? w
  | _ => none

/-- Writes a member that may be missing. -/
def written? (name : String) (write : α → Json) (value : Option α) : List (String × Json) :=
  member? name (value.map write)

end Json

end RunOperator
