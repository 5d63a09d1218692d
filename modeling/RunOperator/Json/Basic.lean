/-!
# JSON values

Numbers keep apart integers and decimal fractions: an integer stays an integer and a fraction
stays a fraction when a value is read and written again. A fraction that was read is the shortest
decimal of a floating-point number. An object lists its members; reading a member takes the one that
was written under that name.
-/

namespace RunOperator

/-- A decimal fraction `± digits · 10 ^ exponent`. -/
structure Decimal where
  negative : Bool
  digits : Nat
  exponent : Int
  deriving DecidableEq, Inhabited

/-- The number of decimal digits of a number. -/
def decimalLength (n : Nat) : Nat := (toString n).length

/-- The magnitude of a decimal that rounds to infinity as a floating-point number of 64 bits. Far
from the limit the position of its first digit decides. -/
def Decimal.isTooLarge (d : Decimal) : Bool :=
  let limit := Nat.pow 2 1024 - Nat.pow 2 970
  let position := d.exponent + decimalLength d.digits
  if d.digits = 0 || position < 309 then false
  else if 309 < position then true
  else if 0 ≤ d.exponent then limit ≤ d.digits * Nat.pow 10 d.exponent.toNat
  else limit * Nat.pow 10 (-d.exponent).toNat ≤ d.digits

/-- A JSON number: an integer of at most 64 bits, or a decimal fraction. -/
inductive JsonNumber where
  | integer (value : Int)
  | fraction (value : Decimal)
  deriving DecidableEq, Inhabited

/-- A JSON value. -/
inductive Json where
  | null
  | bool (value : Bool)
  | number (value : JsonNumber)
  | string (value : String)
  | array (items : List Json)
  | object (members : List (String × Json))
  deriving Inhabited

namespace Json

/-- The integer as a value. -/
def ofInt (n : Int) : Json := .number (.integer n)

/-- The number as a value. -/
def ofNat (n : Nat) : Json := .ofInt n

/-- A value or its absence, which is written `null`. -/
def ofOption {α : Type} (f : α → Json) : Option α → Json
  | none => .null
  | some a => f a

/-- A text or its absence. -/
def ofText? : Option String → Json := ofOption .string

/-- The value of a member. -/
def lookup (name : String) (members : List (String × Json)) : Option Json :=
  (members.find? fun m => m.1 == name).map Prod.snd

/-- The member of an object; `none` also for a value that is no object. -/
def get? (name : String) : Json → Option Json
  | .object members => lookup name members
  | _ => none

/-- The member of an object with `null` taken as absent. -/
def field? (name : String) (v : Json) : Option Json :=
  match v.get? name with
  | some .null => none
  | other => other

/-- The text of a string. -/
def text? : Json → Option String
  | .string s => some s
  | _ => none

/-- The value of an integer. -/
def int? : Json → Option Int
  | .number (.integer n) => some n
  | _ => none

/-- The value of a non-negative integer. -/
def nat? (v : Json) : Option Nat :=
  v.int?.bind fun n => if 0 ≤ n then some n.toNat else none

/-- The value of a truth value. -/
def bool? : Json → Option Bool
  | .bool b => some b
  | _ => none

/-- The items of an array. -/
def items? : Json → Option (List Json)
  | .array items => some items
  | _ => none

/-- The members of an object. -/
def members? : Json → Option (List (String × Json))
  | .object members => some members
  | _ => none

/-- Writes a member: the value takes the place of one of the same name, or the last place. -/
def insertMember (name : String) (value : Json) : List (String × Json) → List (String × Json)
  | [] => [(name, value)]
  | (n, v) :: rest =>
    if n = name then (n, value) :: rest else (n, v) :: insertMember name value rest

/-- A member that is written only when it is present. -/
def member? (name : String) (value : Option Json) : List (String × Json) :=
  match value with
  | some v => [(name, v)]
  | none => []

end Json

end RunOperator
