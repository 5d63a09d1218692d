import RunOperator.Json.Basic

/-!
# Writing JSON

Values are written without blanks. A fraction is written with a point or an exponent, so that it
is read back as a fraction; an exponent is used where the point would stand far from the digits.
Inside strings the quote, the backslash and the control characters are escaped, and everything else
stands for itself.
-/

namespace RunOperator

namespace Decimal

/-- A fraction whose point stands behind more digits than this is written with an exponent. -/
def positionalLimit : Nat := 16

/-- A fraction whose point stands more than this many places before its digits is written with an
exponent. -/
def leadingZeros : Nat := 4

/-- A fraction in digits, with a point or an exponent. -/
def format (d : Decimal) : String :=
  let digits := Nat.toDigits 10 d.digits
  -- The point stands behind as many digits as this.
  let point : Int := digits.length + d.exponent
  let written :=
    if 0 ≤ d.exponent ∧ point ≤ positionalLimit then
      digits ++ List.replicate d.exponent.toNat '0' ++ ['.', '0']
    else if 0 < point ∧ point ≤ positionalLimit then
      digits.take point.toNat ++ '.' :: digits.drop point.toNat
    else if -leadingZeros ≤ point ∧ point ≤ 0 then
      '0' :: '.' :: List.replicate point.natAbs '0' ++ digits
    else
      let places := digits.drop 1
      digits.take 1 ++ (if places.isEmpty then [] else '.' :: places) ++ 'e' ::
        (toString (point - 1)).toList
  String.ofList (if d.negative then '-' :: written else written)

end Decimal

/-- The written form of a number. -/
def JsonNumber.format : JsonNumber → String
  | .integer n =>
    (if n < 0 then "-" else "") ++ String.ofList (Nat.toDigits 10 n.natAbs)
  | .fraction d => d.format

namespace Json

/-- A character inside a string. -/
def escapeChar (c : Char) : List Char :=
  match c with
  | '"' => ['\\', '"']
  | '\\' => ['\\', '\\']
  | '\n' => ['\\', 'n']
  | '\r' => ['\\', 'r']
  | '\t' => ['\\', 't']
  | c =>
    if c.toNat < 32 then
      ['\\', 'u', '0', '0', Nat.digitChar (c.toNat / 16), Nat.digitChar (c.toNat % 16)]
    else [c]

/-- A string with its quotes. -/
def quote (s : String) : String :=
  String.ofList ('"' :: s.toList.flatMap escapeChar ++ ['"'])

mutual

/-- The written form of a value. -/
def render : Json → String
  | .null => "null"
  | .bool true => "true"
  | .bool false => "false"
  | .number n => n.format
  | .string s => quote s
  | .array items => "[" ++ renderItems items ++ "]"
  | .object members => "\x7b" ++ renderMembers members ++ "\x7d"

/-- The items of an array with commas between them. -/
def renderItems : List Json → String
  | [] => ""
  | [v] => render v
  | v :: rest => render v ++ "," ++ renderItems rest

/-- The members of an object with commas between them. -/
def renderMembers : List (String × Json) → String
  | [] => ""
  | [(name, v)] => quote name ++ ":" ++ render v
  | (name, v) :: rest => quote name ++ ":" ++ render v ++ "," ++ renderMembers rest

end

end Json

end RunOperator
