/-!
# Digits

What digits stand for, as numbers are written to the base 10 and characters by their codes.
-/

namespace RunOperator.Text

/-- The value of a hexadecimal digit. -/
def hexDigit? (c : Char) : Option Nat :=
  if c.isDigit then some (c.toNat - '0'.toNat)
  else if 'a' ≤ c ∧ c ≤ 'f' then some (c.toNat - 'a'.toNat + 10)
  else if 'A' ≤ c ∧ c ≤ 'F' then some (c.toNat - 'A'.toNat + 10)
  else none

/-- The number that digits stand for, the first of which counts most. -/
def ofDigitValues (base : Nat) (digits : List Nat) : Nat :=
  digits.foldl (fun n d => n * base + d) 0

/-- The number that decimal digits stand for. -/
def natOfDigits (digits : List Char) : Nat :=
  ofDigitValues 10 (digits.map fun c => c.toNat - '0'.toNat)

/-- The character of a code, unless the code is beyond the last or a surrogate. -/
def charOfCode? (code : Nat) : Option Char :=
  if code.isValidChar then some (Char.ofNat code) else none

end RunOperator.Text
