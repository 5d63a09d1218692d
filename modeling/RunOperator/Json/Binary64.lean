import RunOperator.Json.Basic

/-!
# Floating-point numbers of 64 bits

A fraction of a JSON text is held as a floating-point number of 64 bits. The magnitude of such a
number is a multiple of the smallest one, `2 ^ -1074`, and is counted in this unit here, so that the
arithmetic is that of whole numbers.

A text is read with an error of a few units in the last place at most: its digits are rounded, and
then multiplied or divided by a power of ten that is rounded too. A number is written with as few
digits as are needed to tell it from all others.
-/

namespace RunOperator

namespace Binary64

/-- The binary places behind the point of the smallest number. -/
@[irreducible]
def unitPlaces : Nat := 1074

/-- The number of units in one. -/
def one : Nat := Nat.pow 2 unitPlaces

/-- No finite number has as many units as this. -/
def limit : Nat := Nat.pow 2 1024 * one

/-- The distance of the numbers around a magnitude. -/
def spacing (units : Nat) : Nat := Nat.pow 2 (units.log2 - 52)

/-- The magnitude that is nearest to a quotient of units. Of two that are equally near it is the one
whose last binary digit is zero. -/
def nearest (n d : Nat) : Nat :=
  let step := d * spacing (n / d)
  let count := n / step
  let rest := n % step
  if 2 * rest < step ∨ 2 * rest = step ∧ count % 2 = 0 then count * spacing (n / d)
  else (count + 1) * spacing (n / d)

/-- The magnitude that is nearest to a whole number. -/
def ofNat (n : Nat) : Nat := nearest (n * one) 1

/-- The product of two magnitudes. -/
def mul (a b : Nat) : Nat := nearest (a * b) one

/-- The quotient of two magnitudes. -/
def div (a b : Nat) : Nat := nearest (a * one) b

/-- A power of ten. -/
def tenTo (n : Nat) : Nat := ofNat (Nat.pow 10 n)

/-- The largest power of ten that is finite. -/
def largestPower : Nat := 308

/-- The magnitude of digits with an exponent, unless it is too large. Where the exponent is so far
below that its power of ten is not finite, the digits are divided twice. -/
def ofScientific? (digits : Nat) (exponent : Int) : Option Nat :=
  let m := ofNat digits
  let places := exponent.natAbs
  if 0 ≤ exponent then
    if digits = 0 then some 0
    else if largestPower < places then none
    else
      let product := mul m (tenTo places)
      if product < limit then some product else none
  else if places ≤ largestPower then some (div m (tenTo places))
  else if places ≤ 2 * largestPower then
    some (div (div m (tenTo largestPower)) (tenTo (places - largestPower)))
  else some 0

/-! ### Decimals -/

/-- The magnitude that is nearest to a decimal. -/
def ofDecimal (d : Decimal) : Nat :=
  nearest (d.digits * Nat.pow 10 d.exponent.toNat * one) (Nat.pow 10 (-d.exponent).toNat)

/-- The two multiples of a power of ten around a magnitude, the nearer one first. -/
def neighbours (units : Nat) (exponent : Int) : List Nat :=
  let n := units * Nat.pow 10 (-exponent).toNat
  let d := one * Nat.pow 10 exponent.toNat
  let below := n / d
  let rest := n % d
  if 2 * rest < d ∨ 2 * rest = d ∧ below % 2 = 0 then [below, below + 1] else [below + 1, below]

/-- The multiple of a power of ten that stands for a magnitude, if there is one. -/
def decimalAt? (negative : Bool) (units : Nat) (exponent : Int) : Option Decimal :=
  ((neighbours units exponent).map (⟨negative, ·, exponent⟩)).find? fun d => ofDecimal d == units

/-- Every magnitude is told from all others by this many digits. -/
def enoughDigits : Nat := 17

/-- An exponent whose power of ten exceeds a magnitude. -/
def topExponent (units : Nat) : Int := (decimalLength units : Int) - decimalLength one + 1

/-- The shortest decimal that stands for a magnitude, found by trying smaller and smaller
exponents. -/
def shortest? (negative : Bool) (units : Nat) : Option Decimal :=
  (List.range (enoughDigits + 2)).findSome? fun i =>
    decimalAt? negative units (topExponent units - (i : Nat))

/-- The exact decimal of a magnitude. It has as many decimal places as the unit has binary ones. -/
def exactDecimal (negative : Bool) (units : Nat) : Decimal :=
  ⟨negative, units * Nat.pow 5 unitPlaces, -unitPlaces⟩

/-- The number that is written for a magnitude and its sign. -/
def toDecimal (negative : Bool) (units : Nat) : Decimal :=
  if units = 0 then ⟨negative, 0, 0⟩
  else (shortest? negative units).getD (exactDecimal negative units)

end Binary64

end RunOperator
