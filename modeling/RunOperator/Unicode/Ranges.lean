/-!
# Sets of code points

A set of code points is kept as a list of ranges in ascending order with gaps between them. In
tables it is written as numbers that stand alternately for the length of a gap and the length of a
range, from code point 0 on.
-/

namespace RunOperator.Unicode

/-- A set of code points as ranges with both ends included. -/
structure Ranges where
  bounds : List (Nat × Nat)
  deriving DecidableEq, Inhabited

namespace Ranges

/-- The code point lies in a range. -/
def contains (r : Ranges) (code : Nat) : Bool := r.bounds.any fun b => b.1 ≤ code && code ≤ b.2

/-- The numbers of a text in which they stand between blanks. -/
def numbers (text : String) : List Nat :=
  let step (state : List Nat × Option Nat) (c : Char) : List Nat × Option Nat :=
    if c.isDigit then (state.1, some (state.2.getD 0 * 10 + (c.toNat - '0'.toNat)))
    else (state.2.toList ++ state.1, none)
  let (done, last) := text.toList.foldl step ([], none)
  (last.toList ++ done).reverse

/-- The ranges that gaps and lengths stand for, beginning at a code point. -/
def ofDeltas (start : Nat) : List Nat → List (Nat × Nat)
  | gap :: length :: rest =>
    (start + gap, start + gap + length - 1) :: ofDeltas (start + gap + length) rest
  | _ => []

/-- The set that a text of gaps and lengths stands for. -/
def ofText (text : String) : Ranges := ⟨ofDeltas 0 (numbers text)⟩

/-! ### Operations -/

/-- Adds a range to ranges that begin no later, of which the last stands first. -/
def absorb (done : List (Nat × Nat)) (b : Nat × Nat) : List (Nat × Nat) :=
  match done with
  | last :: done =>
    if b.1 ≤ last.2 + 1 then (last.1, max last.2 b.2) :: done else b :: last :: done
  | [] => [b]

/-- The set of the code points that lie in some ranges. -/
def ofBounds (bounds : List (Nat × Nat)) : Ranges :=
  ⟨((bounds.mergeSort fun a b => a.1 ≤ b.1).foldl absorb []).reverse⟩

/-- The set of some code points. -/
def ofCodes (codes : List Nat) : Ranges := ofBounds (codes.map fun c => (c, c))

/-- The set without code points. -/
def empty : Ranges := ⟨[]⟩

/-- The largest code point. -/
def lastCode : Nat := 0x10ffff

/-- The code points from one to another. -/
def interval (low high : Nat) : Ranges := ⟨[(low, high)]⟩

/-- The code points in some of the sets. -/
def unionAll (sets : List Ranges) : Ranges := ofBounds (sets.flatMap bounds)

/-- The code points in either set. -/
def union (a b : Ranges) : Ranges := unionAll [a, b]

/-- The gaps between ranges, from a code point on. -/
def gaps (start : Nat) : List (Nat × Nat) → List (Nat × Nat)
  | [] => if start ≤ lastCode then [(start, lastCode)] else []
  | b :: rest =>
    if start < b.1 then (start, b.1 - 1) :: gaps (b.2 + 1) rest else gaps (b.2 + 1) rest

/-- The code points that are not in the set. -/
def complement (a : Ranges) : Ranges := ⟨gaps 0 a.bounds⟩

/-- The code points in both sets. -/
def intersection (a b : Ranges) : Ranges := (a.complement.union b.complement).complement

/-- The code points in the first set only. -/
def difference (a b : Ranges) : Ranges := a.intersection b.complement

/-- The code points in exactly one set. -/
def symmetricDifference (a b : Ranges) : Ranges := (a.difference b).union (b.difference a)

end Ranges

/-- A set of code points with its names, in lower case and without separators. -/
structure NamedRanges where
  names : List String
  ranges : Ranges
  deriving Inhabited

/-- The set of a name in a table. -/
def findRanges? (table : List NamedRanges) (name : String) : Option Ranges :=
  (table.find? (·.names.contains name)).map (·.ranges)

end RunOperator.Unicode
