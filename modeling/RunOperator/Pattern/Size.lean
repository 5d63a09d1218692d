import RunOperator.Unicode.Ranges

/-!
# The size of an automaton

A pattern is matched by an automaton over the bytes of UTF-8, which may not take more than a
certain amount of memory. The larger of the automata that are built reads bytes backwards. For a set
that reaches beyond ASCII it branches into one sequence of byte ranges for each part of the set,
where sequences that begin alike share their beginnings.
-/

namespace RunOperator.Pattern

open Unicode (Ranges)

namespace Size

/-- The bytes of a state. -/
def state : Nat := 32

/-- The bytes of a transition, in a state with any number of them. -/
def transition : Nat := 8

/-- The bytes of a branch, in a state with any number of them. -/
def branch : Nat := 4

/-- The largest automaton that is admitted: ten mebibytes. -/
def limit : Nat := 10485760

/-- The numbers of bytes behind the first one, with the code points that are written so. -/
def lengths : List (Nat × (Nat × Nat)) :=
  [(0, (0, 0x7f)), (1, (0x80, 0x7ff)), (2, (0x800, 0xd7ff)), (2, (0xe000, 0xffff)),
    (3, (0x10000, 0x10ffff))]

/-- What is added to the first byte, by the number of bytes behind it. -/
def firstByte : Nat → Nat
  | 0 => 0
  | 1 => 0xc0
  | 2 => 0xe0
  | _ => 0xf0

/-- Cuts a range of code points such that every part is a sequence of byte ranges, for code points
that agree in all but so many bytes and the one before them. -/
def parts : Nat → Nat → Nat → List (Nat × Nat)
  | 0, low, high => [(low, high)]
  | k + 1, low, high =>
    let block := Nat.pow 64 (k + 1)
    if low / block = high / block then parts k low high
    else
      let startsInside := low % block ≠ 0
      let endsInside := high % block ≠ block - 1
      let first := if startsInside then (low / block + 1) * block else low
      let last := if endsInside then high / block * block - 1 else high
      (if startsInside then parts k low (first - 1) else [])
        ++ (if first ≤ last then [(first, last)] else [])
        ++ (if endsInside then parts k (last + 1) high else [])

/-- The byte ranges of a part. -/
def byteRanges (k : Nat) (part : Nat × Nat) : List (Nat × Nat) :=
  (List.range (k + 1)).reverse.map fun i =>
    let block := Nat.pow 64 i
    let byte (code : Nat) : Nat :=
      if i = k then firstByte k + code / block else 0x80 + code / block % 64
    (byte part.1, byte part.2)

/-- The sequences of byte ranges of a range of code points. -/
def sequences (b : Nat × Nat) : List (List (Nat × Nat)) :=
  lengths.flatMap fun (k, bounds) =>
    let low := max b.1 bounds.1
    let high := min b.2 bounds.2
    if low ≤ high then (parts k low high).map (byteRanges k) else []

/-- The length of the longest common beginning. -/
def common {α : Type} [DecidableEq α] : List α → List α → Nat
  | a :: as, b :: bs => if a = b then common as bs + 1 else 0
  | _, _ => 0

/-- The number of states for sequences of which each shares the beginning of the one before. -/
def states (before : List (Nat × Nat)) : List (List (Nat × Nat)) → Nat
  | [] => 0
  | s :: rest => s.length - common before s + states s rest

/-- The size of a character. -/
def ofCode (code : Nat) : Nat := state * (sequences (code, code)).flatten.length

/-- The size of a set of characters. -/
def ofSet (a : Ranges) : Nat :=
  match a.bounds with
  | [] => state
  | [b] => if b.1 = b.2 then ofCode b.1 else several [b]
  | bounds => several bounds
where
  /-- The size of a set of several characters. -/
  several (bounds : List (Nat × Nat)) : Nat :=
    if bounds.all (·.2 < 128) then 2 * state + transition * bounds.length
    else
      let found := bounds.flatMap sequences
      2 * state + branch * found.length + state * states [] found

end Size

end RunOperator.Pattern
