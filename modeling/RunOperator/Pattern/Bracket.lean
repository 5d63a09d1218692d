import RunOperator.Pattern.Escape

/-!
# Bracketed classes

A class in brackets is a union of characters, ranges, named classes and nested brackets. Three
operators combine unions from left to right: `&&` for what both hold, `--` for what only the left
holds, and `~~` for what exactly one holds. A bracket at the start and hyphens at the start or the
end stand for themselves.
-/

namespace RunOperator.Pattern

open Unicode (Ranges)

/-- A class with the depth of its nesting. -/
structure Nested where
  set : Ranges
  depth : Nat
  deriving Inhabited

/-- How two classes are combined. -/
inductive SetOp where
  | intersection
  | difference
  | symmetricDifference
  deriving DecidableEq, Inhabited

namespace SetOp

/-- The combination of two sets. -/
def combine : SetOp → Ranges → Ranges → Ranges
  | intersection => Ranges.intersection
  | difference => Ranges.difference
  | symmetricDifference => Ranges.symmetricDifference

/-- The combination of two classes. -/
def apply (op : SetOp) (flags : Flags) (a b : Nested) : Nested where
  set := op.combine (CharSet.folded flags a.set) (CharSet.folded flags b.set)
  depth := max a.depth b.depth + 1

end SetOp

namespace Bracket

/-- The union of some classes, which stand in reverse. -/
def unionOf : List Nested → Nested
  | [] => ⟨Ranges.empty, 0⟩
  | [n] => n
  | items => ⟨Ranges.unionAll (items.map Nested.set),
      items.foldl (fun d n => max d n.depth) 0 + 1⟩

/-- A part of a class that waits for the rest: an outer union while a nested bracket is read, or
the left side of an operator. -/
inductive Pending where
  | outer (items : List Nested) (negated : Bool)
  | left (op : SetOp) (side : Nested)

/-- The union that is being read and what waits for it, innermost first. -/
structure State where
  items : List Nested
  pending : List Pending

/-- The right side of an operator that waits for one, or the class itself. -/
def combine (flags : Flags) (n : Nested) : List Pending → Nested × List Pending
  | .left op side :: rest => (op.apply flags side n, rest)
  | pending => (n, pending)

/-- The hyphens at the start of a bracket, which stand for themselves. -/
def leadingHyphens (flags : Flags) : Nat → List Char → Option (List Nested × List Char)
  | 0, s => some ([], s)
  | n + 1, s =>
    match s with
    | [] => none
    | '-' :: rest => do
      let (items, rest) ← leadingHyphens flags n (significant flags rest)
      return (⟨CharSet.one '-', 0⟩ :: items, rest)
    | s => some ([], s)

/-- Reads the start of a bracket, after the bracket itself: whether the class is negated, and the
characters that only stand for themselves here. -/
def opening (flags : Flags) (s : List Char) : Option (Bool × List Nested × List Char) := do
  let s := significant flags s
  let (negated, s) ← match s with
    | [] => none
    | '^' :: rest => some (true, significant flags rest)
    | s => some (false, s)
  let (items, s) ← leadingHyphens flags (s.length + 1) s
  match items, s with
  | _, [] => none
  | [], ']' :: rest =>
    let rest := significant flags rest
    if rest.isEmpty then none else some (negated, [⟨CharSet.one ']', 0⟩], rest)
  | items, s => some (negated, items, s)

/-- Reads a named class such as `[:alpha:]`, after its bracket. -/
def named (flags : Flags) : List Char → Option (Nested × List Char)
  | ':' :: rest => do
    let (negated, rest) := match rest with
      | '^' :: rest => (true, rest)
      | rest => (false, rest)
    let name := rest.takeWhile (· != ':')
    match rest.drop name.length with
    | ':' :: ']' :: after =>
      let set ← CharSet.named? (String.ofList name)
      return (⟨CharSet.negatedIf negated (CharSet.folded flags set), 0⟩, after)
    | _ => none
  | _ => none

/-- Reads one character or class of a bracket. -/
def item (flags : Flags) : List Char → Option (Escape × List Char)
  | [] => none
  | '\\' :: rest => escape flags rest
  | c :: rest => some (.char c false, rest)

/-- The character, where the flags admit it in a class. -/
def literal? (flags : Flags) : Escape → Option Char
  | .char c byte => if flags.unicode || byte || c.toNat < 128 then some c else none
  | _ => none

/-- The class of a single item. -/
def itemSet? (flags : Flags) : Escape → Option Ranges
  | .set s => some s
  | e => (literal? flags e).map CharSet.one

/-- Reads an item or a range of a bracket. -/
def rangeOrItem (flags : Flags) (s : List Char) : Option (Nested × List Char) := do
  let (first, s) ← item flags s
  let s := significant flags s
  match s with
  | [] => none
  | '-' :: rest =>
    let next := (significant flags rest).head?
    if next = some ']' ∨ next = some '-' then
      return (⟨← itemSet? flags first, 0⟩, s)
    else
      let (last, rest) ← item flags (significant flags rest)
      let low ← literal? flags first
      let high ← literal? flags last
      if low ≤ high then return (⟨CharSet.range low high, 0⟩, rest) else none
  | s => return (⟨← itemSet? flags first, 0⟩, s)

/-- The class that a closing bracket completes. -/
def close? (flags : Flags) (negated : Bool) (n : Nested) : Option Nested :=
  (CharSet.confined? flags (CharSet.negatedIf negated (CharSet.folded flags n.set))).map
    fun s => ⟨s, n.depth + 1⟩

/-- Whether the text starts with two of a character. -/
def startsWithTwo (c : Char) : List Char → Bool
  | a :: b :: _ => a == c && b == c
  | _ => false

/-- The operator that a text starts with. -/
def operator? (s : List Char) : Option SetOp :=
  if startsWithTwo '&' s then some .intersection
  else if startsWithTwo '-' s then some .difference
  else if startsWithTwo '~' s then some .symmetricDifference
  else none

/-- One step of reading a class: the class when it is complete, or the state to go on with. -/
def step (flags : Flags) (st : State) (s : List Char) :
    Option ((Nested ⊕ State) × List Char) := do
  match s with
  | [] => none
  | ']' :: rest =>
    let (n, pending) := combine flags (unionOf st.items) st.pending
    match pending with
    | .outer items negated :: pending =>
      let closed ← close? flags negated n
      if pending.isEmpty then return (.inl closed, rest)
      else return (.inr ⟨closed :: items, pending⟩, rest)
    | _ => none
  | c :: rest =>
    if c = '[' then
      match named flags rest with
      | some (n, rest) => return (.inr ⟨n :: st.items, st.pending⟩, rest)
      | none =>
        let (negated, items, rest) ← opening flags rest
        return (.inr ⟨items.reverse, .outer st.items negated :: st.pending⟩, rest)
    else
      match operator? s with
      | some op =>
        let (n, pending) := combine flags (unionOf st.items) st.pending
        return (.inr ⟨[], .left op n :: pending⟩, s.drop 2)
      | none =>
        let (n, rest) ← rangeOrItem flags s
        return (.inr ⟨n :: st.items, st.pending⟩, rest)

/-- Reads a class from inside its outermost bracket to its end. Every step takes a character, so
that the reading ends with the text. -/
def read (flags : Flags) (st : State) (s : List Char) : Option (Nested × List Char) :=
  match step flags st (significant flags s) with
  | none => none
  | some (.inl n, rest) => some (n, rest)
  | some (.inr st, rest) => if rest.length < s.length then read flags st rest else none
termination_by s.length

/-- Reads a class after its bracket. -/
def parse (flags : Flags) (s : List Char) : Option (Nested × List Char) := do
  let (negated, items, rest) ← opening flags s
  read flags ⟨items.reverse, [.outer [] negated]⟩ rest

end Bracket

end RunOperator.Pattern
