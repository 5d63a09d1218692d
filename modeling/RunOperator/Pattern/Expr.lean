import RunOperator.Unicode.Letter

/-!
# Pattern expressions

A pattern is an expression over sets of characters and conditions on positions. `Expr.ends` gives
the positions at which a match that begins at one of some given positions may end, and a text
matches when a match exists anywhere in it.

A repetition without an upper bound follows its body until it finds no new position, which happens
after at most as many rounds as the text has positions.
-/

namespace RunOperator.Pattern

/-- A condition on a position between two characters. -/
inductive Look where
  | textStart
  | textEnd
  /-- The start of a line; `crlf` when a carriage return ends lines too. -/
  | lineStart (crlf : Bool)
  | lineEnd (crlf : Bool)
  | wordBoundary (unicode : Bool)
  | notWordBoundary (unicode : Bool)
  | wordStart (unicode : Bool)
  | wordEnd (unicode : Bool)
  | wordStartHalf (unicode : Bool)
  | wordEndHalf (unicode : Bool)
  deriving DecidableEq, Inhabited

/-- A pattern expression. -/
inductive Expr where
  | empty
  /-- One character of a set. -/
  | char (set : Unicode.Ranges)
  | look (condition : Look)
  | seq (first second : Expr)
  | alt (left right : Expr)
  /-- From `low` to `high` times the body, or any number of times from `low` on. -/
  | repeated (low : Nat) (high : Option Nat) (body : Expr)
  deriving Inhabited

/-- A digit, a letter or the underscore of ASCII. -/
def isAsciiWord (c : Char) : Bool := c.isAlphanum || c == '_'

/-- A character of a word in any script. -/
def isWord (c : Char) : Bool := Unicode.wordCharacters.contains c.toNat

namespace Look

/-- The character before a position. -/
def before? (text : Array Char) (p : Nat) : Option Char := if p = 0 then none else text[p - 1]?

/-- The character, if there is one, belongs to a word. -/
def wordAt (unicode : Bool) : Option Char → Bool
  | some c => if unicode then isWord c else isAsciiWord c
  | none => false

/-- The condition holds at a position of a text. -/
def holds (l : Look) (text : Array Char) (p : Nat) : Bool :=
  let before := before? text p
  let after := text[p]?
  match l with
  | textStart => p == 0
  | textEnd => p == text.size
  | lineStart false => p == 0 || before == some '\n'
  | lineStart true =>
    p == 0 || before == some '\n' || (before == some '\r' && after != some '\n')
  | lineEnd false => p == text.size || after == some '\n'
  | lineEnd true =>
    p == text.size || after == some '\r' || (after == some '\n' && before != some '\r')
  | wordBoundary u => wordAt u before != wordAt u after
  | notWordBoundary u => wordAt u before == wordAt u after
  | wordStart u => !wordAt u before && wordAt u after
  | wordEnd u => wordAt u before && !wordAt u after
  | wordStartHalf u => !wordAt u before
  | wordEndHalf u => !wordAt u after

end Look

namespace Expr

/-- Positions of either set, each once. -/
def union (a b : List Nat) : List Nat := a ++ b.filter fun p => !a.contains p

/-- A step repeated a number of times; it ends early once it changes nothing. -/
def power (step : List Nat → List Nat) : Nat → List Nat → List Nat
  | 0, ps => ps
  | n + 1, ps =>
    let next := step ps
    if next == ps then ps else power step n next

/-- Everything that at most `rounds` steps reach: `reached` so far, of which the steps from
`frontier` have not been followed. -/
def closure (step : List Nat → List Nat) : Nat → List Nat → List Nat → List Nat
  | 0, reached, _ => reached
  | rounds + 1, reached, frontier =>
    let new := (step frontier).filter fun p => !reached.contains p
    if new.isEmpty then reached else closure step rounds (reached ++ new) new

/-- The positions at which a match from one of the given positions may end. -/
def ends (text : Array Char) : Expr → List Nat → List Nat
  | empty, ps => ps
  | char set, ps =>
    ps.filterMap fun p =>
      (text[p]?).bind fun c => if set.contains c.toNat then some (p + 1) else none
  | look condition, ps => ps.filter (condition.holds text)
  | seq first second, ps => ends text second (ends text first ps)
  | alt left right, ps => union (ends text left ps) (ends text right ps)
  | repeated low high body, ps =>
    let start := power (ends text body) low ps
    closure (ends text body) (match high with
      | some h => h - low
      | none => text.size + 1) start start

end Expr

end RunOperator.Pattern

namespace RunOperator

/-- A pattern that names are tested against. -/
structure Pattern where
  expr : Pattern.Expr
  deriving Inhabited

namespace Pattern

/-- The pattern matches somewhere in the text. -/
def accepts (p : Pattern) (text : String) : Bool :=
  let chars := text.toList.toArray
  !(p.expr.ends chars (List.range (chars.size + 1))).isEmpty

end Pattern

end RunOperator
