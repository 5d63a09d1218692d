import RunOperator.Unicode.Folding
import RunOperator.Unicode.Letter

/-!
# Sets of characters in patterns

What a class of characters holds depends on the flags in force: without the Unicode flag classes
hold ASCII characters only, and a class that would reach beyond them is refused.
-/

namespace RunOperator.Pattern

open Unicode (Ranges)

/-- What the flags of a pattern switch. -/
structure Flags where
  ignoreCase : Bool
  multiLine : Bool
  dotMatchesAll : Bool
  unicode : Bool
  crlf : Bool
  /-- Blanks and comments in the pattern mean nothing. -/
  ignoreBlanks : Bool
  deriving DecidableEq, Inhabited

/-- The flags in force at the start of a pattern. -/
def Flags.initial : Flags where
  ignoreCase := false
  multiLine := false
  dotMatchesAll := false
  unicode := true
  crlf := false
  ignoreBlanks := false

namespace CharSet

/-- The set of one character. -/
def one (c : Char) : Ranges := Ranges.interval c.toNat c.toNat

/-- The characters from one to another. -/
def range (low high : Char) : Ranges := Ranges.interval low.toNat high.toNat

/-- The characters of a list. -/
def ofList (cs : List Char) : Ranges := Ranges.ofCodes (cs.map Char.toNat)

/-- The set together with the other cases of its ASCII letters. -/
def foldedAscii (a : Ranges) : Ranges :=
  let swapCase (c : Char) : Char := if c.isUpper then c.toLower else c.toUpper
  let letters := (List.range 128).map Char.ofNat
  a.union (ofList ((letters.filter fun c => a.contains c.toNat).map swapCase))

/-- With the flag for it, the set together with the other cases of its characters. -/
def folded (flags : Flags) (a : Ranges) : Ranges :=
  if !flags.ignoreCase then a else if flags.unicode then a.folded else foldedAscii a

/-- The set holds ASCII characters only. -/
def isAscii (a : Ranges) : Bool := a.bounds.all (·.2 < 128)

/-- The set, unless the flags confine patterns to ASCII and it reaches beyond. -/
def confined? (flags : Flags) (a : Ranges) : Option Ranges :=
  if flags.unicode || isAscii a then some a else none

/-- The set or its complement. -/
def negatedIf (negated : Bool) (a : Ranges) : Ranges := if negated then a.complement else a

/-- The blanks of ASCII. -/
def asciiSpace : Ranges := ofList ['\t', '\n', '\x0b', '\x0c', '\r', ' ']

/-- Letters and digits of ASCII. -/
def asciiAlphanumeric : Ranges :=
  Ranges.unionAll [range '0' '9', range 'A' 'Z', range 'a' 'z']

/-- Letters, digits and the underscore of ASCII. -/
def asciiWord : Ranges := asciiAlphanumeric.union (one '_')

/-- Decimal digits. -/
def digit (flags : Flags) : Ranges :=
  if flags.unicode then Unicode.inCategories ["nd"] else range '0' '9'

/-- White space. -/
def space (flags : Flags) : Ranges :=
  if flags.unicode then (Unicode.property? "wspace").getD asciiSpace else asciiSpace

/-- Characters of words. -/
def word (flags : Flags) : Ranges :=
  if flags.unicode then Unicode.wordCharacters else asciiWord

/-- The ASCII class of a name in brackets and colons. -/
def named? : String → Option Ranges
  | "alnum" => some asciiAlphanumeric
  | "alpha" => some ((range 'A' 'Z').union (range 'a' 'z'))
  | "ascii" => some (range '\x00' '\x7f')
  | "blank" => some (ofList ['\t', ' '])
  | "cntrl" => some ((range '\x00' '\x1f').union (one '\x7f'))
  | "digit" => some (range '0' '9')
  | "graph" => some (range '!' '~')
  | "lower" => some (range 'a' 'z')
  | "print" => some (range ' ' '~')
  | "punct" => some ((range '!' '~').difference asciiAlphanumeric)
  | "space" => some asciiSpace
  | "upper" => some (range 'A' 'Z')
  | "word" => some asciiWord
  | "xdigit" => some (Ranges.unionAll [range '0' '9', range 'A' 'F', range 'a' 'f'])
  | _ => none

end CharSet

end RunOperator.Pattern
