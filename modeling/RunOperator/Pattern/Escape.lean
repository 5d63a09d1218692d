import RunOperator.Pattern.CharSet
import RunOperator.Pattern.Expr
import RunOperator.Text.Blank
import RunOperator.Text.Digit
import RunOperator.Unicode.Script

/-!
# Characters, classes and positions behind a backslash

A backslash takes the special meaning from a punctuation character, and gives one to some letters:
it names control characters, characters by their code, classes of characters, and positions.
-/

namespace RunOperator.Pattern

open Unicode (Ranges)

/-! ### Reading over blanks -/

/-- The text without blanks and comments at its start; `inComment` while a comment is read. -/
def skipBlanks (inComment : Bool) : List Char → List Char
  | [] => []
  | c :: rest =>
    if inComment then skipBlanks (c != '\n') rest
    else if Text.isBlank c then skipBlanks false rest
    else if c = '#' then skipBlanks true rest
    else c :: rest

/-- The text with insignificant blanks at its start skipped, where flags make them so. -/
def significant (flags : Flags) (s : List Char) : List Char :=
  if flags.ignoreBlanks then skipBlanks false s else s

/-! ### Properties by name -/

/-- A property name in lower case without separators and without a leading `is`. -/
def normalizeName (name : List Char) : String :=
  let isKept (c : Char) : Bool := !(c == ' ' || c == '_' || c == '-') && c.toNat < 128
  match (name.filter isKept).map Char.toLower with
  | 'i' :: 's' :: rest => if rest = ['c'] then "isc" else String.ofList rest
  | kept => String.ofList kept

/-- The class of characters that a property name stands for. -/
def propertyByName? (name : List Char) : Option Ranges :=
  let n := normalizeName name
  let property := if n = "cf" || n = "sc" || n = "lc" then none else Unicode.property? n
  property.or ((Unicode.category? n).or (Unicode.script? n))

/-- The class of characters for which a property has a value. -/
def propertyByValue? (name value : List Char) : Option Ranges :=
  let n := normalizeName name
  let v := normalizeName value
  if n = "gc" || n = "generalcategory" then Unicode.category? v
  else if n = "sc" || n = "script" || n = "scx" || n = "scriptextensions" then Unicode.script? v
  else none

/-- Cuts a text at the first place where the mark stands. -/
def cutAt (mark : List Char) : List Char → Option (List Char × List Char)
  | [] => none
  | c :: rest =>
    if mark.isPrefixOf (c :: rest) then some ([], (c :: rest).drop mark.length)
    else (cutAt mark rest).map fun parts => (c :: parts.1, parts.2)

/-- The class that the text between the braces of a property stands for. -/
def propertyQuery? (query : List Char) : Option Ranges :=
  match cutAt ['!', '='] query with
  | some (name, value) => (propertyByValue? name value).map Ranges.complement
  | none =>
    match (cutAt [':'] query).or (cutAt ['='] query) with
    | some (name, value) => propertyByValue? name value
    | none => propertyByName? query

/-! ### Escapes -/

/-- What stands behind a backslash. -/
inductive Escape where
  /-- A character; `byte` when it was given by two hexadecimal digits. -/
  | char (c : Char) (byte : Bool)
  | set (s : Ranges)
  | look (l : Look)
  deriving Inhabited

/-- The character whose code hexadecimal digits give. -/
def charOfDigits? (digits : List Nat) : Option Char :=
  Text.charOfCode? (Text.ofDigitValues 16 digits)

/-- Reads a number of hexadecimal digits. -/
def hexDigits (flags : Flags) : Nat → List Char → Option (List Nat × List Char)
  | 0, s => some ([], s)
  | n + 1, c :: rest => do
    let d ← Text.hexDigit? c
    let (ds, rest) ← hexDigits flags n (significant flags rest)
    return (d :: ds, rest)
  | _ + 1, [] => none

/-- Reads hexadecimal digits up to a closing brace. -/
def hexBraced (flags : Flags) (s : List Char) : Option (List Nat × List Char) :=
  let inner := s.takeWhile (· != '\x7d')
  match s.dropWhile (· != '\x7d') with
  | [] => none
  | _ :: rest => do
    let digits := if flags.ignoreBlanks then inner.filter (!Text.isBlank ·) else inner
    let ds ← digits.mapM Text.hexDigit?
    guard !ds.isEmpty
    return (ds, significant flags rest)

/-- Reads a character by its code: so many digits, or any number of them in braces. -/
def hexChar (flags : Flags) (width : Nat) (s : List Char) : Option (Escape × List Char) := do
  match significant flags s with
  | [] => none
  | '\x7b' :: rest =>
    let (ds, rest) ← hexBraced flags rest
    return (.char (← charOfDigits? ds) false, rest)
  | s =>
    let (ds, rest) ← hexDigits flags width s
    return (.char (← charOfDigits? ds) (width == 2), rest)

/-- Reads a property class: one letter, or a name in braces. -/
def propertyClass (flags : Flags) (negated : Bool) (s : List Char) :
    Option (Escape × List Char) := do
  let (set, rest) ← match significant flags s with
    | [] => none
    | '\x7b' :: rest =>
      match rest.dropWhile (· != '\x7d') with
      | [] => none
      | _ :: after => (propertyQuery? (rest.takeWhile (· != '\x7d'))).map (·, after)
    | c :: rest =>
      if c = '\\' then none else (propertyByName? [c]).map (·, significant flags rest)
  guard flags.unicode
  return (.set (CharSet.negatedIf negated (CharSet.folded flags set)), rest)

/-- The position that a word in braces behind `\b` names. -/
def boundary? (unicode : Bool) : String → Option Look
  | "start" => some (.wordStart unicode)
  | "end" => some (.wordEnd unicode)
  | "start-half" => some (.wordStartHalf unicode)
  | "end-half" => some (.wordEndHalf unicode)
  | _ => none

/-- A letter or a hyphen, as the names of positions have them. -/
def isBoundaryChar (c : Char) : Bool := c.isAlpha || c == '-'

/-- Reads what may follow `\b`: the name of a position in braces. Braces that do not begin with a
letter belong to a repetition. -/
def boundary (flags : Flags) (s : List Char) : Option (Escape × List Char) :=
  let plain := some (Escape.look (.wordBoundary flags.unicode), s)
  match s with
  | '\x7b' :: rest =>
    match significant flags rest with
    | [] => none
    | c :: rest =>
      if !isBoundaryChar c then plain
      else
        let blank (c : Char) : Bool := flags.ignoreBlanks && Text.isBlank c
        let inner := (c :: rest).takeWhile fun c => isBoundaryChar c || blank c
        match (c :: rest).drop inner.length with
        | '\x7d' :: after =>
          (boundary? flags.unicode (String.ofList (inner.filter isBoundaryChar))).map
            fun l => (.look l, after)
        | _ => none
  | _ => plain

/-- A class of one letter: digits, white space or characters of words, in capitals the others. -/
def letterClass? (flags : Flags) (c : Char) : Option Ranges :=
  let base : Option Ranges :=
    match c.toLower with
    | 'd' => some (CharSet.digit flags)
    | 's' => some (CharSet.space flags)
    | 'w' => some (CharSet.word flags)
    | _ => none
  base.bind fun s => CharSet.confined? flags (CharSet.negatedIf c.isUpper s)

/-- A punctuation character, whose special meaning a backslash takes away. -/
def isEscapable (c : Char) : Bool := c.toNat < 128 && !c.isAlphanum && c != '<' && c != '>'

/-- Reads what follows a backslash. -/
def escape (flags : Flags) : List Char → Option (Escape × List Char)
  | [] => none
  | c :: rest =>
    match c with
    | 'x' => hexChar flags 2 rest
    | 'u' => hexChar flags 4 rest
    | 'U' => hexChar flags 8 rest
    | 'p' => propertyClass flags false rest
    | 'P' => propertyClass flags true rest
    | 'a' => some (.char '\x07' false, rest)
    | 'f' => some (.char '\x0c' false, rest)
    | 't' => some (.char '\t' false, rest)
    | 'n' => some (.char '\n' false, rest)
    | 'r' => some (.char '\r' false, rest)
    | 'v' => some (.char '\x0b' false, rest)
    | 'A' => some (.look .textStart, rest)
    | 'z' => some (.look .textEnd, rest)
    | 'b' => boundary flags rest
    | 'B' => some (.look (.notWordBoundary flags.unicode), rest)
    | '<' => some (.look (.wordStart flags.unicode), rest)
    | '>' => some (.look (.wordEnd flags.unicode), rest)
    | c =>
      if "dswDSW".toList.contains c then (letterClass? flags c).map fun s => (.set s, rest)
      else if isEscapable c then some (.char c false, rest)
      else none

end RunOperator.Pattern
