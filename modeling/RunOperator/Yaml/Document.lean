import RunOperator.Yaml.Value

/-!
# Documents of YAML

A line holds the beginnings of items and members, and at most one value behind them. The column of
each beginning tells to which list or map it belongs: one that stands further right opens a new
list or map as the value that is awaited, and one that stands further left closes those in between.
The items of a list may stand in the column of the member whose value it is.
-/

namespace RunOperator

namespace Yaml

/-! ### Lines -/

/-- What begins in a line. -/
inductive Entry where
  | item
  | member (name : String)
  deriving DecidableEq, Inhabited

/-- The entry is a member of a map. -/
def Entry.isMember : Entry → Bool
  | item => false
  | member _ => true

/-- A line: its entries with their columns, and the value behind them. -/
structure Line where
  entries : List (Nat × Entry)
  value : List Char
  deriving Inhabited

/-- A blank or the end of a text. -/
def atBlank (text : List Char) : Bool := text.head?.all (· == ' ')

/-- Cuts a plain name from the colon behind it. -/
def plainName? : List Char → Option (List Char × List Char)
  | [] => none
  | c :: rest =>
    if c = ':' ∧ atBlank rest then some ([], rest)
    else if c = ' ' ∧ rest.head? = some '#' then none
    else (plainName? rest).map fun (name, rest) => (c :: name, rest)

/-- Cuts the name of a member from the text behind its colon. -/
def name? (text : List Char) : Option (List Char × List Char) :=
  match text with
  | '\x7b' :: _ | '[' :: _ => none
  | c :: rest =>
    if c = '"' ∨ c = '\'' then
      match (rest.dropWhile (· != c)).drop 1 with
      | ':' :: behind => if atBlank behind then some (rest.takeWhile (· != c), behind) else none
      | _ => none
    else (plainName? text).map fun (name, rest) => (trimEnd name, rest)
  | [] => none

/-- Cuts a text without leading blanks, which begins in a column, into entries and a value. -/
def cut (column : Nat) (text : List Char) : Line :=
  match text with
  | '-' :: rest =>
    if atBlank rest then
      let blanks := rest.takeWhile (· == ' ')
      let inner := cut (column + 1 + blanks.length) (rest.dropWhile (· == ' '))
      { inner with entries := (column, .item) :: inner.entries }
    else leaf column text
  | text => leaf column text
termination_by text.length
decreasing_by
  have := (List.dropWhile_suffix (l := rest) (· == ' ')).length_le
  simp only [List.length_cons]
  omega
where
  /-- A text that is no item: a member or a value. -/
  leaf (column : Nat) (text : List Char) : Line :=
    match name? text with
    | some (name, rest) => ⟨[(column, .member (String.ofList name))], rest.dropWhile (· == ' ')⟩
    | none => ⟨[], text⟩

/-- Cuts a line of a text. -/
def Line.ofText (text : List Char) : Line :=
  cut (text.takeWhile (· == ' ')).length (text.dropWhile (· == ' '))

/-- The text holds nothing but a comment. -/
def isComment (text : List Char) : Bool := text.head?.all (· == '#')

/-- The lines of a text that hold something. -/
def linesOf (text : String) : List Line :=
  let found := (text.splitOn "\n").map fun l => (trimEnd (l.toList.filter (· != '\r')))
  match found.filter fun l => !isComment (l.dropWhile (· == ' ')) with
  | ['-', '-', '-'] :: rest => rest.map Line.ofText
  | found => found.map Line.ofText

/-! ### Layout -/

/-- A list or map that is open. -/
structure Block where
  column : Nat
  isMap : Bool
  deriving DecidableEq, Inhabited

/-- The tokens so far, in reverse, the open blocks from the innermost on, and whether a value is
awaited. -/
structure Layout where
  tokens : List Json.Token
  blocks : List Block
  awaiting : Bool
  deriving Inhabited

namespace Layout

/-- The layout of an empty text. -/
def initial : Layout := ⟨[], [], true⟩

/-- The layout in which no value is awaited: an awaited value is absent. -/
def fill (l : Layout) : Layout :=
  if l.awaiting then { l with tokens := .atom .null :: l.tokens, awaiting := false } else l

/-- Closes a block. -/
def close (l : Layout) (b : Block) : Layout :=
  let l := l.fill
  { l with tokens := (if b.isMap then .closeBrace else .closeBracket) :: l.tokens }

/-- Closes the innermost blocks that satisfy a condition. -/
def closeWhile (l : Layout) (p : Block → Bool) : Layout :=
  { (l.blocks.takeWhile p).foldl close l with blocks := l.blocks.dropWhile p }

/-- A block can be opened as the value that is awaited. -/
def admits (l : Layout) (b : Block) : Bool :=
  l.awaiting && l.blocks.head?.all fun outer =>
    outer.column < b.column || (outer.column == b.column && outer.isMap && !b.isMap)

/-- Opens a block. -/
def openBlock (l : Layout) (b : Block) : Layout where
  tokens := (if b.isMap then .openBrace else .openBracket) :: l.tokens
  blocks := b :: l.blocks
  awaiting := false

/-- Goes to the place of an entry in a column: the next place of an open block, or the first of a
new one. -/
def goTo (l : Layout) (b : Block) : Option Layout :=
  let l := l.closeWhile fun inner =>
    b.column < inner.column || (inner.column == b.column && !inner.isMap && b.isMap)
  if l.blocks.head? = some b then
    let l := l.fill
    some { l with tokens := .comma :: l.tokens }
  else if l.admits b then some (l.openBlock b)
  else none

/-- Takes in an entry. -/
def enter (l : Layout) (e : Nat × Entry) : Option Layout :=
  (l.goTo ⟨e.1, e.2.isMember⟩).map fun l =>
    { l with
      awaiting := true
      tokens := match e.2 with
        | .item => l.tokens
        | .member name => .colon :: .atom (.string name) :: l.tokens }

/-- Takes in a line. -/
def takeLine (l : Layout) (line : Line) : Option Layout := do
  let l ← line.entries.foldlM enter l
  if isComment line.value then return l
  else
    guard l.awaiting
    let value ← valueTokens line.value
    return { l with tokens := value ++ l.tokens, awaiting := false }

end Layout

/-- The value that a text holds. An empty text holds none, which is written as `null`. -/
def parse? (text : String) : Option Json := do
  let l ← (linesOf text).foldlM Layout.takeLine .initial
  Json.ofTokens? (l.closeWhile fun _ => true).fill.tokens.reverse

end Yaml

end RunOperator
