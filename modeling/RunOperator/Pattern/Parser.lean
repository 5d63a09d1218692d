import RunOperator.Pattern.Bracket
import RunOperator.Pattern.Size
import RunOperator.Unicode.Letter

/-!
# Reading patterns

A pattern is read from left to right. The alternatives and items of the group that is being read
are kept apart from those of the groups around it, which wait on a stack. Flags that are set inside
a group hold to the end of that group, in its later alternatives too.

A pattern is refused when its parts nest too deeply or when the automaton for it would take too
much memory, which counted repetitions of large classes can bring about with few characters.
-/

namespace RunOperator.Pattern

/-- A part of a pattern that was read. -/
structure Item where
  expr : Expr
  /-- How deep brackets, groups, repetitions, sequences and alternatives nest in it. -/
  depth : Nat
  /-- The approximate number of bytes of its automaton. -/
  size : Nat
  /-- It matches the empty text only. -/
  zeroWidth : Bool
  /-- A repetition may follow it. -/
  repeatable : Bool
  deriving Inhabited

namespace Item

/-- The deepest nesting that is admitted. -/
def depthLimit : Nat := 250

/-- The bytes that a capturing group adds. -/
def captureSize : Nat := 2 * Size.state

/-- The bytes that each optional round of a repetition adds. -/
def optionalSize : Nat := Size.state + 2 * Size.branch

/-- The part without characters. -/
def empty : Item where
  expr := .empty
  depth := 0
  size := Size.state
  zeroWidth := true
  repeatable := true

/-- A part that only sets flags. -/
def flagSetting : Item := { empty with repeatable := false }

/-- One character of a set. -/
def ofSet (s : Unicode.Ranges) (depth : Nat) : Item where
  expr := .char s
  depth := depth
  size := Size.ofSet s
  zeroWidth := false
  repeatable := true

/-- A condition on the position. -/
def ofLook (l : Look) : Item := { empty with expr := .look l }

/-- A part followed by another. -/
def andThen (item rest : Item) : Item where
  expr := .seq item.expr rest.expr
  depth := max item.depth rest.depth
  size := item.size + rest.size
  zeroWidth := item.zeroWidth && rest.zeroWidth
  repeatable := true

/-- A part or another. -/
def orElse (item rest : Item) : Item where
  expr := .alt item.expr rest.expr
  depth := max item.depth rest.depth
  size := item.size + rest.size + Size.state
  zeroWidth := item.zeroWidth && rest.zeroWidth
  repeatable := true

/-- The part as one that lies within something else. -/
def deeper (item : Item) : Item := { item with depth := item.depth + 1, repeatable := true }

/-- Parts in a row, which are given in reverse. -/
def sequence : List Item → Item
  | [] => empty
  | [item] => item
  | last :: before => (before.foldl (fun rest item => item.andThen rest) last).deeper

/-- Alternatives, which are given in reverse. -/
def choice : List Item → Item
  | [] => empty
  | [item] => item
  | last :: before => (before.foldl (fun rest item => item.orElse rest) last).deeper

/-- A part in a group. -/
def grouped (capturing : Bool) (item : Item) : Item :=
  { item.deeper with size := item.size + if capturing then captureSize else 0 }

/-- A part from `low` to `high` times. Where it matches the empty text only, a second round adds
nothing. -/
def repeated (low : Nat) (high : Option Nat) (item : Item) : Item :=
  let low' := if item.zeroWidth then min low 1 else low
  let high' := if item.zeroWidth then some (min (high.getD 1) 1) else high
  { expr := .repeated low' high' item.expr
    depth := item.depth + 1
    size := match high' with
      | none => max low' 1 * item.size + optionalSize
      | some h => low' * item.size + (h - low') * (item.size + optionalSize)
    zeroWidth := item.zeroWidth || high' == some 0
    repeatable := true }

end Item

/-- A group that is being read: its alternatives so far and the parts of the one at hand, both in
reverse, and the flags to return to at its end. -/
structure Group where
  alternatives : List Item
  parts : List Item
  outerFlags : Flags
  capturing : Bool

namespace Group

/-- A group of which nothing was read. -/
def opened (outerFlags : Flags) (capturing : Bool) : Group := ⟨[], [], outerFlags, capturing⟩

/-- The group with one more part. -/
def push (g : Group) (item : Item) : Group := { g with parts := item :: g.parts }

/-- The group with its alternative at hand completed. -/
def alternate (g : Group) : Group :=
  { g with alternatives := .sequence g.parts :: g.alternatives, parts := [] }

/-- What the group holds. -/
def content (g : Group) : Item := .choice g.alternate.alternatives

end Group

/-- The groups that are being read, innermost first, the flags in force, and the names that were
given to groups. -/
structure Reader where
  flags : Flags
  current : Group
  outer : List Group
  names : List (List Char)

namespace Reader

/-- The reader at the start of a pattern. -/
def initial : Reader := ⟨.initial, .opened .initial false, [], []⟩

/-- The reader with one more part. -/
def push (r : Reader) (item : Item) : Reader := { r with current := r.current.push item }

/-! ### Repetitions -/

/-- The text without the mark of a reluctant repetition, which does not change what matches. -/
def dropReluctance : List Char → List Char
  | '?' :: rest => rest
  | s => s

/-- The largest count of a repetition. -/
def largestCount : Nat := 4294967295

/-- Digits, between which blanks may stand where they mean nothing. -/
def digits (flags : Flags) : Nat → List Char → List Char × List Char
  | 0, s => ([], s)
  | n + 1, c :: rest =>
    if c.isDigit then
      let (ds, rest) := digits flags n (significant flags rest)
      (c :: ds, rest)
    else ([], c :: rest)
  | _ + 1, [] => ([], [])

/-- A count of a repetition, with blanks around it. -/
def count (flags : Flags) (s : List Char) : Option (Nat × List Char) := do
  let s := s.dropWhile Text.isBlank
  let (ds, rest) := digits flags s.length s
  guard !ds.isEmpty
  let n := Text.natOfDigits ds
  guard (n ≤ largestCount)
  return (n, significant flags (rest.dropWhile Text.isBlank))

/-- The bounds of a counted repetition, from after its opening brace to after its closing one. -/
def bounds (flags : Flags) (s : List Char) : Option ((Nat × Option Nat) × List Char) := do
  let (low, rest) ← count flags (significant flags s)
  let (high, rest) ← match rest with
    | ',' :: rest =>
      match significant flags rest with
      | [] => none
      | '\x7d' :: rest => some (none, '\x7d' :: rest)
      | rest => (count flags rest).map fun (n, rest) => (some n, rest)
    | rest => some (some low, rest)
  match rest with
  | '\x7d' :: rest =>
    guard (low ≤ high.getD low)
    return ((low, high), rest)
  | _ => none

/-- The reader after a repetition of the last part. -/
def repeatLast (r : Reader) (low : Nat) (high : Option Nat) : Option Reader :=
  match r.current.parts with
  | [] => none
  | item :: parts =>
    if item.repeatable then
      some { r with current := { r.current with parts := item.repeated low high :: parts } }
    else none

/-! ### Groups -/

/-- Sets or clears a flag by its letter. -/
def setFlag (flags : Flags) (on : Bool) : Char → Option Flags
  | 'i' => some { flags with ignoreCase := on }
  | 'm' => some { flags with multiLine := on }
  | 's' => some { flags with dotMatchesAll := on }
  | 'u' => some { flags with unicode := on }
  | 'R' => some { flags with crlf := on }
  | 'x' => some { flags with ignoreBlanks := on }
  | 'U' => some flags
  | _ => none

/-- Sets flags by their letters; those behind a hyphen are cleared. A letter or a hyphen may come
once, and a hyphen must have letters behind it. -/
def setFlags (flags : Flags) (on : Bool) (seen : List Char) : List Char → Option Flags
  | [] => if seen.head? = some '-' then none else some flags
  | c :: rest =>
    if seen.contains c then none
    else if c = '-' then setFlags flags false (c :: seen) rest
    else (setFlag flags on c).bind fun flags => setFlags flags on (c :: seen) rest

/-- A group may have the name. -/
def isGroupName : List Char → Bool
  | [] => false
  | c :: rest => (c == '_' || Unicode.isLetter c)
      && rest.all fun c => "_.[]".toList.contains c || Unicode.isLetter c || Unicode.isNumeral c

/-- Opens a group. -/
def openGroup (r : Reader) (flags : Flags) (capturing : Bool) : Reader :=
  { r with flags, current := .opened r.flags capturing, outer := r.current :: r.outer }

/-- Opens a group with a name, which is given with what follows it. -/
def openNamed (r : Reader) (s : List Char) : Option (Reader × List Char) :=
  let name := s.takeWhile (· != '>')
  match s.drop name.length with
  | _ :: rest =>
    if isGroupName name && !r.names.contains name then
      some ({ r.openGroup r.flags true with names := name :: r.names }, rest)
    else none
  | [] => none

/-- Opens a group with flags, or sets flags for the rest of the group at hand. -/
def openFlagged (r : Reader) (s : List Char) : Option (Reader × List Char) := do
  let letters := s.takeWhile fun c => c != ':' && c != ')'
  let flags ← setFlags r.flags true [] letters
  match s.drop letters.length with
  | ':' :: rest => return (r.openGroup flags false, rest)
  | _ :: rest =>
    guard !letters.isEmpty
    return ({ r with flags }.push .flagSetting, rest)
  | [] => none

/-- Reads the start of a group, after its parenthesis. Conditions on the text around a match are
refused. -/
def opening (r : Reader) (s : List Char) : Option (Reader × List Char) :=
  let s := significant r.flags s
  if [['?', '='], ['?', '!'], ['?', '<', '='], ['?', '<', '!']].any (·.isPrefixOf s) then none
  else match s with
    | '?' :: 'P' :: '<' :: rest => r.openNamed rest
    | '?' :: '<' :: rest => r.openNamed rest
    | '?' :: rest => r.openFlagged rest
    | s => some (r.openGroup r.flags true, s)

/-- Closes a group. -/
def close (r : Reader) : Option Reader :=
  match r.outer with
  | [] => none
  | around :: outer =>
    some { r with
      flags := r.current.outerFlags
      current := around.push (r.current.content.grouped r.current.capturing)
      outer }

/-! ### Single characters and positions -/

/-- A character, which the flag for it lets match its other cases too. -/
def ofChar (flags : Flags) (c : Char) : Item := .ofSet (CharSet.folded flags (CharSet.one c)) 0

/-- Any character; not the end of a line, unless a flag admits it. -/
def anyChar? (flags : Flags) : Option Item :=
  if !flags.unicode then none
  else
    let lineEnds := if flags.dotMatchesAll then [] else if flags.crlf then ['\r', '\n'] else ['\n']
    some (.ofSet (CharSet.ofList lineEnds).complement 0)

/-- What an escape matches. -/
def ofEscape? (flags : Flags) : Escape → Option Item
  | .char c byte =>
    if byte && !flags.unicode && 128 ≤ c.toNat then none else some (ofChar flags c)
  | .set s => some (.ofSet s 0)
  | .look l => some (.ofLook l)

/-- The start of the text, or of a line. -/
def startLook (flags : Flags) : Look :=
  if flags.multiLine then .lineStart flags.crlf else .textStart

/-- The end of the text, or of a line. -/
def endLook (flags : Flags) : Look := if flags.multiLine then .lineEnd flags.crlf else .textEnd

/-! ### The whole pattern -/

/-- Reads one part of the pattern, of which `c` is the first character. -/
def step (r : Reader) (c : Char) (rest : List Char) : Option (Reader × List Char) :=
  match c with
  | '(' => r.opening rest
  | ')' => r.close.map (·, rest)
  | '|' => some ({ r with current := r.current.alternate }, rest)
  | '?' => (r.repeatLast 0 (some 1)).map (·, dropReluctance rest)
  | '*' => (r.repeatLast 0 none).map (·, dropReluctance rest)
  | '+' => (r.repeatLast 1 none).map (·, dropReluctance rest)
  | '\x7b' => do
    let ((low, high), rest) ← bounds r.flags rest
    return (← r.repeatLast low high, dropReluctance (significant r.flags rest))
  | '[' => do
    let (n, rest) ← Bracket.parse r.flags rest
    return (r.push (.ofSet n.set n.depth), rest)
  | '\\' => do
    let (e, rest) ← escape r.flags rest
    return (r.push (← ofEscape? r.flags e), rest)
  | '.' => (anyChar? r.flags).map (r.push ·, rest)
  | '^' => some (r.push (.ofLook (startLook r.flags)), rest)
  | '$' => some (r.push (.ofLook (endLook r.flags)), rest)
  | c => some (r.push (ofChar r.flags c), rest)

/-- Reads to the end of the text. Every step takes a character, so that the reading ends. -/
def read (r : Reader) (s : List Char) : Option Reader :=
  match significant r.flags s with
  | [] => some r
  | c :: rest =>
    match r.step c rest with
    | none => none
    | some (r, rest) => if rest.length < s.length then read r rest else none
termination_by s.length

end Reader

/-- The pattern that a text stands for. -/
def parse? (text : String) : Option Pattern := do
  let r ← Reader.initial.read text.toList
  guard r.outer.isEmpty
  let item := r.current.content
  guard (item.depth ≤ Item.depthLimit && item.size ≤ Size.limit)
  return ⟨item.expr⟩

end RunOperator.Pattern
