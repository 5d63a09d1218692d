import RunOperator.Text.Digit
import RunOperator.Toml.Basic

/-!
# Texts and keys

A text stands between quotes or between apostrophes, and between three of them it may run over
several lines. Between quotes a backslash gives other characters a way in, and at the end of a line
it joins the line with the next. A key is a bare word or a text of one line; several keys with dots
between them form a path.
-/

namespace RunOperator.Toml

/-- The character whose code a number of hexadecimal digits give. -/
def coded? (width : Nat) (s : List Char) : Option (Char × List Char) := do
  let digits ← (s.take width).mapM Text.hexDigit?
  guard (digits.length = width)
  return (← Text.charOfCode? (Text.ofDigitValues 16 digits), s.drop width)

/-- The character that an escape stands for, after its backslash. -/
def escape? : List Char → Option (Char × List Char)
  | 'b' :: rest => some ('\x08', rest)
  | 'f' :: rest => some ('\x0c', rest)
  | 'n' :: rest => some ('\n', rest)
  | 'r' :: rest => some ('\r', rest)
  | 't' :: rest => some ('\t', rest)
  | '\\' :: rest => some ('\\', rest)
  | '"' :: rest => some ('"', rest)
  | 'u' :: rest => coded? 4 rest
  | 'U' :: rest => coded? 8 rest
  | _ => none

/-- The reading with characters in front. -/
def before (cs : List Char) (r : Option (List Char × List Char)) : Option (List Char × List Char) :=
  r.map fun (t, rest) => (cs ++ t, rest)

/-- A text of one line between quotes, after the first quote. -/
def quoted (s : List Char) : Option (List Char × List Char) :=
  match s with
  | [] => none
  | c :: rest =>
    if c = '"' then some ([], rest)
    else if c = '\\' then
      match escape? rest with
      | some (e, after) => if after.length ≤ rest.length then before [e] (quoted after) else none
      | none => none
    else if isPrintable c then before [c] (quoted rest)
    else none
termination_by s.length

/-- A text of one line between apostrophes, after the first apostrophe. -/
def literal : List Char → Option (List Char × List Char)
  | [] => none
  | c :: rest =>
    if c = '\'' then some ([], rest)
    else if isPrintable c then before [c] (literal rest)
    else none

/-- The number of times a character stands at the start of a text. -/
def runLength (c : Char) (s : List Char) : Nat := (s.takeWhile (· == c)).length

/-- The end of a text of several lines: three marks, before which up to two more belong to the
text. The count is that of the marks in a row. -/
def closing? (mark : Char) (s : List Char) (count : Nat) : Option (List Char × List Char) :=
  if 3 ≤ count then some (List.replicate (min (count - 3) 2) mark, s.drop (min count 5)) else none

/-- The text after a backslash that joins two lines, with all blanks and line ends behind it. -/
def joined? (s : List Char) : Option (List Char) :=
  (newline? (skipBlanks s)).map go
where
  /-- Skips blanks and ends of lines. -/
  go : List Char → List Char
  | '\r' :: '\n' :: rest => go rest
  | c :: rest => if isBlank c || c == '\n' then go rest else c :: rest
  | [] => []

/-- A text of several lines, after its first marks: between quotes with escapes, and between
apostrophes without. -/
def multiline (mark : Char) (escapes : Bool) (s : List Char) : Option (List Char × List Char) :=
  match s with
  | [] => none
  | c :: rest =>
    if c = mark then
      let count := runLength mark (c :: rest)
      match closing? mark (c :: rest) count with
      | some done => some done
      | none =>
        before (List.replicate count mark) (multiline mark escapes (rest.drop (count - 1)))
    else if c = '\\' ∧ escapes then
      match joined? rest with
      | some after =>
        if after.length ≤ rest.length then multiline mark escapes after else none
      | none =>
        match escape? rest with
        | some (e, after) =>
          if after.length ≤ rest.length then before [e] (multiline mark escapes after) else none
        | none => none
    else if isPrintable c then before [c] (multiline mark escapes rest)
    else
      match newline? (c :: rest) with
      | some after =>
        if after.length ≤ rest.length then before ['\n'] (multiline mark escapes after) else none
      | none => none
termination_by s.length

/-- The text without the end of a line at its start. -/
def dropNewline (s : List Char) : List Char := (newline? s).getD s

/-- A text in any of the four forms. -/
def text? (s : List Char) : Option (String × List Char) :=
  let r := match s with
    | '"' :: '"' :: '"' :: rest => multiline '"' true (dropNewline rest)
    | '"' :: rest => quoted rest
    | '\'' :: '\'' :: '\'' :: rest => multiline '\'' false (dropNewline rest)
    | '\'' :: rest => literal rest
    | _ => none
  r.map fun (t, rest) => (String.ofList t, rest)

/-- A character of a bare key. -/
def isKeyChar (c : Char) : Bool := c.isAlphanum || c == '-' || c == '_'

/-- A single key. -/
def simpleKey? (s : List Char) : Option (String × List Char) :=
  match s with
  | '"' :: rest => (quoted rest).map fun (t, rest) => (String.ofList t, rest)
  | '\'' :: rest => (literal rest).map fun (t, rest) => (String.ofList t, rest)
  | s =>
    let word := s.takeWhile isKeyChar
    if word.isEmpty then none else some (String.ofList word, s.drop word.length)

/-- Paths are shorter than this, and values nest less deep. -/
def depthLimit : Nat := 80

/-- The keys of a path of at most so many, with blanks around each. -/
def path? : Nat → List Char → Option (List String × List Char)
  | 0, _ => none
  | n + 1, s => do
    let (key, rest) ← simpleKey? (skipBlanks s)
    match skipBlanks rest with
    | '.' :: rest =>
      let (keys, rest) ← path? n rest
      return (key :: keys, rest)
    | rest => return ([key], rest)

/-- A path of keys. -/
def key? (s : List Char) : Option (List String × List Char) := path? (depthLimit - 1) s

end RunOperator.Toml
