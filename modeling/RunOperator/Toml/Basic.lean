/-!
# TOML values

What a TOML document can hold, as far as a configuration needs it: of fractions and dates only
their presence is kept.
-/

namespace RunOperator.Toml

/-- A value of a document. -/
inductive Value where
  | text (value : String)
  | integer (value : Int)
  | fraction
  | flag (value : Bool)
  | dateTime
  | array (items : List Value)
  | table (entries : List (String × Value))
  deriving Inhabited

/-- A blank within a line. -/
def isBlank (c : Char) : Bool := c == ' ' || c == '\t'

/-- A character that may stand in a comment: no control character but the tab. -/
def isPrintable (c : Char) : Bool := c == '\t' || (' ' ≤ c && c ≤ '~') || 128 ≤ c.toNat

/-- The text without the blanks at its start. -/
def skipBlanks (s : List Char) : List Char := s.dropWhile isBlank

/-- The text after the end of a line at its start. -/
def newline? : List Char → Option (List Char)
  | '\n' :: rest => some rest
  | '\r' :: '\n' :: rest => some rest
  | _ => none

/-- The text after a comment at its start. -/
def skipComment : List Char → List Char
  | '#' :: rest => rest.dropWhile isPrintable
  | s => s

/-- The text after the end of a line, before which blanks and a comment may stand. -/
def lineEnd? (s : List Char) : Option (List Char) :=
  match skipComment (skipBlanks s) with
  | [] => some []
  | s => newline? s

/-- The text without the blanks, ends of lines and comments at its start. -/
def skipLines (s : List Char) : List Char :=
  match s with
  | [] => []
  | c :: rest =>
    if isBlank c then skipLines rest
    else if c = '#' then skipLines (rest.dropWhile isPrintable)
    else match newline? (c :: rest) with
      | some after => if after.length ≤ rest.length then skipLines after else c :: rest
      | none => c :: rest
termination_by s.length
decreasing_by
  · simp
  · have := (List.dropWhile_suffix (l := rest) isPrintable).length_le
    simp only [List.length_cons]
    omega
  · simp only [List.length_cons]
    omega

end RunOperator.Toml
