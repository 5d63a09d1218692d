import RunOperator.Config.Source
import RunOperator.Text.Blank
import RunOperator.Unicode.Letter

/-!
# Files of variables

A file may give variables that the environment does not set. A line gives a variable its value;
a value in quotes may run over several lines, and a dollar sign brings in the value of another
variable. The reading ends at the first line that cannot be understood, and what came before it
counts.
-/

namespace RunOperator.Dotenv

/-! ### Lines -/

/-- Where the end of a line may stand. -/
inductive LineMode where
  | complete
  | blank
  | escape
  /-- Within quotes, after a backslash or not. -/
  | within (quote : Char) (escaped : Bool)
  deriving DecidableEq, Inhabited

/-- The mode after a character; `none` where a comment begins. -/
def LineMode.next (m : LineMode) (c : Char) : Option LineMode :=
  let opened : LineMode :=
    if c = '\\' then .escape else if c = '"' ∨ c = '\'' then .within c false else .complete
  match m with
  | complete => if Text.isBlank c ∧ c ≠ '\n' ∧ c ≠ '\r' then some .blank else some opened
  | blank => if c = '#' then none else some opened
  | escape => some .complete
  | within quote escaped =>
    if escaped then some (.within quote false)
    else if c = '\\' then some (.within quote true)
    else if c = quote then some .complete
    else some (.within quote false)

/-- The part of a line before a comment, with the mode at its end; no mode after a comment. -/
def scanLine (m : LineMode) : List Char → List Char × Option LineMode
  | [] => ([], some m)
  | c :: rest =>
    match m.next c with
    | none => ([], none)
    | some m =>
      let (kept, mode) := scanLine m rest
      (c :: kept, mode)

/-- The lines of a text, each with its end. -/
def rawLines : List Char → List (List Char)
  | [] => []
  | c :: rest =>
    match c, rawLines rest with
    | '\n', lines => ['\n'] :: lines
    | c, line :: lines => (c :: line) :: lines
    | c, [] => [[c]]

/-- A line without its end. -/
def dropEnd (line : List Char) : List Char :=
  match line.reverse with
  | '\n' :: '\r' :: rest => rest.reverse
  | '\n' :: rest => rest.reverse
  | _ => line

/-- Lines put together where quotes run over their ends; `none` stands for an end that is
missing. -/
def assemble (buffer : List Char) (m : LineMode) : List (List Char) → List (Option (List Char))
  | [] => if m = .complete then [] else [none]
  | line :: rest =>
    if ((buffer ++ line).dropWhile Text.isBlank).head? = some '#' then
      some [] :: assemble [] .complete rest
    else
      match scanLine m line with
      | (kept, none) => some (buffer ++ kept) :: assemble [] .complete rest
      | (_, some .complete) => some (dropEnd (buffer ++ line)) :: assemble [] .complete rest
      | (_, some m) => assemble (buffer ++ line) m rest

/-! ### Values -/

/-- Where a character of a value stands; `weak` within quotes. -/
inductive ValueMode where
  | plain (weak : Bool)
  | literal
  | escape (weak : Bool)
  /-- After a blank only a comment may follow. -/
  | done
  /-- In the name of a variable, with or without braces around it. -/
  | name (weak braced : Bool) (soFar : List Char)
  deriving DecidableEq, Inhabited

/-- What a character adds to a value, and the mode after it; `none` where it cannot stand. -/
def ValueMode.next (valueOf : List Char → List Char) (m : ValueMode) (c : Char) :
    Option (List Char × ValueMode) :=
  match m with
  | done => if c = ' ' ∨ c = '\t' then some ([], .done) else none
  | escape weak =>
    if ['\\', '\'', '"', '$', ' '].contains c then some ([c], .plain weak)
    else if c = 'n' then some (['\n'], .plain weak)
    else none
  | literal => if c = '\'' then some ([], .plain false) else some ([c], .literal)
  | name weak braced soFar =>
    if Unicode.isLetter c || Unicode.isNumeral c then some ([], .name weak braced (soFar ++ [c]))
    else if braced then
      if c = '\x7d' then some (valueOf soFar, .plain weak)
      else some ([], .name weak true (soFar ++ [c]))
    else if c = '\x7b' ∧ soFar = [] then some ([], .name weak true [])
    else if c = '$' then some (valueOf soFar, .name weak false [])
    else some (valueOf soFar ++ [c], .plain weak)
  | plain weak =>
    if c = '$' then some ([], .name weak false [])
    else if c = '\\' then some ([], .escape weak)
    else if c = '"' then some ([], .plain !weak)
    else if weak then some ([c], .plain true)
    else if c = '\'' then some ([], .literal)
    else if c = ' ' ∨ c = '\t' then some ([], .done)
    else some ([c], .plain false)

/-- The value that a text stands for. -/
def value? (valueOf : List Char → List Char) (m : ValueMode) : List Char → Option (List Char)
  | [] =>
    match m with
    | .plain true | .literal | .name true _ _ | .name _ true _ => none
    | .name false false soFar => some (valueOf soFar)
    | _ => some []
  | c :: rest =>
    if m = .done ∧ c = '#' then some []
    else do
      let (added, m) ← m.next valueOf c
      return added ++ (← value? valueOf m rest)

/-- A key at the start of a text. -/
def key? (s : List Char) : Option (List Char × List Char) :=
  match s with
  | c :: _ =>
    if c.isAlpha || c == '_' then
      some (s.span fun c => c.isAlphanum || c == '_' || c == '.')
    else none
  | [] => none

/-- The text behind an equals sign, before which blanks may stand. -/
def equals? (s : List Char) : Option (List Char) :=
  match s.dropWhile Text.isBlank with
  | '=' :: rest => some rest
  | _ => none

/-- The key of an assignment, which `export` may precede, and the text of its value. -/
def assignment? (s : List Char) : Option (List Char × List Char) := do
  let (key, rest) ← key? s
  match equals? rest with
  | some value => return (key, value)
  | none =>
    guard (key = ['e', 'x', 'p', 'o', 'r', 't'])
    let (key, rest) ← key? (rest.dropWhile Text.isBlank)
    return (key, ← equals? rest)

/-! ### Files -/

/-- The variables of a file so far, over those of the environment. -/
structure State where
  environment : Environment
  given : List (String × String)

/-- The value of a variable: the environment's text, or else the file's. -/
def State.valueOf (s : State) (name : List Char) : List Char :=
  let name := String.ofList name
  match (s.environment.lookup name).bind RawText.text? with
  | some t => t.toList
  | none => ((s.given.lookup name).getD "").toList

/-- The state with a variable: the environment keeps what it sets. -/
def State.set (s : State) (name value : String) : State :=
  let isSet := ((s.environment.lookup name).bind RawText.text?).isSome
  { environment :=
      if isSet then s.environment
      else (name, .ofText value) :: s.environment.filter (·.1 != name)
    given := (name, value) :: s.given }

/-- The state after a line; `none` when it cannot be understood. -/
def State.line? (s : State) (line : List Char) : Option State :=
  match line.dropWhile Text.isBlank with
  | [] => some s
  | '#' :: _ => some s
  | line => do
    let (key, rest) ← assignment? line
    let text := rest.dropWhile Text.isBlank
    let value ←
      if text.head? = some '#' then some [] else value? s.valueOf (.plain false) text
    return s.set (String.ofList key) (String.ofList value)

/-- The state after lines, up to one that cannot be understood. -/
def State.lines (s : State) : List (Option (List Char)) → State
  | some line :: rest =>
    match s.line? line with
    | some s => s.lines rest
    | none => s
  | _ => s

/-- The environment with the variables of a file. -/
def load (env : Environment) (content : FileContent) : Environment :=
  match content with
  | .text t =>
    match t.text? with
    | some text =>
      let chars := match text.toList with
        | '\ufeff' :: rest => rest
        | s => s
      (State.lines ⟨env, []⟩ (assemble [] .complete (rawLines chars))).environment
    | none => env
  | _ => env

end RunOperator.Dotenv
