import RunOperator.Json.Parser

/-!
# Values on a line of YAML

A value that stands on a line is a plain text, a text in quotes, or a list or map in brackets. It is
cut into tokens by a machine that takes one character at a time. A plain text that looks like a
number or like one of the words for truth or absence stands for that.

Values that go on on the next line, anchors and tags are not understood.
-/

namespace RunOperator

namespace Yaml

/-- The characters that no plain text begins with. -/
def reserved : List Char := ['&', '*', '!', '|', '>', '%', '@', '\x60']

/-- The value of a plain text. -/
def ofPlain (text : List Char) : Option Json :=
  match String.ofList text with
  | "" => none
  | "~" | "null" | "Null" | "NULL" => some .null
  | "true" | "True" | "TRUE" => some (.bool true)
  | "false" | "False" | "FALSE" => some (.bool false)
  | s =>
    if text.head?.any reserved.contains then none
    else match Json.Token.number? text with
      | some n => some (.number n)
      | none => some (.string s)

/-- A text without the blanks at its end. -/
def trimEnd (text : List Char) : List Char := (text.reverse.dropWhile (· == ' ')).reverse

/-- What the machine is in the middle of. Collected characters stand in reverse. -/
inductive Mode where
  | between
  | plain (acc : List Char)
  /-- After a colon within a plain text. -/
  | colon (acc : List Char)
  | single (acc : List Char)
  /-- After an apostrophe that ends a text, unless another one follows. -/
  | apostrophe (acc : List Char)
  | double (acc : List Char)
  | escape (acc : List Char)
  /-- After a comment has begun. -/
  | comment

/-- The tokens so far, in reverse, with a plain text at their end. -/
def endPlain (acc : List Char) (tokens : List Json.Token) : Option (List Json.Token) :=
  (ofPlain (trimEnd acc.reverse)).map fun v => .atom v :: tokens

/-- The tokens so far with a quoted text at their end. -/
def endQuoted (acc : List Char) (tokens : List Json.Token) : List Json.Token :=
  .atom (.string (String.ofList acc.reverse)) :: tokens

/-- A character between tokens. -/
def between (tokens : List Json.Token) (c : Char) : Mode × List Json.Token :=
  match c with
  | ' ' => (.between, tokens)
  | '\x7b' => (.between, .openBrace :: tokens)
  | '\x7d' => (.between, .closeBrace :: tokens)
  | '[' => (.between, .openBracket :: tokens)
  | ']' => (.between, .closeBracket :: tokens)
  | ',' => (.between, .comma :: tokens)
  | ':' => (.between, .colon :: tokens)
  | '\'' => (.single [], tokens)
  | '"' => (.double [], tokens)
  | '#' => (.comment, tokens)
  | c => (.plain [c], tokens)

/-- A character that ends a plain text in brackets. -/
def endsPlain (c : Char) : Bool := [',', '[', ']', '\x7b', '\x7d'].contains c

/-- The machine takes one character. -/
def step (state : Mode × List Json.Token) (c : Char) : Option (Mode × List Json.Token) :=
  let (mode, tokens) := state
  match mode with
  | .between => some (between tokens c)
  | .plain acc =>
    if endsPlain c then (endPlain acc tokens).map (between · c)
    else if c = ':' then some (.colon acc, tokens)
    else some (.plain (c :: acc), tokens)
  | .colon acc =>
    if endsPlain c || c == ' ' then
      (endPlain acc tokens).map fun tokens => between (.colon :: tokens) c
    else some (.plain (c :: ':' :: acc), tokens)
  | .single acc => some (if c = '\'' then .apostrophe acc else .single (c :: acc), tokens)
  | .apostrophe acc =>
    if c = '\'' then some (.single (c :: acc), tokens)
    else some (between (endQuoted acc tokens) c)
  | .double acc =>
    if c = '"' then some (.between, endQuoted acc tokens)
    else if c = '\\' then some (.escape acc, tokens)
    else some (.double (c :: acc), tokens)
  | .escape acc => (Json.Token.escaped? c).map fun e => (.double (e :: acc), tokens)
  | .comment => some (.comment, tokens)

/-- The tokens of a value in brackets or quotes, in reverse. -/
def scan (text : List Char) : Option (List Json.Token) := do
  let (mode, tokens) ← text.foldlM step (.between, [])
  match mode with
  | .between | .comment => return tokens
  | .apostrophe acc => return endQuoted acc tokens
  | _ => none

/-- The part of a plain text before a comment. -/
def beforeComment : List Char → List Char
  | ' ' :: '#' :: _ => []
  | c :: rest => c :: beforeComment rest
  | [] => []

/-- The tokens of the value at the end of a line, in reverse. -/
def valueTokens (text : List Char) : Option (List Json.Token) :=
  match text with
  | '\x7b' :: _ | '[' :: _ | '"' :: _ | '\'' :: _ => scan text
  | text => endPlain (beforeComment text).reverse []

end Yaml

end RunOperator
