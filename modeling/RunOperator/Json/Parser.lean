import RunOperator.Json.Binary64
import RunOperator.Text.Digit

/-!
# Reading JSON

The text is first cut into tokens by a machine that takes one character at a time, and the tokens
are then put together by a machine that takes one token at a time and keeps the arrays and objects
that are still open on a stack. Both machines stop at the first character or token that cannot
stand where it stands.

An integer of more than 64 bits is read as a fraction, and so is `-0`. A fraction becomes the
floating-point number of 64 bits that it is held as. Of members with one name the last counts.
-/

namespace RunOperator

namespace Json

/-- A token of JSON text. -/
inductive Token where
  | openBrace | closeBrace | openBracket | closeBracket | comma | colon
  | atom (value : Json)
  deriving Inhabited

namespace Token

/-- What the token machine is in the middle of. Collected characters stand in reverse. -/
inductive Mode where
  | between
  | string (acc : List Char)
  | escape (acc : List Char)
  /-- Digits of a `\u` escape; `high` is a preceding high surrogate. -/
  | hex (acc : List Char) (high : Option Nat) (digits : List Nat)
  /-- After a high surrogate, whose low surrogate must follow: `slash` when its backslash came. -/
  | low (acc : List Char) (high : Nat) (slash : Bool)
  | number (acc : List Char)
  | word (acc : List Char)

/-- Adds digits to a number as long as it has no more than 64 bits; the others are left. -/
def takeDigits (n : Nat) : List Char → Nat × List Char
  | [] => (n, [])
  | c :: rest =>
    let longer := n * 10 + Text.natOfDigits [c]
    if longer < 18446744073709551616 then takeDigits longer rest else (n, c :: rest)

/-- A fraction by the digits before and behind its point and its exponent, unless it is too large.
The digits count as far as they give a number of 64 bits. -/
def fraction? (negative : Bool) (whole places : List Char) (exponent : Int) : Option JsonNumber :=
  let (n, wholeLeft) := takeDigits 0 whole
  let (n, placesLeft) := takeDigits n places
  let taken := places.length - placesLeft.length
  (Binary64.ofScientific? n (exponent + wholeLeft.length - taken)).map fun units =>
    .fraction (Binary64.toDecimal negative units)

/-- The digits behind an exponent mark. -/
def exponent? : List Char → Option Int
  | [] => some 0
  | e :: rest =>
    if e = 'e' ∨ e = 'E' then
      match rest with
      | '+' :: digits => unsigned digits
      | '-' :: digits => (unsigned digits).map (- ·)
      | digits => unsigned digits
    else none
where
  /-- At least one digit and nothing else. -/
  unsigned (digits : List Char) : Option Int :=
    if digits.isEmpty || digits.any (!·.isDigit) then none else some (Text.natOfDigits digits)

/-- An integer by its digits. One of more than 64 bits is a fraction, and so is a negative zero. -/
def integer? (negative : Bool) (whole : List Char) : Option JsonNumber :=
  let n := Text.natOfDigits whole
  if !negative ∧ n < 18446744073709551616 then some (.integer n)
  else if negative ∧ 0 < n ∧ n ≤ 9223372036854775808 then some (.integer (-(n : Int)))
  else fraction? negative whole [] 0

/-- The digits behind a point, and what follows them. -/
def places? : List Char → Option (List Char × List Char)
  | '.' :: rest =>
    let places := rest.takeWhile Char.isDigit
    if places.isEmpty then none else some (places, rest.dropWhile Char.isDigit)
  | rest => some ([], rest)

/-- Reads a number behind its sign. No zero stands in front of another digit. -/
def magnitude? (negative : Bool) (text : List Char) : Option JsonNumber := do
  let whole := text.takeWhile Char.isDigit
  let rest := text.dropWhile Char.isDigit
  guard (!whole.isEmpty && (whole.head? != some '0' || whole.length == 1))
  if rest.isEmpty then integer? negative whole
  else
    let (places, rest) ← places? rest
    fraction? negative whole places (← exponent? rest)

/-- Reads a number. -/
def number? : List Char → Option JsonNumber
  | '-' :: text => magnitude? true text
  | text => magnitude? false text

/-- Reads a word. -/
def word? (text : List Char) : Option Json :=
  if text = ['n', 'u', 'l', 'l'] then some .null
  else if text = ['t', 'r', 'u', 'e'] then some (.bool true)
  else if text = ['f', 'a', 'l', 's', 'e'] then some (.bool false)
  else none

/-- A character between tokens. -/
def between (tokens : List Token) (c : Char) : Option (Mode × List Token) :=
  match c with
  | ' ' | '\n' | '\r' | '\t' => some (.between, tokens)
  | '\x7b' => some (.between, openBrace :: tokens)
  | '\x7d' => some (.between, closeBrace :: tokens)
  | '[' => some (.between, openBracket :: tokens)
  | ']' => some (.between, closeBracket :: tokens)
  | ',' => some (.between, comma :: tokens)
  | ':' => some (.between, colon :: tokens)
  | '"' => some (.string [], tokens)
  | c =>
    if c.isDigit || c == '-' then some (.number [c], tokens)
    else if c.isAlpha then some (.word [c], tokens)
    else none

/-- The character that a letter behind a backslash stands for. -/
def escaped? : Char → Option Char
  | '"' => some '"'
  | '\\' => some '\\'
  | '/' => some '/'
  | 'b' => some '\x08'
  | 'f' => some '\x0c'
  | 'n' => some '\n'
  | 'r' => some '\r'
  | 't' => some '\t'
  | _ => none

/-- A complete `\u` escape. -/
def codeUnit (acc : List Char) (high : Option Nat) (unit : Nat) : Option Mode :=
  match high with
  | some h =>
    if 0xDC00 ≤ unit ∧ unit < 0xE000 then
      some (.string (Char.ofNat (0x10000 + (h - 0xD800) * 0x400 + (unit - 0xDC00)) :: acc))
    else none
  | none =>
    if 0xD800 ≤ unit ∧ unit < 0xDC00 then some (.low acc unit false)
    else if 0xDC00 ≤ unit ∧ unit < 0xE000 then none
    else some (.string (Char.ofNat unit :: acc))

/-- A character that may belong to a number. -/
def isNumberChar (c : Char) : Bool :=
  c.isDigit || c == '+' || c == '-' || c == '.' || c == 'e' || c == 'E'

/-- The machine takes one character. -/
def step (state : Mode × List Token) (c : Char) : Option (Mode × List Token) :=
  let (mode, tokens) := state
  match mode with
  | .between => between tokens c
  | .string acc =>
    if c = '"' then some (.between, atom (.string (String.ofList acc.reverse)) :: tokens)
    else if c = '\\' then some (.escape acc, tokens)
    else if c.toNat < 32 then none
    else some (.string (c :: acc), tokens)
  | .escape acc =>
    if c = 'u' then some (.hex acc none [], tokens)
    else (escaped? c).map fun e => (.string (e :: acc), tokens)
  | .hex acc high digits =>
    (Text.hexDigit? c).bind fun d =>
      if digits.length < 3 then some (.hex acc high (digits ++ [d]), tokens)
      else
        (codeUnit acc high ((digits ++ [d]).foldl (fun n d => n * 16 + d) 0)).map (·, tokens)
  | .low acc high slash =>
    if slash then (if c = 'u' then some (.hex acc (some high) [], tokens) else none)
    else if c = '\\' then some (.low acc high true, tokens)
    else none
  | .number acc =>
    if isNumberChar c then some (.number (c :: acc), tokens)
    else (number? acc.reverse).bind fun n => between (atom (.number n) :: tokens) c
  | .word acc =>
    if c.isAlphanum then some (.word (c :: acc), tokens)
    else (word? acc.reverse).bind fun v => between (atom v :: tokens) c

/-- The text in tokens. -/
def scan (text : List Char) : Option (List Token) := do
  let (mode, tokens) ← text.foldlM step (.between, [])
  match mode with
  | .between => return tokens.reverse
  | .number acc => return (atom (.number (← number? acc.reverse)) :: tokens).reverse
  | .word acc => return (atom (← word? acc.reverse) :: tokens).reverse
  | _ => none

end Token

/-- An array or object that is still open. -/
inductive Frame where
  /-- The items so far, in reverse. -/
  | array (items : List Json)
  /-- The members so far and the name whose value is awaited. -/
  | object (members : List (String × Json)) (name : String)

/-- What the next token may be. -/
inductive Awaiting where
  | value
  /-- An item, or the end of an array that is empty so far. -/
  | firstItem
  /-- A name, or the end of an object that is empty so far. -/
  | firstName
  /-- A name after the members read so far. -/
  | name (members : List (String × Json))
  /-- The colon after a name. -/
  | colon (members : List (String × Json)) (name : String)
  /-- A comma or the end of the innermost open value, of which `done` is the last part. -/
  | rest (done : Json)

/-- The open values and what may come next. -/
structure Reader where
  awaiting : Awaiting
  frames : List Frame

namespace Reader

/-- A complete value is put into the innermost open one. -/
def place (frames : List Frame) (v : Json) : Reader := ⟨.rest v, frames⟩

/-- The start of a value. -/
def begin? (frames : List Frame) : Token → Option Reader
  | .openBrace => some ⟨.firstName, frames⟩
  | .openBracket => some ⟨.firstItem, frames⟩
  | .atom v => some (place frames v)
  | _ => none

/-- The reader takes one token. -/
def step (r : Reader) (t : Token) : Option Reader :=
  match r.awaiting, t with
  | .value, t => begin? r.frames t
  | .firstItem, .closeBracket => some (place r.frames (.array []))
  | .firstItem, t => begin? (.array [] :: r.frames) t
  | .firstName, .closeBrace => some (place r.frames (.object []))
  | .firstName, .atom (.string name) => some ⟨.colon [] name, r.frames⟩
  | .name members, .atom (.string name) => some ⟨.colon members name, r.frames⟩
  | .colon members name, .colon => some ⟨.value, .object members name :: r.frames⟩
  | .rest done, .comma =>
    match r.frames with
    | .array items :: frames => some ⟨.value, .array (done :: items) :: frames⟩
    | .object members name :: frames => some ⟨.name (insertMember name done members), frames⟩
    | [] => none
  | .rest done, .closeBracket =>
    match r.frames with
    | .array items :: frames => some (place frames (.array (done :: items).reverse))
    | _ => none
  | .rest done, .closeBrace =>
    match r.frames with
    | .object members name :: frames =>
      some (place frames (.object (insertMember name done members)))
    | _ => none
  | _, _ => none

end Reader

/-- The value that some tokens make up, if they make up exactly one. -/
def ofTokens? (tokens : List Token) : Option Json := do
  let r ← tokens.foldlM Reader.step ⟨.value, []⟩
  match r.awaiting, r.frames with
  | .rest done, [] => some done
  | _, _ => none

/-- The value that a text holds, if it holds exactly one. -/
def parse? (text : String) : Option Json := (Token.scan text.toList).bind ofTokens?

end Json

end RunOperator
