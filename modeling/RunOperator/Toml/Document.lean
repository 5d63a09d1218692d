import RunOperator.Toml.Number
import RunOperator.Toml.Text

/-!
# TOML documents

A document is a sequence of lines, each of which gives a key its value or is the header of a table.
The table under the last header is collected apart and put in its place when the next header comes.
A table may be given by its header once. Headers and dotted keys make the tables on their way; a
table that was made on the way of a header may be given later by its own header, and a table that
was made by dotted keys may be extended by dotted keys of the same table only.
-/

namespace RunOperator.Toml

/-- How a table came to be. -/
inductive Origin where
  /-- It was given by its own header or in braces. -/
  | header
  /-- A header named it on the way to another table. -/
  | onTheWay
  /-- A dotted key named it. -/
  | dotted
  deriving DecidableEq, Inhabited

/-- A part of a document under construction. -/
inductive Node where
  | value (v : Value)
  | table (origin : Origin) (entries : List (String × Node))
  /-- Tables under one header, of which the last is open to more. -/
  | tables (items : List (List (String × Node)))
  deriving Inhabited

namespace Node

mutual

/-- The finished value. -/
def toValue : Node → Value
  | value v => v
  | table _ entries => .table (entryValues entries)
  | tables items => .array (tableValues items)

/-- The finished entries of a table. -/
def entryValues : List (String × Node) → List (String × Value)
  | [] => []
  | (k, n) :: rest => (k, toValue n) :: entryValues rest

/-- The finished tables under one header. -/
def tableValues : List (List (String × Node)) → List Value
  | [] => []
  | t :: rest => .table (entryValues t) :: tableValues rest

end

/-- The part under a key. -/
def find (k : String) (entries : List (String × Node)) : Option Node := entries.lookup k

/-- The entries with the part under a key replaced. -/
def replace (k : String) (n : Node) (entries : List (String × Node)) : List (String × Node) :=
  entries.map fun e => if e.1 = k then (k, n) else e

/-- The entries without a key. -/
def remove (k : String) (entries : List (String × Node)) : List (String × Node) :=
  entries.filter (·.1 != k)

/-- Changes the entries of the table at the end of a path, and makes the tables on the way. Dotted
keys do not lead through tables that were given by headers. -/
def descend {α : Type} (dotted : Bool)
    (f : Origin → List (String × Node) → Option (List (String × Node) × α)) :
    List String → Origin → List (String × Node) → Option (List (String × Node) × α)
  | [], origin, entries => f origin entries
  | k :: path, _, entries =>
    match find k entries with
    | none => do
      let origin := if dotted then Origin.dotted else .onTheWay
      let (inner, a) ← descend dotted f path origin []
      return (entries ++ [(k, .table origin inner)], a)
    | some (.value _) => none
    | some (.table origin inner) => do
      guard (!(dotted && origin == .header))
      let (inner, a) ← descend dotted f path origin inner
      return (replace k (.table origin inner) entries, a)
    | some (.tables items) => do
      let (last, a) ← descend dotted f path .header (items.getLast?.getD [])
      return (replace k (.tables (items.dropLast ++ [last])) entries, a)

/-- Gives the last key of a path a value. Its table must have been made by dotted keys exactly when
the path has more than this key. -/
def assign (path : List String) (v : Value) (entries : List (String × Node)) :
    Option (List (String × Node)) := do
  let key ← path.getLast?
  let way := path.dropLast
  let put (origin : Origin) (entries : List (String × Node)) :
      Option (List (String × Node) × Unit) :=
    if (origin == .dotted) == way.isEmpty || (find key entries).isSome then none
    else some (entries ++ [(key, .value v)], ())
  (descend true put way .header entries).map Prod.fst

end Node

/-! ### Values -/

/-- The text after a word. -/
def word? (w : List Char) (v : Value) (s : List Char) : Option (Value × List Char) :=
  if w.isPrefixOf s then some (v, s.drop w.length) else none

/-- The items of an array, from where an item is expected to after the bracket that closes it. The
reader of a value is given. -/
def items (value : List Char → Option (Value × List Char)) (s : List Char) :
    Option (List Value × List Char) :=
  match skipLines s with
  | ']' :: rest => some ([], rest)
  | s' =>
    match value s' with
    | none => none
    | some (v, rest) =>
      match skipLines rest with
      | ']' :: rest => some ([v], rest)
      | ',' :: rest =>
        if rest.length < s.length then (items value rest).map fun (vs, rest) => (v :: vs, rest)
        else none
      | _ => none
termination_by s.length

/-- A key with its value. -/
def pair? (value : List Char → Option (Value × List Char)) (s : List Char) :
    Option ((List String × Value) × List Char) := do
  let (path, rest) ← key? s
  match rest with
  | '=' :: rest =>
    let (v, rest) ← value (skipBlanks rest)
    return ((path, v), rest)
  | _ => none

/-- The entries of a table in braces, from where one is expected to after the brace that closes
it. -/
def entries (value : List Char → Option (Value × List Char)) (s : List Char) :
    Option (List (List String × Value) × List Char) :=
  match pair? value s with
  | none => none
  | some (p, rest) =>
    match skipBlanks rest with
    | '\x7d' :: rest => some ([p], rest)
    | ',' :: rest =>
      if rest.length < s.length then (entries value rest).map fun (ps, rest) => (p :: ps, rest)
      else none
    | _ => none
termination_by s.length

/-- A table in braces, after the first brace. -/
def inlineTable (value : List Char → Option (Value × List Char)) (s : List Char) :
    Option (Value × List Char) := do
  let (pairs, rest) ← match skipBlanks s with
    | '\x7d' :: rest => some ([], rest)
    | s => entries value s
  let nodes ← pairs.foldlM (fun nodes p => Node.assign p.1 p.2 nodes) []
  return (.table (Node.entryValues nodes), rest)

/-- A value in which arrays and tables nest at most so deep. -/
def value : Nat → List Char → Option (Value × List Char)
  | depth, s =>
    match s with
    | [] => none
    | c :: rest =>
      if c = '"' ∨ c = '\'' then (text? s).map fun (t, rest) => (.text t, rest)
      else if c = '[' then
        match depth with
        | 0 => none
        | depth + 1 => (items (value depth) rest).map fun (vs, rest) => (.array vs, rest)
      else if c = '\x7b' then
        match depth with
        | 0 => none
        | depth + 1 => inlineTable (value depth) rest
      else if c.isDigit || c == '+' || c == '-' then number? s
      else if c = 'i' ∨ c = 'n' then special? s
      else (word? ['t', 'r', 'u', 'e'] (.flag true) s).or
        (word? ['f', 'a', 'l', 's', 'e'] (.flag false) s)

/-! ### Lines -/

/-- A header: the path of its table, and whether it adds to the tables under the path. -/
structure Header where
  path : List String
  repeated : Bool

/-- The document as far as it was read: what was put in place, and the table under the last
header. -/
structure Draft where
  root : List (String × Node)
  current : List (String × Node)
  header : Option Header

namespace Draft

/-- The draft at the start of a document. -/
def empty : Draft := ⟨[], [], none⟩

/-- The document with the table under the last header put in its place. -/
def finish (d : Draft) : Option (List (String × Node)) :=
  match d.header with
  | none => some d.current
  | some h => do
    let key ← h.path.getLast?
    let put (_ : Origin) (entries : List (String × Node)) :
        Option (List (String × Node) × Unit) :=
      match Node.find key entries, h.repeated with
      | none, true => some (entries ++ [(key, .tables [d.current])], ())
      | some (.tables items), true =>
        some (Node.replace key (.tables (items ++ [d.current])) entries, ())
      | none, false => some (entries ++ [(key, .table .header d.current)], ())
      | _, _ => none
    (Node.descend false put h.path.dropLast .header d.root).map Prod.fst

/-- Begins the table of a header. What was made on the way of other headers belongs to it. -/
def open? (d : Draft) (h : Header) : Option Draft := do
  let root ← d.finish
  let key ← h.path.getLast?
  let take (_ : Origin) (entries : List (String × Node)) :
      Option (List (String × Node) × List (String × Node)) :=
    match Node.find key entries, h.repeated with
    | none, _ | some (.tables _), true => some (entries, [])
    | some (.table .onTheWay inner), false => some (Node.remove key entries, inner)
    | _, _ => none
  let (root, current) ← Node.descend false take h.path.dropLast .header root
  return ⟨root, current, some h⟩

/-- Gives a key of the table under the last header a value. -/
def assign? (d : Draft) (path : List String) (v : Value) : Option Draft :=
  (Node.assign path v d.current).map fun current => { d with current }

end Draft

/-- A header, after its first bracket. -/
def header? (s : List Char) : Option (Header × List Char) :=
  match s with
  | '[' :: s => do
    let (path, rest) ← key? s
    match rest with
    | ']' :: ']' :: rest => return (⟨path, true⟩, rest)
    | _ => none
  | s => do
    let (path, rest) ← key? s
    match rest with
    | ']' :: rest => return (⟨path, false⟩, rest)
    | _ => none

/-- One line of a document, of which `c` is the first character that counts. -/
def line? (d : Draft) (c : Char) (rest : List Char) : Option (Draft × List Char) :=
  if c = '#' ∨ c = '\n' ∨ c = '\r' then (lineEnd? (c :: rest)).map (d, ·)
  else if c = '[' then do
    let (h, rest) ← header? rest
    return (← d.open? h, ← lineEnd? rest)
  else do
    let ((path, v), rest) ← pair? (value (depthLimit - 1)) (c :: rest)
    return (← d.assign? path v, ← lineEnd? rest)

/-- The lines of a document. Each takes at least one character. -/
def lines (d : Draft) (s : List Char) : Option Draft :=
  match skipBlanks s with
  | [] => some d
  | c :: rest =>
    match line? d c rest with
    | none => none
    | some (d, rest) => if rest.length < s.length then lines d rest else none
termination_by s.length

/-- The entries of the document that a text holds. A byte order mark at its start means nothing. -/
def parse? (text : String) : Option (List (String × Value)) := do
  let s := match text.toList with
    | '\ufeff' :: rest => rest
    | s => s
  return Node.entryValues (← (← lines .empty s).finish)

end RunOperator.Toml
