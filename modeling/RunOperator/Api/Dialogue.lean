import RunOperator.Json.Basic

/-!
# Dialogues with the API server

A call to the cluster is a dialogue: it asks for one request after the other, and what it asks next
depends on the answers. A request that the server cannot be reached for has no answer.
-/

namespace RunOperator.Api

/-- What a request does. -/
inductive Method where
  | get
  | put
  deriving DecidableEq, Inhabited

/-- A request, with the parameters of its query that matter. -/
structure Request where
  method : Method
  path : String
  body : Option Json
  labelSelector : Option String
  /-- The mark of the page of a listing to go on with. -/
  continueFrom : Option String
  /-- The version from which changes are watched. -/
  watchFrom : Option String
  deriving Inhabited

/-- A request that reads what is at a path. -/
def Request.get (path : String) : Request where
  method := .get
  path := path
  body := none
  labelSelector := none
  continueFrom := none
  watchFrom := none

/-- An answer of the server. -/
structure Answer where
  status : Nat
  body : String
  deriving DecidableEq, Inhabited

/-- A dialogue that ends in a result. -/
inductive Dialogue (α : Type) where
  | done (result : α)
  | ask (request : Request) (next : Option Answer → Dialogue α)

namespace Dialogue

variable {α β σ : Type}

/-- Goes on with the result of a dialogue. -/
def bind (d : Dialogue α) (f : α → Dialogue β) : Dialogue β :=
  match d with
  | done a => f a
  | ask q next => ask q fun answer => (next answer).bind f

instance : Monad Dialogue where
  pure := done
  bind := bind

/-- One request and its answer. -/
def request (q : Request) : Dialogue (Option Answer) := ask q done

/-- Holds a dialogue with a server that has a state. -/
def play (server : Request → σ → Option Answer × σ) : Dialogue α → σ → α × σ
  | done a, s => (a, s)
  | ask q next, s =>
    let (answer, s) := server q s
    play server (next answer) s

/-- The result when the server is out of reach. -/
def unanswered : Dialogue α → α
  | done a => a
  | ask _ next => unanswered (next none)

/-- The requests and the result when the answers are those of a list, and none after it. -/
def against : Dialogue α → List (Option Answer) → List Request × α
  | done a, _ => ([], a)
  | ask q next, [] =>
    let (qs, a) := against (next none) []
    (q :: qs, a)
  | ask q next, answer :: rest =>
    let (qs, a) := against (next answer) rest
    (q :: qs, a)

end Dialogue

end RunOperator.Api
