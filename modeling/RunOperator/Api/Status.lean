import RunOperator.Api.Dialogue
import RunOperator.Client.Error
import RunOperator.Json.Decode
import RunOperator.Json.Parser
import RunOperator.Text.Quoted

/-!
# Failures of requests

The server reports a failure by the code of its answer, and says more in the body. The code that
counts is the one in the body, where the body can be understood. A request can also fail without an
answer, with an answer that is not what was asked for, or before it is sent, because a name cannot
stand in a path.
-/

namespace RunOperator.Api

/-- What the server says about a failure. -/
structure Status where
  status : String
  message : String
  reason : String
  code : Nat
  deriving DecidableEq, Inhabited

/-- The words for the codes of failures. -/
def reasonPhrases : List (Nat × String) := [
  (400, "Bad Request"), (401, "Unauthorized"), (402, "Payment Required"), (403, "Forbidden"),
  (404, "Not Found"), (405, "Method Not Allowed"), (406, "Not Acceptable"),
  (407, "Proxy Authentication Required"), (408, "Request Timeout"), (409, "Conflict"),
  (410, "Gone"), (411, "Length Required"), (412, "Precondition Failed"),
  (413, "Payload Too Large"), (414, "URI Too Long"), (415, "Unsupported Media Type"),
  (416, "Range Not Satisfiable"), (417, "Expectation Failed"), (418, "I'm a teapot"),
  (421, "Misdirected Request"), (422, "Unprocessable Entity"), (423, "Locked"),
  (424, "Failed Dependency"), (426, "Upgrade Required"), (428, "Precondition Required"),
  (429, "Too Many Requests"), (431, "Request Header Fields Too Large"),
  (451, "Unavailable For Legal Reasons"), (500, "Internal Server Error"),
  (501, "Not Implemented"), (502, "Bad Gateway"), (503, "Service Unavailable"),
  (504, "Gateway Timeout"), (505, "HTTP Version Not Supported"),
  (506, "Variant Also Negotiates"), (507, "Insufficient Storage"), (508, "Loop Detected"),
  (510, "Not Extended"), (511, "Network Authentication Required")]

/-- The words for a code. -/
def reasonPhrase (code : Nat) : String :=
  (reasonPhrases.lookup code).getD "<unknown status code>"

namespace Status

/-- Codes are below this. -/
def codeBound : Int := 65536

/-- Reads what the server says; status and code must be there. -/
def ofJson? (v : Json) : Option Status := do
  let ms ← v.members?
  let status ← (Json.lookup "status" ms).bind Json.text?
  let code ← (Json.lookup "code" ms).bind (Json.readInt 0 (codeBound - 1))
  let text (name : String) : Option String :=
    match Json.lookup name ms with
    | none => some ""
    | some v => v.text?
  return { status, message := ← text "message", reason := ← text "reason", code := code.toNat }

/-- What an answer says about a failure: its body is quoted when it cannot be understood. -/
def ofAnswer (a : Answer) : Status :=
  match (Json.parse? a.body).bind ofJson? with
  | some s => s
  | none =>
    { status := toString a.status ++ " " ++ reasonPhrase a.status
      message := Text.quoted a.body
      reason := "Failed to parse error data"
      code := a.status }

/-- The wording of a failure, with all its parts. -/
def text (s : Status) : String :=
  "ApiError: " ++ s.message ++ ": " ++ s.reason ++ " (ErrorResponse \x7b status: "
    ++ Text.quoted s.status ++ ", message: " ++ Text.quoted s.message ++ ", reason: "
    ++ Text.quoted s.reason ++ ", code: " ++ toString s.code ++ " \x7d)"

end Status

/-- Why a request has no result. -/
inductive Failure where
  /-- The server answered that it failed. -/
  | refused (status : Status)
  /-- There was no answer. -/
  | unreachable
  /-- The answer cannot be understood. -/
  | undecodable
  /-- The name of the object cannot stand in a path. -/
  | badName
  deriving DecidableEq, Inhabited

namespace Failure

/-- The wording of each failure. -/
def message : Failure → String
  | refused s => s.text
  | unreachable => "the server cannot be reached"
  | undecodable => "the answer cannot be understood"
  | badName => "the name cannot stand in a path"

/-- The code of a failure that the server reported. -/
def code? : Failure → Option Nat
  | refused s => some s.code
  | _ => none

end Failure

/-- The value that an answer holds. -/
def decode {α : Type} (read : Json → Option α) : Option Answer → Except Failure α
  | none => .error .unreachable
  | some a =>
    if 400 ≤ a.status ∧ a.status < 600 then .error (.refused (Status.ofAnswer a))
    else match (Json.parse? a.body).bind read with
      | some v => .ok v
      | none => .error .undecodable

end RunOperator.Api
