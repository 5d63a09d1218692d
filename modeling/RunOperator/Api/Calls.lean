import RunOperator.Api.Status
import RunOperator.Monitor.Poll
import RunOperator.Run.Codec
import RunOperator.Run.Filter

/-!
# Calls to the API server

Each call is a dialogue of at most one request. A run that is missing when it is read or replaced
is told apart from other failures, and so is a conflict when it is replaced; a missing list of pods
is an empty one. A run without a namespace cannot be replaced, and nothing is asked for it.

A poll over the API server reads the run, lists its pods and replaces the run, as any poll does.
-/

namespace RunOperator.Api

/-- Why a call has no result. -/
inductive CallError where
  /-- No credentials for the cluster were found. -/
  | noCredentials
  /-- The run that is to be replaced has no namespace. -/
  | noNamespace (name : String)
  | runNotFound (key : RunKey)
  | conflict (key : RunKey)
  | failure (f : Failure)
  deriving DecidableEq, Inhabited

namespace CallError

/-- The error of a client call. -/
def toClientError : CallError → ClientError
  | noCredentials => .connection "no credentials"
  | noNamespace name => .api ("Run " ++ name ++ " has no namespace")
  | runNotFound key => .runNotFound key
  | conflict key => .conflict key
  | failure f => .api f.message

/-- The error of the call by which a client connects: whatever fails, there is no connection. -/
def toConnectionError : CallError → ClientError
  | failure f => .connection f.message
  | e => e.toClientError

end CallError

/-! ### Paths -/

/-- The path of the runs in a scope. -/
def runsPath : Option String → String
  | some ns => "/apis/" ++ Run.apiVersion ++ "/namespaces/" ++ ns ++ "/runs"
  | none => "/apis/" ++ Run.apiVersion ++ "/runs"

/-- The path of a run. -/
def runPath (k : RunKey) : String := runsPath (some k.ns) ++ "/" ++ k.name

/-- The path of the pods in a namespace. -/
def podsPath (ns : String) : String := "/api/v1/namespaces/" ++ ns ++ "/pods"

/-- A character that must be escaped in a path. -/
def needsEscape (c : Char) : Bool :=
  c ≤ ' ' || 127 ≤ c.toNat || ['"', '#', '<', '>', '?', '\x60', '\x7b', '\x7d', '/', '%'].contains c

/-- A name that can stand in a path. -/
def isPathName (name : String) : Bool := !name.isEmpty && !name.toList.any needsEscape

/-! ### Decoding -/

/-- Reads the items of a list; `null` stands for no items. -/
def readList {α : Type} (read : Json → Option α) (v : Json) : Option (List α) := do
  let ms ← v.members?
  match ← Json.lookup "items" ms with
  | .null => return []
  | items => Json.readItems read items

/-- Reads the phase of a pod. -/
def readPod (v : Json) : Option PodPhase := do
  let ms ← v.members?
  let status ← Json.optional ms "status" Json.members?
  let phase ← Json.optional (status.getD []) "phase" Json.text?
  return PodPhase.ofReported phase

/-- Reads the version of the server. -/
def readServerVersion (v : Json) : Option String := do
  let ms ← v.members?
  for name in ["major", "minor", "gitCommit", "gitTreeState", "buildDate", "goVersion",
      "compiler", "platform"] do
    let _ ← (Json.lookup name ms).bind Json.text?
  (Json.lookup "gitVersion" ms).bind Json.text?

/-! ### Calls -/

/-- The result of a request for a run, where a code may have a meaning of its own. -/
def runResult (named : Nat → Option CallError) (answer : Option Answer) : Except CallError Run :=
  match decode Run.ofJson? answer with
  | .ok r => .ok r
  | .error f => .error (((f.code?).bind named).getD (.failure f))

/-- The meaning of the codes when a run is read. -/
def readMeaning (k : RunKey) (code : Nat) : Option CallError :=
  if code = 404 then some (.runNotFound k) else none

/-- The meaning of the codes when a run is replaced. -/
def replaceMeaning (k : RunKey) (code : Nat) : Option CallError :=
  if code = 404 then some (.runNotFound k) else if code = 409 then some (.conflict k) else none

/-- Asks for a run under a name that can stand in a path. -/
def askForRun (q : Request) (name : String) (named : Nat → Option CallError) :
    Dialogue (Except CallError Run) :=
  if isPathName name then .ask q fun answer => .done (runResult named answer)
  else .done (.error (.failure .badName))

/-- Reads a run. -/
def getRun (k : RunKey) : Dialogue (Except CallError Run) :=
  askForRun (.get (runPath k)) k.name (readMeaning k)

/-- Replaces a run. -/
def replaceRun (r : Run) : Dialogue (Except CallError Run) :=
  match r.metadata.ns with
  | none => .done (.error (.noNamespace r.displayName))
  | some ns =>
    let k : RunKey := ⟨ns, r.displayName⟩
    askForRun { Request.get (runPath k) with method := .put, body := some r.toJson } k.name
      (replaceMeaning k)

/-- Lists the runs in a scope that pass a filter. -/
def listRuns (scope : Option String) (f : RunFilter) : Dialogue (Except CallError (List Run)) :=
  .ask (.get (runsPath scope)) fun answer => .done <|
    match decode (readList Run.ofJson?) answer with
    | .ok runs => .ok (f.apply runs)
    | .error e => .error (.failure e)

/-- The pods of a run. -/
def listPods (k : RunKey) : Dialogue (Except CallError (List PodPhase)) :=
  .ask { Request.get (podsPath k.ns) with labelSelector := some (Run.nameLabel ++ "=" ++ k.name) }
    fun answer => .done <|
      match decode (readList readPod) answer with
      | .ok pods => .ok pods
      | .error e => if e.code? = some 404 then .ok [] else .error (.failure e)

/-- Asks the server for its version, which shows that it answers. -/
def connect : Dialogue (Except CallError String) :=
  .ask (.get "/version") fun answer =>
    .done ((decode readServerVersion answer).mapError CallError.failure)

/-- A call of a client that has credentials or not. Only a run without a namespace is refused
before credentials are looked for. -/
def authorized {α : Type} (credentials : Bool) (call : Dialogue (Except CallError α)) :
    Dialogue (Except CallError α) :=
  if credentials then call
  else match call with
    | .done (.error (.noNamespace name)) => .done (.error (.noNamespace name))
    | _ => .done (.error .noCredentials)

/-! ### Polls -/

/-- The result of a call as a client reports it. -/
def reported {α : Type} (r : Except CallError α) : Except ClientError α :=
  r.mapError CallError.toClientError

/-- A poll of a run over the API server at an instant. -/
def poll (k : RunKey) (now : Instant) : Dialogue PollResult := do
  match Poll.afterRead (reported (← getRun k)) with
  | .finish result => return result
  | .next (r, current) =>
    match Poll.afterList r current now (reported (← listPods k)) with
    | .finish result => return result
    | .next (r, target) => return Poll.afterWrite target (reported (← replaceRun r))

end RunOperator.Api
