import RunOperator.Api.Calls
import RunOperator.Watch.Event

/-!
# Watching over the API server

A watcher lists the runs of a scope page by page and then watches from the version of the list on.
When the answer to a watch ends, it watches again from the last version it has seen. After a failed
listing it begins anew, and so it does when the server no longer knows the version it asks for.
-/

namespace RunOperator.Api

/-- What a watcher reports: an event, or why there is none. -/
abbrev WatchItem := Except Failure WatchEvent

/-- What a watcher does next. -/
inductive Watcher where
  /-- It announces a listing. -/
  | start
  /-- It lists a page. -/
  | page (continueFrom : Option String)
  /-- It watches from a version on. -/
  | watch (version : String)
  deriving DecidableEq, Inhabited

/-- A page of a listing. -/
structure Page where
  runs : List Run
  version : Option String
  continueFrom : Option String
  deriving Inhabited

/-- A text that is set and not empty. -/
def nonEmpty (t : Option String) : Option String := t.filter (!·.isEmpty)

/-- Reads a page of a listing. -/
def readPage (v : Json) : Option Page := do
  let ms ← v.members?
  let runs ← readList Run.ofJson? v
  let metadata := (← Json.optional ms "metadata" Json.members?).getD []
  let version ← Json.optional metadata "resourceVersion" Json.text?
  let continueFrom ← Json.optional metadata "continue" Json.text?
  return { runs, version := nonEmpty version, continueFrom := nonEmpty continueFrom }

/-- A line of the answer to a watch. -/
inductive WatchLine where
  | added (run : Run)
  | deleted (run : Run)
  | bookmark (version : String)
  | failed (status : Status)
  deriving Inhabited

/-- Reads a line of the answer to a watch. -/
def readWatchLine (v : Json) : Option WatchLine := do
  let object ← v.get? "object"
  match ← (v.get? "type").bind Json.text? with
  | "ADDED" | "MODIFIED" => (Run.ofJson? object).map .added
  | "DELETED" => (Run.ofJson? object).map .deleted
  | "BOOKMARK" =>
    ((object.get? "metadata").bind fun m => (m.get? "resourceVersion").bind Json.text?).map
      .bookmark
  | "ERROR" => (Status.ofJson? object).map .failed
  | _ => none

namespace Watcher

/-- The code of a version that the server no longer knows. -/
def goneCode : Nat := 410

/-- The report of a changed run, and the watcher after it. -/
def change (event : Run → WatchEvent) (r : Run) : List WatchItem × Watcher :=
  match nonEmpty r.metadata.resourceVersion with
  | some version => ([.ok (event r)], .watch version)
  | none => ([.error .undecodable], .start)

/-- The reports of a line, and the watcher after it. -/
def readLine (version : String) : Option WatchLine → List WatchItem × Watcher
  | some (.added r) => change .apply r
  | some (.deleted r) => change .delete r
  | some (.bookmark version) => ([], .watch version)
  | some (.failed s) =>
    ([.error (.refused s)], if s.code = goneCode then .start else .watch version)
  | none => ([.error .undecodable], .watch version)

/-- The reports of the lines of an answer, up to one after which the watcher begins anew. -/
def readLines (version : String) : List (Option WatchLine) → List WatchItem × Watcher
  | [] => ([], .watch version)
  | line :: rest =>
    match readLine version line with
    | (items, .watch version) =>
      let (others, w) := readLines version rest
      (items ++ others, w)
    | (items, w) => (items, w)

/-- The lines of an answer that are not empty. -/
def linesOf (body : String) : List (Option WatchLine) :=
  ((body.splitOn "\n").filter (!·.isEmpty)).map fun l => (Json.parse? l).bind readWatchLine

/-- The reports of a page, and the watcher after it. -/
def readAnswerPage : Except Failure Page → List WatchItem × Watcher
  | .error f => ([.error f], .start)
  | .ok p =>
    match p.version with
    | none => ([.error .undecodable], .start)
    | some version =>
      let items := p.runs.map fun r => Except.ok (.initApply r)
      match p.continueFrom with
      | some mark => (items, .page (some mark))
      | none => (items ++ [.ok .initDone], .watch version)

/-- The reports of the answer to a watch, and the watcher after it. -/
def readAnswerWatch (version : String) : Option Answer → List WatchItem × Watcher
  | none => ([.error .unreachable], .watch version)
  | some a =>
    if 400 ≤ a.status then
      let s := Status.ofAnswer a
      ([.error (.refused s)], if s.code = goneCode then .start else .watch version)
    else readLines version (linesOf a.body)

/-- One step: what the watcher reports, and what it does then. -/
def step (scope : Option String) : Watcher → Dialogue (List WatchItem × Watcher)
  | start => .done ([.ok .init], .page none)
  | page mark =>
    .ask { Request.get (runsPath scope) with continueFrom := mark } fun answer =>
      .done (readAnswerPage (decode readPage answer))
  | watch version =>
    .ask { Request.get (runsPath scope) with watchFrom := some version } fun answer =>
      .done (readAnswerWatch version answer)

/-- What a watcher reports in a number of steps. -/
def reports (scope : Option String) : Nat → Watcher → Dialogue (List WatchItem)
  | 0, _ => .done []
  | n + 1, w => do
    let (items, w) ← w.step scope
    let others ← reports scope n w
    return items ++ others

end Watcher

end RunOperator.Api
