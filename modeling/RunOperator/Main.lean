import RunOperator.Operator.Session
import Std.Time.DateTime.Timestamp

/-!
# The program

Collects what surrounds the program, holds its session and prints what the session shows. No
transport to an API server is part of the program, so every request stays without an answer.
-/

namespace RunOperator.Program

/-- What stands at a path. What is there but cannot be read counts as a directory. -/
def readContent (path : String) : IO FileContent := do
  try
    return .text (.ofBytes (← IO.FS.readBinFile path).toList)
  catch
    | .noFileOrDirectory .. => return .missing
    | _ => return .directory

/-- The variables that are set, of those that matter. -/
def readEnvironment : IO Environment := do
  let mut env : Environment := []
  for name in Session.variableNames do
    if let some value ← IO.getEnv name then
      env := (name, .ofText value) :: env
  return env

/-- What a file of the system tells about the machine, in small letters. -/
def machineWord (name : String) : IO String := do
  try
    return ((← IO.FS.readFile ("/proc/sys/kernel/" ++ name)).toLower.splitOn "\n").headD ""
  catch _ => return "unknown"

/-- What the wall clock shows. -/
def readClock : IO Instant := do
  let t ← Std.Time.Timestamp.now
  return ⟨t.val.second.val, t.val.nano.val.toNat⟩

/-- The surroundings with the files in which the session looks, as far as they are known. -/
def withFiles (s : Surroundings) (args : List RawText) : IO Surroundings := do
  let contents ← (Session.filesOf s args).mapM fun path => return (path, ← readContent path)
  return { s with file := fun path => (contents.lookup path).getD .missing }

/-- The surroundings of the program. The configuration is read before the files that it names. -/
def readSurroundings (args : List RawText) : IO Surroundings := do
  let s : Surroundings := {
    environment := ← readEnvironment
    variablesFile := ← readContent Session.variablesPath
    file := fun _ => .missing
    platform := (← machineWord "ostype") ++ "-" ++ (← machineWord "arch")
    now := ← readClock }
  withFiles (← withFiles s args) args

end RunOperator.Program

open RunOperator in
/-- Runs the program. -/
def main (args : List String) : IO UInt32 := do
  let args := args.map RawText.ofText
  let session := (Session.start (← Program.readSurroundings args) args).unanswered
  session.lines.forM IO.println
  return session.exitCode.toUInt32
