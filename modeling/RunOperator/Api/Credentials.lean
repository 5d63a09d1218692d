import RunOperator.Config.Source
import RunOperator.Json.Decode
import RunOperator.Yaml.Document

/-!
# Credentials

A client finds the cluster by a file in YAML or JSON that names clusters, users and contexts. A
context says which cluster and which user belong together, and the file says which context to use.
The file is of use when all that the context names is there and the cluster has a server.
-/

namespace RunOperator.Api

/-- A cluster and the user to talk to it as. -/
structure Context where
  cluster : String
  user : Option String
  deriving DecidableEq, Inhabited

/-- What a file of credentials gives; what has a name may still be empty. -/
structure Credentials where
  currentContext : Option String
  contexts : List (String × Option Context)
  /-- The clusters with their servers. -/
  clusters : List (String × Option (Option String))
  users : List (String × Option Unit)
  deriving DecidableEq, Inhabited

namespace Credentials

/-- The credentials of an empty file. -/
def empty : Credentials := ⟨none, [], [], []⟩

/-- Reads an object that is given under a name. -/
def readNamed {α : Type} (content : String) (read : List (String × Json) → Option α) (v : Json) :
    Option (String × Option α) := do
  let ms ← v.members?
  let name ← (Json.lookup "name" ms).bind Json.text?
  return (name, ← Json.optional ms content fun v => v.members?.bind read)

/-- Reads a list that may be missing. -/
def readList {α : Type} (ms : List (String × Json)) (name : String) (read : Json → Option α) :
    Option (List α) :=
  (Json.optional ms name (Json.readItems read)).map (·.getD [])

/-- Reads a context. -/
def readContext (ms : List (String × Json)) : Option Context := do
  return ⟨← (Json.lookup "cluster" ms).bind Json.text?, ← Json.optional ms "user" Json.text?⟩

/-- Reads the server of a cluster. -/
def readCluster (ms : List (String × Json)) : Option (Option String) :=
  Json.optional ms "server" Json.text?

/-- Reads a user, of whom nothing is needed. -/
def readUser (_ : List (String × Json)) : Option Unit := some ()

/-- Reads credentials. -/
def ofJson? (v : Json) : Option Credentials := do
  let ms ← v.members?
  return {
    currentContext := ← Json.optional ms "current-context" Json.text?
    contexts := ← readList ms "contexts" (readNamed "context" readContext)
    clusters := ← readList ms "clusters" (readNamed "cluster" readCluster)
    users := ← readList ms "users" (readNamed "user" readUser) }

/-- Reads a text in JSON or YAML. -/
def ofText? (text : String) : Option Credentials :=
  match (Json.parse? text).or (Yaml.parse? text) with
  | some .null => some empty
  | some v => ofJson? v
  | none => none

/-- The server of the context to use. -/
def server? (c : Credentials) : Option String := do
  let context ← (← c.contexts.lookup (← c.currentContext))
  let server ← (← (← c.clusters.lookup context.cluster))
  match context.user with
  | none => return server
  | some user =>
    let _ ← (← c.users.lookup user)
    return server

end Credentials

/-- A text that can be the address of a server. -/
def isAddress (t : String) : Bool := !t.isEmpty && t.toList.all fun c => ' ' < c && c.toNat < 127

/-- The file gives credentials. -/
def hasCredentials : FileContent → Bool
  | .text content =>
    ((content.text?.bind Credentials.ofText?).bind Credentials.server?).any isAddress
  | _ => false

end RunOperator.Api
