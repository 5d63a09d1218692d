import RunOperator.Run.Filter
import RunOperator.Text.Raw

/-!
# The command line

What a command line asks for: to run the operator, to list runs, or to show the version. Listing
takes criteria for runs and a namespace.
-/

namespace RunOperator

/-- Why a command line asks for nothing that can be done, or only for text. -/
inductive ArgumentError where
  | displayHelp
  | displayVersion
  /-- An option has no value, or an empty path. -/
  | invalidValue
  /-- A value is none of those that its option takes. -/
  | valueValidation (option value : String) (cause : LifecycleError)
  /-- A value is no text. -/
  | invalidUtf8
  | unknownArgument
  | invalidSubcommand
  | argumentConflict
  /-- A switch was given a value. -/
  | tooManyValues
  deriving DecidableEq, Inhabited

/-- The first sentence of an error about a value. -/
def ArgumentError.message? : ArgumentError → Option String
  | valueValidation option value cause =>
    some ("error: invalid value '" ++ value ++ "' for '" ++ option ++ "': " ++ cause.message)
  | _ => none

/-- What to list. -/
structure ListRequest where
  ns : Option String
  allNamespaces : Bool
  name : Option String
  states : List RunState
  excludedState : Option RunState
  experiment : Option String
  kinds : List RunKind
  deriving DecidableEq, Inhabited

namespace ListRequest

/-- Lists all runs. -/
def empty : ListRequest where
  ns := none
  allNamespaces := false
  name := none
  states := []
  excludedState := none
  experiment := none
  kinds := []

/-- The namespace to list, or `none` for all of them: the one asked for, or else the configured
one. -/
def scope (r : ListRequest) (configured : Option String) : Option String :=
  if r.allNamespaces then none else r.ns.or configured

/-- The criteria for the runs; the name pattern must be a pattern. -/
def filter (r : ListRequest) : Except ClientError RunFilter := do
  let f := (RunFilter.all.withStates r.states).withKinds r.kinds
  let f ← match r.name with
    | some pattern => f.namePattern pattern
    | none => .ok f
  let f := match r.excludedState with
    | some s => f.excludingState s
    | none => f
  return match r.experiment with
    | some e => f.forExperiment e
    | none => f

end ListRequest

/-- What to do. -/
inductive Command where
  | run
  | list (request : ListRequest)
  | version
  deriving DecidableEq, Inhabited

/-- A command line. Without a command the operator runs. -/
structure CommandLine where
  config : Option RawText
  command : Option Command
  deriving Inhabited

end RunOperator
