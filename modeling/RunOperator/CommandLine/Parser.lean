import RunOperator.CommandLine.Basic
import RunOperator.Config.Source

/-!
# Reading the command line

Arguments are read from left to right, first those of the program and then, from the name of a
command on, those of the command. An option takes its value from the same argument or from the
next one, and a value that came with the next argument is checked when the following option or
switch is met, or at the end. So an unknown option is reported rather than a bad value before it.

The option for the configuration file is known everywhere and falls back on a variable of the
environment. The command line wins over the environment, and the later place over the earlier.
-/

namespace RunOperator.CommandLine

/-- Where an argument stands: before a command, or behind one. -/
inductive Level where
  | top
  | run
  | list
  | version
  deriving DecidableEq, Inhabited

/-- An option with a value. -/
inductive Field where
  | config
  | ns
  | name
  | state
  | excludedState
  | experiment
  | kind
  deriving DecidableEq, Inhabited

/-- An option without a value. -/
inductive Switch where
  | help
  | version
  | allNamespaces
  deriving DecidableEq, Inhabited

/-- The values read so far. -/
structure Values where
  config : Option RawText
  request : ListRequest
  deriving Inhabited

/-- An option that was met and whose value was not checked yet. -/
structure Pending where
  field : Field
  value : Option RawText

/-- The reader of one level. -/
structure Reader where
  level : Level
  values : Values
  pending : Option Pending
  /-- After `--` nothing is an option. -/
  trailing : Bool

namespace Reader

/-- The reader at the start of a level. -/
def start (level : Level) : Reader := ⟨level, ⟨none, .empty⟩, none, false⟩

/-! ### The names of the options -/

/-- The option with a value of a long name. -/
def longField? (level : Level) : String → Option Field
  | "config" => some .config
  | name =>
    if level ≠ .list then none
    else match name with
      | "namespace" => some .ns
      | "name" => some .name
      | "state" => some .state
      | "exclude-state" => some .excludedState
      | "experiment" => some .experiment
      | "kind" => some .kind
      | _ => none

/-- The switch of a long name. -/
def longSwitch? (level : Level) : String → Option Switch
  | "help" => some .help
  | "version" => if level = .top then some .version else none
  | "all-namespaces" => if level = .list then some .allNamespaces else none
  | _ => none

/-- The option with a value of a letter. -/
def shortField? (level : Level) (c : Char) : Option Field :=
  if level = .list ∧ c = 'n' then some .ns else none

/-- The switch of a letter. -/
def shortSwitch? (level : Level) : Char → Option Switch
  | 'h' => some .help
  | 'V' => if level = .top then some .version else none
  | 'A' => if level = .list then some .allNamespaces else none
  | _ => none

/-! ### Values -/

/-- The characters of a value. -/
def textOf (v : RawText) : Except ArgumentError String :=
  match v.text? with
  | some s => .ok s
  | none => .error .invalidUtf8

/-- A value that may be given once. -/
def once {α : Type} (old : Option α) (new : Except ArgumentError α) :
    Except ArgumentError (Option α) :=
  if old.isSome then .error .argumentConflict else new.map some

/-- The state that a value names, in any case. -/
def stateOf (option : String) (v : RawText) : Except ArgumentError RunState := do
  let s ← textOf v
  (RunState.parse s.toUpper).mapError (.valueValidation option s)

/-- The kind that a value names. -/
def kindOf (v : RawText) : Except ArgumentError RunKind := do
  let s ← textOf v
  (RunKind.parse s).mapError (.valueValidation "--kind <KINDS>" s)

/-- The path that a value gives. -/
def pathOf (v : RawText) : Except ArgumentError RawText :=
  if v.isEmpty then .error .invalidValue else .ok v

/-- The values with one more. -/
def store (vs : Values) (v : RawText) : Field → Except ArgumentError Values
  | .config => return { vs with config := ← once vs.config (pathOf v) }
  | .ns => return { vs with request.ns := ← once vs.request.ns (textOf v) }
  | .name => return { vs with request.name := ← once vs.request.name (textOf v) }
  | .state => do
    let s ← stateOf "--state <STATES>" v
    return { vs with request.states := vs.request.states ++ [s] }
  | .excludedState => do
    let s ← once vs.request.excludedState (stateOf "--exclude-state <EXCLUDE_STATE>" v)
    return { vs with request.excludedState := s }
  | .experiment => return { vs with request.experiment := ← once vs.request.experiment (textOf v) }
  | .kind => do
    let k ← kindOf v
    return { vs with request.kinds := vs.request.kinds ++ [k] }

/-- Checks the value that was left pending. -/
def resolve (r : Reader) : Except ArgumentError Reader :=
  match r.pending with
  | none => .ok r
  | some p =>
    match p.value with
    | none => .error .invalidValue
    | some v => return { r with values := ← store r.values v p.field, pending := none }

/-- Meets an option with a value; without one in the same argument the next one gives it. -/
def meetField (r : Reader) (f : Field) (v : Option RawText) : Except ArgumentError Reader := do
  let r ← r.resolve
  match v with
  | some v => return { r with values := ← store r.values v f }
  | none => return { r with pending := some ⟨f, none⟩ }

/-- Meets a switch. -/
def meetSwitch (r : Reader) (s : Switch) : Except ArgumentError Reader := do
  let r ← r.resolve
  match s with
  | .help => .error .displayHelp
  | .version => .error .displayVersion
  | .allNamespaces =>
    if r.values.request.allNamespaces then .error .argumentConflict
    else return { r with values.request.allNamespaces := true }

/-! ### Arguments -/

/-- The pieces before the first equals sign, and those behind it. -/
def cutAtEquals : List Piece → List Piece × Option (List Piece)
  | [] => ([], none)
  | p :: rest =>
    if p = .char '=' then ([], some rest)
    else
      let (name, value) := cutAtEquals rest
      (p :: name, value)

/-- Reads a long option, after its hyphens. -/
def long (r : Reader) (pieces : List Piece) : Except ArgumentError Reader :=
  let (name, value) := cutAtEquals pieces
  match (RawText.mk name).text? with
  | none => .error .unknownArgument
  | some name =>
    match longField? r.level name, longSwitch? r.level name with
    | some f, _ => r.meetField f (value.map RawText.mk)
    | none, some s => if value.isSome then .error .tooManyValues else r.meetSwitch s
    | none, none => .error .unknownArgument

/-- Reads short options, after their hyphen: switches, of which the last may be an option with a
value. -/
def short (r : Reader) : List Piece → Except ArgumentError Reader
  | [] => .ok r
  | .broken _ :: _ => .error .unknownArgument
  | .char c :: rest =>
    match shortSwitch? r.level c, shortField? r.level c with
    | some s, _ => do short (← r.meetSwitch s) rest
    | none, some f =>
      match rest with
      | [] => r.meetField f none
      | p :: value => r.meetField f (some ⟨if p = .char '=' then value else p :: value⟩)
    | none, none => .error .unknownArgument

/-- The command of a name. -/
def command? : String → Option Level
  | "run" => some .run
  | "list" => some .list
  | "version" => some .version
  | _ => none

/-- The name of a command or of the request for help. -/
def isCommandName (a : RawText) : Bool :=
  match a.text? with
  | some s => s == "help" || (command? s).isSome
  | none => false

/-- The error of an argument that has no place. -/
def stray (r : Reader) (a : RawText) : ArgumentError :=
  if r.level = .top ∧ ¬ (r.trailing ∧ isCommandName a) then .invalidSubcommand
  else .unknownArgument

/-- An option was met and waits for its value. -/
def awaitsValue (r : Reader) : Bool :=
  match r.pending with
  | some p => p.value.isNone
  | none => false

/-- The text of an argument that could be the name of a command here. -/
def commandName? (r : Reader) (a : RawText) : Option String :=
  if r.level = .top && !r.trailing && !r.awaitsValue then a.text? else none

/-- Reads an argument that names no command. -/
def argument (r : Reader) (a : RawText) : Except ArgumentError Reader :=
  if r.trailing then .error (r.stray a)
  else match a.pieces with
    | [.char '-', .char '-'] => .ok { r with trailing := true }
    | .char '-' :: .char '-' :: rest => r.long rest
    | .char '-' :: p :: rest => r.short (p :: rest)
    | _ =>
      match r.pending with
      | some ⟨f, none⟩ => .ok { r with pending := some ⟨f, some a⟩ }
      | _ => .error (r.stray a)

/-- Help on a command. No command has commands of its own. -/
def help : List RawText → ArgumentError
  | [] => .displayHelp
  | [a] => if isCommandName a then .displayHelp else .invalidSubcommand
  | _ => .invalidSubcommand

/-- Reads the arguments of a level. The answer holds the command that was met, with the arguments
behind it. -/
def read (r : Reader) : List RawText →
    Except ArgumentError (Reader × Option (Level × List RawText))
  | [] => .ok (r, none)
  | a :: rest =>
    match r.commandName? a with
    | some "help" => .error (help rest)
    | some name =>
      match command? name with
      | some level => .ok (r, some (level, rest))
      | none => do read (← r.argument a) rest
    | none => do read (← r.argument a) rest

/-! ### The end of a level -/

/-- The variable that gives the configuration file where no option does. -/
def configVariable : String := "NAUTA_OPERATOR_CONFIG"

/-- The path of the configuration file that the environment gives. -/
def pathOfEnvironment (env : Environment) : Except ArgumentError (Option RawText) :=
  match env.lookup configVariable with
  | some v => (pathOf v).map some
  | none => .ok none

/-- The path that a level gives, and whether the command line gave it. -/
structure ConfigPath where
  path : RawText
  fromOption : Bool

/-- Completes a level: what is pending, the environment, and options that exclude each other. -/
def finish (env : Environment) (r : Reader) :
    Except ArgumentError (Values × Option ConfigPath) := do
  let r ← r.resolve
  let config ← match r.values.config with
    | some path => .ok (some ⟨path, true⟩)
    | none => (pathOfEnvironment env).map fun path => path.map (⟨·, false⟩)
  if r.values.request.ns.isSome && r.values.request.allNamespaces then .error .argumentConflict
  else return (r.values, config)

/-- The command of a level. -/
def commandOf (vs : Values) : Level → Option Command
  | .top => none
  | .run => some .run
  | .list => some (.list vs.request)
  | .version => some .version

/-- The path that counts: that of the inner level, unless only the outer one is an option. -/
def effective (outer inner : Option ConfigPath) : Option ConfigPath :=
  match outer, inner with
  | some o, some i => some (if o.fromOption && !i.fromOption then o else i)
  | o, i => i.or o

end Reader

/-- Reads a command line. -/
def parse (env : Environment) (args : List RawText) : Except ArgumentError CommandLine := do
  let (top, sub) ← (Reader.start .top).read args
  match sub with
  | none =>
    let (_, config) ← top.finish env
    return ⟨config.map (·.path), none⟩
  | some (level, rest) =>
    let (inner, _) ← (Reader.start level).read rest
    let (values, innerConfig) ← inner.finish env
    let (_, outerConfig) ← top.finish env
    return ⟨(Reader.effective outerConfig innerConfig).map (·.path),
      Reader.commandOf values level⟩

end RunOperator.CommandLine
