import RunOperator.Config.Basic
import RunOperator.Config.Decode
import RunOperator.Text.Raw

/-!
# Configuration sources

A source gives a layer, or fails. Sources are loaded in the order of their precedence, those of one
precedence in the order in which they are listed, and the first failure ends the loading. A file
that does not exist gives an empty layer. A variable of the environment that is empty or no text
counts as unset.
-/

namespace RunOperator

/-- The variables that are set. -/
abbrev Environment := List (String × RawText)

namespace Environment

/-- The text of a variable; empty texts count as unset. -/
def text? (env : Environment) (name : String) : Option String :=
  match (env.lookup name).bind RawText.text? with
  | some s => if s.isEmpty then none else some s
  | none => none

/-- The number that a text stands for: an optional plus and decimal digits, below a bound. -/
def number? (bound : Nat) (text : String) : Option Nat :=
  let digits := match text.toList with
    | '+' :: rest => rest
    | s => s
  if digits.isEmpty || digits.any (!·.isDigit) then none
  else
    let n := Text.natOfDigits digits
    if n < bound then some n else none

/-- The number in a variable. -/
def readNumber (env : Environment) (name type : String) (bound : Nat) :
    Except ConfigError (Option Nat) :=
  match env.text? name with
  | none => .ok none
  | some text =>
    match number? bound text with
    | some n => .ok (some n)
    | none => .error (.invalidValue name type text)

/-- The flag in a variable: set by `1`, and by `true` in any case. -/
def flag? (env : Environment) (name : String) : Option Bool :=
  (env.text? name).map fun text => text.toLower == "true" || text == "1"

/-- The layer that the environment gives. -/
def layer (env : Environment) : Except ConfigError Layer := do
  let timeout ← env.readNumber "NAUTA_OPERATOR_KUBE_REQUEST_TIMEOUT_SECS" "u64" bound64
  let interval ← env.readNumber "NAUTA_OPERATOR_MONITOR_POLL_INTERVAL_MS" "u64" bound64
  let limit ← env.readNumber "NAUTA_OPERATOR_MONITOR_RETRY_LIMIT" "u32" bound32
  return {
    kube := some {
      kubeconfig := env.text? "NAUTA_OPERATOR_KUBE_KUBECONFIG"
      ns := env.text? "NAUTA_OPERATOR_KUBE_NAMESPACE"
      requestTimeoutSecs := timeout }
    monitor := some { pollIntervalMs := interval, retryLimit := limit }
    logging := some {
      level := env.text? "NAUTA_OPERATOR_LOGGING_LEVEL"
      json := env.flag? "NAUTA_OPERATOR_LOGGING_JSON" } }

end Environment

/-- What stands at the path of a file. -/
inductive FileContent where
  | missing
  | directory
  | text (content : RawText)
  deriving Inhabited

namespace FileContent

/-- The layer that a file gives. -/
def layer (path : String) : FileContent → Except ConfigError Layer
  | missing => .ok .empty
  | directory => .error (.fileRead path .isDirectory)
  | text content =>
    match content.text? with
    | none => .error (.fileRead path .notUtf8)
    | some document =>
      match Layer.ofToml? document with
      | some layer => .ok layer
      | none => .error (.tomlParse path)

end FileContent

/-- A source of configuration. -/
structure Source where
  name : String
  /-- A source of higher precedence overrides. -/
  precedence : Nat
  load : Except ConfigError Layer

namespace Source

/-- The built-in defaults, which leave all fields open. -/
def defaults : Source := ⟨"defaults", 10, .ok .empty⟩

/-- A TOML file. -/
def file (path : String) (content : FileContent) : Source :=
  ⟨"toml-config", 20, content.layer path⟩

/-- The environment. -/
def environment (env : Environment) : Source := ⟨"environment", 50, env.layer⟩

/-- Sources in the order of their precedence. -/
def inOrder (sources : List Source) : List Source :=
  sources.mergeSort fun a b => a.precedence ≤ b.precedence

end Source

/-- The configuration that some sources give, where to load a source can be any action. -/
def Config.loadBy {m : Type → Type} [Monad m] (load : Source → ExceptT ConfigError m Layer)
    (sources : List Source) : ExceptT ConfigError m Config := do
  let layers ← (Source.inOrder sources).mapM load
  (Layer.mergeAll layers).finalize

/-- The configuration that some sources give. -/
def Config.load (sources : List Source) : Except ConfigError Config :=
  (Config.loadBy (m := Id) Source.load sources).run

/-- The sources that are used: the defaults, a file and the environment. -/
def Source.standard (path : String) (content : FileContent) (env : Environment) : List Source :=
  [.defaults, .file path content, .environment env]

end RunOperator
