import RunOperator.Config.Layer

/-!
# The configuration

A layer in which all fields have taken their values. A configuration is refused when the poll
interval, the retry limit or the request timeout is zero; the first of these in this order is
reported.
-/

namespace RunOperator

/-- Why a file cannot be read as text. -/
inductive FileError where
  | isDirectory
  | notUtf8
  deriving DecidableEq, Inhabited

/-- The number that must not be zero. -/
inductive ZeroField where
  | pollInterval
  | retryLimit
  | requestTimeout
  deriving DecidableEq, Inhabited

/-- Why there is no configuration. -/
inductive ConfigError where
  /-- The variable has a value that is no number of its type. -/
  | invalidValue (name type value : String)
  | tomlParse (path : String)
  | fileRead (path : String) (cause : FileError)
  | validation (field : ZeroField)
  deriving DecidableEq, Inhabited

/-- The wording of each cause. -/
def FileError.message : FileError → String
  | isDirectory => "Is a directory (os error 21)"
  | notUtf8 => "stream did not contain valid UTF-8"

/-- The name of a field with its section. -/
def ZeroField.name : ZeroField → String
  | pollInterval => "monitor.poll_interval_ms"
  | retryLimit => "monitor.retry_limit"
  | requestTimeout => "kube.request_timeout_secs"

/-- The wording of each error. -/
def ConfigError.message : ConfigError → String
  | invalidValue name type value =>
    "Invalid value for " ++ name ++ ": invalid " ++ type ++ " value '" ++ value ++ "'"
  | tomlParse path => "Failed to parse TOML config at " ++ path
  | fileRead path cause => "Failed to read config file " ++ path ++ ": " ++ cause.message
  | validation field => "Validation error: " ++ field.name ++ " must be greater than zero"

/-- How to reach the cluster. -/
structure KubeConfig where
  kubeconfig : Option String
  ns : Option String
  requestTimeoutSecs : Nat
  deriving DecidableEq, Inhabited

/-- How monitors work. -/
structure MonitorConfig where
  pollIntervalMs : Nat
  retryLimit : Nat
  deriving DecidableEq, Inhabited

/-- What is logged. -/
structure LoggingConfig where
  level : String
  json : Bool
  deriving DecidableEq, Inhabited

/-- The configuration. -/
structure Config where
  kube : KubeConfig
  monitor : MonitorConfig
  logging : LoggingConfig
  deriving DecidableEq, Inhabited

/-- The section with its defaults: a request may take half a minute. -/
def KubeLayer.finalize (l : KubeLayer) : KubeConfig :=
  ⟨l.kubeconfig, l.ns, l.requestTimeoutSecs.getD 30⟩

/-- The section with its defaults: a poll each second, and five failures in a row. -/
def MonitorLayer.finalize (l : MonitorLayer) : MonitorConfig :=
  ⟨l.pollIntervalMs.getD 1000, l.retryLimit.getD 5⟩

/-- The section with its defaults: information for readers. -/
def LoggingLayer.finalize (l : LoggingLayer) : LoggingConfig :=
  ⟨l.level.getD "info", l.json.getD false⟩

namespace Config

/-- The first number of a configuration that must not be zero and is. -/
def zeroField? (c : Config) : Option ZeroField :=
  if c.monitor.pollIntervalMs = 0 then some .pollInterval
  else if c.monitor.retryLimit = 0 then some .retryLimit
  else if c.kube.requestTimeoutSecs = 0 then some .requestTimeout
  else none

/-- The fields of a layer with the defaults for those it leaves open. -/
def ofLayer (l : Layer) : Config where
  kube := (l.kube.getD .empty).finalize
  monitor := (l.monitor.getD .empty).finalize
  logging := (l.logging.getD .empty).finalize

end Config

/-- The configuration that a layer gives. -/
def Layer.finalize (l : Layer) : Except ConfigError Config :=
  match (Config.ofLayer l).zeroField? with
  | some field => .error (.validation field)
  | none => .ok (Config.ofLayer l)

end RunOperator
