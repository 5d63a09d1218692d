import RunOperator.Api.Calls
import RunOperator.Api.Credentials
import RunOperator.CommandLine.Parser
import RunOperator.Config.Dotenv
import RunOperator.Json.Printer
import RunOperator.Monitor.Basic

/-!
# Sessions

What the program does from its start on: it reads the command line, the file of variables and the
configuration, and then talks to the API server. Showing help or a version needs none of that. A
bad command line ends the program with code 2 and every later failure with code 1. Listing prints a
line for each run; running the operator begins when the server has answered.
-/

namespace RunOperator

/-- What surrounds the program. -/
structure Surroundings where
  environment : Environment
  /-- The file of variables. -/
  variablesFile : FileContent
  /-- What stands at a path. -/
  file : String → FileContent
  /-- The name of the machine's system and architecture. -/
  platform : String
  /-- What the wall clock shows. -/
  now : Instant

/-- What the operator works by: the settings of its monitors and the namespace whose runs it
watches, if it is not all of them. -/
structure Operation where
  settings : Settings
  scope : Option String
  deriving Inhabited

/-- How a session goes on or ends. -/
inductive Session where
  /-- The program shows how it is used and ends. -/
  | help
  /-- The program prints lines and ends with a code. -/
  | ended (code : Nat) (lines : List String)
  /-- The operator works. -/
  | operating (operation : Operation)
  deriving Inhabited

namespace Session

/-- The program's name. -/
def programName : String := "nauta-operator"

/-- The program's version. -/
def programVersion : String := "0.1.0"

/-- The file of the configuration where none is named. -/
def systemConfigPath : String := "/etc/nauta/operator.toml"

/-- The variable that names the file of credentials where the configuration names none. -/
def credentialsVariable : String := "KUBECONFIG"

/-- The variables of the environment that a session looks at. -/
def variableNames : List String :=
  [credentialsVariable, CommandLine.Reader.configVariable, "NAUTA_OPERATOR_KUBE_KUBECONFIG",
    "NAUTA_OPERATOR_KUBE_NAMESPACE", "NAUTA_OPERATOR_KUBE_REQUEST_TIMEOUT_SECS",
    "NAUTA_OPERATOR_MONITOR_POLL_INTERVAL_MS", "NAUTA_OPERATOR_MONITOR_RETRY_LIMIT",
    "NAUTA_OPERATOR_LOGGING_LEVEL", "NAUTA_OPERATOR_LOGGING_JSON"]

/-- The file of variables in the working directory. -/
def variablesPath : String := ".env"

/-- What the program tells about its use. -/
def helpLines : List String := [
  "Usage: " ++ programName ++ " [OPTIONS] [COMMAND]",
  "",
  "Commands:",
  "  run      Watch runs and monitor each one until it finishes",
  "  list     Print the runs that fit",
  "  version  Show version and platform",
  "",
  "Options:",
  "      --config <FILE>  Configuration file, instead of " ++ systemConfigPath,
  "  -h, --help           Show this help",
  "  -V, --version        Show the version"]

/-- The lines that tell the version and the platform. -/
def versionLines (platform : String) : List String :=
  [programName ++ " version: " ++ programVersion, "Platform:               " ++ platform]

/-- The end of a session in which something failed after the command line was read. -/
def failed : Session := .ended 1 []

/-- The session of a command line that asks for nothing that can be done, or only for text. -/
def ofArgumentError : ArgumentError → Session
  | .displayHelp => .help
  | .displayVersion => .ended 0 [programName ++ " " ++ programVersion]
  | _ => .ended 2 []

/-- The settings of monitors by the configuration. -/
def settingsOf (c : Config) : Settings where
  pollInterval := c.monitor.pollIntervalMs
  retryLimit := c.monitor.retryLimit
  requestTimeout := c.kube.requestTimeoutSecs * 1000

/-- What the operator works by, as the configuration has it. -/
def operationOf (c : Config) : Operation := ⟨settingsOf c, c.kube.ns⟩

/-- What listing shows of a run: the run, its template, and how long it has lasted. -/
def listEntry (now : Instant) (r : Run) : Json :=
  .object [("duration_secs", Json.ofOption (fun d => .ofInt d.wholeSeconds) (r.duration now)),
    ("run", r.toJson), ("template", Json.ofText? r.templateName)]

/-- The path of the configuration file. -/
def configPath (line : CommandLine) : String :=
  (line.config.map RawText.lossy).getD systemConfigPath

/-- The configuration of a command line. -/
def configOf (s : Surroundings) (line : CommandLine) : Except ConfigError Config :=
  let path := configPath line
  Config.load (Source.standard path (s.file path) (Dotenv.load s.environment s.variablesFile))

/-- The path of the file of credentials: the one that the configuration names, or else the one in
the environment. -/
def credentialsPath? (s : Surroundings) (c : Config) : Option String :=
  c.kube.kubeconfig.or (s.environment.text? credentialsVariable)

/-- Whether there are credentials. -/
def hasCredentials (s : Surroundings) (c : Config) : Bool :=
  ((credentialsPath? s c).map s.file).any Api.hasCredentials

/-- The files in which a session looks, as far as the surroundings tell. -/
def filesOf (s : Surroundings) (args : List RawText) : List String :=
  match CommandLine.parse s.environment args with
  | .error _ => []
  | .ok line =>
    configPath line :: match configOf s line with
      | .ok c => (credentialsPath? s c).toList
      | .error _ => []

/-- Lists runs. -/
def list (s : Surroundings) (c : Config) (r : ListRequest) : Api.Dialogue Session :=
  match r.filter with
  | .error _ => .done failed
  | .ok f => do
    let runs ← Api.authorized (hasCredentials s c) (Api.listRuns (r.scope c.kube.ns) f)
    match runs with
    | .ok runs => return .ended 0 (runs.map fun r => (listEntry s.now r).render)
    | .error _ => return failed

/-- Begins to operate, once the server has answered. -/
def operate (s : Surroundings) (c : Config) : Api.Dialogue Session := do
  let version ← Api.authorized (hasCredentials s c) Api.connect
  match version with
  | .ok _ => return .operating (operationOf c)
  | .error _ => return failed

/-- The session of a command line that was read. -/
def ofCommandLine (s : Surroundings) (line : CommandLine) : Api.Dialogue Session :=
  match line.command with
  | some .version => .done (.ended 0 (versionLines s.platform))
  | command =>
    match configOf s line, command with
    | .error _, _ => .done failed
    | .ok c, some (.list r) => list s c r
    | .ok c, _ => operate s c

/-- The session of some arguments. -/
def start (s : Surroundings) (args : List RawText) : Api.Dialogue Session :=
  match CommandLine.parse s.environment args with
  | .error e => .done (ofArgumentError e)
  | .ok line => ofCommandLine s line

/-- What a session prints. -/
def lines : Session → List String
  | help => helpLines
  | ended _ lines => lines
  | operating _ => []

/-- The code with which a session ends. An operator that has to stop working has failed. -/
def exitCode : Session → Nat
  | help => 0
  | ended code _ => code
  | operating _ => 1

end Session

end RunOperator
