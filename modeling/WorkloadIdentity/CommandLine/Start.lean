import WorkloadIdentity.CommandLine.Arguments
import WorkloadIdentity.CommandLine.LogFilter
import WorkloadIdentity.Json.Printer
import WorkloadIdentity.Settings.Load

namespace WorkloadIdentity

/-- The name of the program. -/
def programName : String := "ztwim-operator"

def programVersion : String := "0.1.0"

def StartOptions.defaultMetricsAddress : String := "0.0.0.0:8080"

def StartOptions.defaultLogLevel : String := "info"

structure StartOptions where
  /-- The path of the file of settings. -/
  config : Option String := none
  metricsAddress : String := StartOptions.defaultMetricsAddress
  logLevel : String := StartOptions.defaultLogLevel
  logJson : Bool := false
deriving DecidableEq, Repr

/-- What the arguments ask for. -/
inductive Command where
  | complain (e : UsageError)
  | showHelp
  | showVersion
  | showDefinitions
  | start (options : StartOptions)
deriving DecidableEq, Repr

namespace Command

def ofStop : Stop → Command
  | .mistake e => complain e
  | .help => showHelp
  | .version => showVersion

def startOptions (a : Arguments) : StartOptions where
  config := a.get? .config
  metricsAddress := (a.get? .metricsAddress).getD StartOptions.defaultMetricsAddress
  logLevel := (a.get? .logLevel).getD StartOptions.defaultLogLevel
  logJson := a.get? .logJson = some "true"

def ofArguments (arguments : List String) (env : List (String × String)) : Command :=
  match (Arguments.read arguments).bind (Arguments.addEnvironment env) with
  | .error stop => ofStop stop
  | .ok a =>
    if (a.get? .printDefinitions).isSome then showDefinitions else start (startOptions a)

/-- The exit code of the program when it does not start up. -/
def exitCode : Command → Nat
  | complain _ => 2
  | start _ => 1
  | _ => 0

end Command

/-- An entry of the log. -/
structure LogEntry where
  level : String
  message : String
  fields : List (String × Json)
deriving DecidableEq, Repr

namespace LogEntry

/-- The target of what the program itself logs. -/
def target : String := "ztwim_operator"

def allFields (e : LogEntry) : Json := .obj (("message", .str e.message) :: e.fields)

/-- The entry as one line of JSON. -/
def toJson (e : LogEntry) : Json :=
  .obj [("level", .str e.level), ("fields", e.allFields), ("target", .str target)]

def fieldText (field : String × Json) : String :=
  field.1 ++ "=" ++ match field.2 with
    | .str s => s
    | v => v.compact

/-- The entry as a line for people to read. -/
def toText (e : LogEntry) : String :=
  e.level ++ " " ++ target ++ ": " ++ " ".intercalate (e.message :: e.fields.map fieldText)

end LogEntry

/-- A start-up up to where it connects to the cluster. -/
structure StartUp where
  /-- Directives of the log filter that were left out. -/
  ignored : List String
  log : List LogEntry
  /-- The settings, unless they could not be loaded. -/
  settings : Except Settings.LoadFault Settings

namespace StartUp

/-- The filter of the log: one that the environment gives comes first, if it is a good one. -/
def logFilter (options : StartOptions) (env : List (String × String)) : LogFilter × List String :=
  match (env.lookup "RUST_LOG").bind LogFilter.read? with
  | some filter => (filter, [])
  | none => LogFilter.readLeniently options.logLevel

/-- What is logged when the settings are loaded. -/
def startEntry (s : Settings) : LogEntry where
  level := "INFO"
  message := "启动 ZTWIM Operator"
  fields := [("version", .str programVersion), ("namespace", .str s.operandNamespace),
    ("create_only", .bool s.createOnly)]

/-- Begins a start-up. -/
def begin (options : StartOptions) (env : List (String × String)) (file : Option Settings.File) :
    StartUp :=
  let (filter, ignored) := logFilter options env
  let settings := Settings.load file env
  { ignored, settings
    log := match settings with
      | .ok s => if filter.allows LogEntry.target .info then [startEntry s] else []
      | .error _ => [] }

/-- What is said of a directive that is left out. -/
def ignoredText (directive : String) : String :=
  "ignoring `" ++ directive ++ "`: invalid filter directive"

/-- Why the start-up ends; without settings it ends before it connects. -/
def failureText (s : StartUp) : String :=
  match s.settings with
  | .error _ => "Error: 加载配置失败"
  | .ok _ => "Error: 创建 Kubernetes 客户端失败"

/-- The lines of a start-up that cannot connect. -/
def errorLines (s : StartUp) : List String := s.ignored.map ignoredText ++ [s.failureText]

end StartUp

end WorkloadIdentity
