import WorkloadIdentity.CommandLine.Start
import WorkloadIdentity.Definition.Catalog
import WorkloadIdentity.Yaml.Printer

namespace WorkloadIdentity

namespace Parameter

def summary : Parameter → String
  | config => "配置文件路径（YAML 或 JSON）"
  | metricsAddress => "指标与探针服务地址"
  | logLevel => "日志过滤规则，`RUST_LOG` 优先"
  | logJson => "输出 JSON 格式日志"
  | printDefinitions => "输出 CRD 清单后退出"
  | help => "Print help"
  | version => "Print version"

/-- The default value, for a parameter whose help tells it. -/
def default? : Parameter → Option String
  | metricsAddress => some StartOptions.defaultMetricsAddress
  | logLevel => some StartOptions.defaultLogLevel
  | _ => none

/-- The parameter as the help lists it. -/
def listing (p : Parameter) : String :=
  "  " ++ (match p.short? with
    | some c => "-" ++ c.toString ++ ", "
    | none => "    ") ++ p.text

/-- What the help tells behind the parameter. -/
def explanation (env : List (String × String)) (p : Parameter) : String :=
  p.summary ++
    (match p.envName? with
      | some name => " [env: " ++ name ++ "=" ++ (env.lookup name).getD "" ++ "]"
      | none => "") ++
    match p.default? with
    | some value => " [default: " ++ value ++ "]"
    | none => ""

def padded (width : Nat) (text : String) : String :=
  text ++ String.ofList (List.replicate (width - text.length) ' ')

def helpLine (env : List (String × String)) (p : Parameter) : String :=
  let width := (all.map (fun q => q.listing.length)).foldl max 0
  padded (width + 2) p.listing ++ p.explanation env

end Parameter

def usageText : String := "Usage: " ++ programName ++ " [OPTIONS]"

/-- The help, with the values of the variables of the environment. -/
def helpLines (env : List (String × String)) : List String :=
  ["管理 SPIFFE/SPIRE 工作负载身份栈的 Kubernetes Operator", "", usageText, "", "Options:"] ++
    Parameter.all.map (Parameter.helpLine env)

/-- The lines that follow the message of a mistake. -/
def UsageError.hints : UsageError → List String
  | .unexpectedArgument _ | .repeated _ | .unneededValue _ _ => ["", usageText]
  | .invalidValue .logJson _ _ => ["  [possible values: true, false]"]
  | _ => []

def UsageError.lines (e : UsageError) : List String :=
  ["error: " ++ e.message] ++ e.hints ++ ["", "For more information, try '--help'."]

structure Printout where
  /-- The lines of the standard output. -/
  output : List String := []
  /-- The lines of the standard error. -/
  errors : List String := []
  code : Nat
deriving DecidableEq, Repr

/-- The definitions as a stream of documents. -/
def definitionLines : List String :=
  Definition.all.flatMap fun d => "---" :: ((Yaml.text d.toJson).splitOn "\n").dropLast

def StartUp.logLines (options : StartOptions) (s : StartUp) : List String :=
  s.log.map fun e => if options.logJson then e.toJson.compact else e.toText

namespace Command

/-- The file that a command reads. -/
def file? : Command → Option String
  | start options => options.config
  | _ => none

/-- What a command prints, when no cluster can be reached. -/
def printout (env : List (String × String)) (file : Option Settings.File) (c : Command) :
    Printout :=
  match c with
  | complain e => { errors := e.lines, code := c.exitCode }
  | showHelp => { output := helpLines env, code := c.exitCode }
  | showVersion => { output := [programName ++ " " ++ programVersion], code := c.exitCode }
  | showDefinitions => { output := definitionLines, code := c.exitCode }
  | start options =>
    let s := StartUp.begin options env file
    { output := s.logLines options, errors := s.errorLines, code := c.exitCode }

end Command

end WorkloadIdentity
