import WorkloadIdentity.CommandLine.Socket

namespace WorkloadIdentity

inductive Parameter where
  | config
  | metricsAddress
  | logLevel
  | logJson
  | printDefinitions
  | help
  | version
deriving DecidableEq, Repr

namespace Parameter

def all : List Parameter :=
  [config, metricsAddress, logLevel, logJson, printDefinitions, help, version]

def long : Parameter → String
  | config => "config"
  | metricsAddress => "metrics-addr"
  | logLevel => "log-level"
  | logJson => "log-json"
  | printDefinitions => "print-crds"
  | help => "help"
  | version => "version"

def short? : Parameter → Option Char
  | config => some 'c'
  | help => some 'h'
  | version => some 'V'
  | _ => none

/-- The name of the value, for a parameter that takes one. -/
def valueName? : Parameter → Option String
  | config => some "CONFIG"
  | metricsAddress => some "METRICS_ADDR"
  | logLevel => some "LOG_LEVEL"
  | _ => none

/-- The variable of the environment that gives the value. -/
def envName? : Parameter → Option String
  | config => some "ZTWIM_CONFIG"
  | metricsAddress => some "METRICS_ADDR"
  | logLevel => some "LOG_LEVEL"
  | logJson => some "LOG_JSON"
  | _ => none

def takesValue (p : Parameter) : Bool := p.valueName?.isSome

/-- The parameter as messages write it. -/
def text (p : Parameter) : String :=
  "--" ++ p.long ++ match p.valueName? with
    | some name => " <" ++ name ++ ">"
    | none => ""

def ofLong? (name : String) : Option Parameter := all.find? (fun p => p.long = name)

def ofShort? (c : Char) : Option Parameter := all.find? (fun p => p.short? = some c)

end Parameter

/-- A mistake in the arguments. -/
inductive UsageError where
  | unexpectedArgument (argument : String)
  | missingValue (p : Parameter)
  | invalidValue (p : Parameter) (value : String) (why : Option String)
  | repeated (p : Parameter)
  | unneededValue (p : Parameter) (value : String)
deriving DecidableEq, Repr

namespace UsageError

def message : UsageError → String
  | unexpectedArgument argument => "unexpected argument '" ++ argument ++ "' found"
  | missingValue p => "a value is required for '" ++ p.text ++ "' but none was supplied"
  | invalidValue p value why =>
    "invalid value '" ++ value ++ "' for '" ++ p.text ++ "'" ++
      match why with
      | some why => ": " ++ why
      | none => ""
  | repeated p => "the argument '" ++ p.text ++ "' cannot be used multiple times"
  | unneededValue p value =>
    "unexpected value '" ++ value ++ "' for '" ++ p.text ++ "' found; no more were expected"

end UsageError

/-- What ends the reading of arguments. -/
inductive Stop where
  | mistake (e : UsageError)
  | help
  | version
deriving DecidableEq, Repr

/-- The arguments read so far. -/
structure Arguments where
  given : List (Parameter × String) := []
  /-- A parameter whose value is still to come, or has not been looked at yet. -/
  pending : Option (Parameter × Option String) := none
deriving DecidableEq, Repr

namespace Arguments

def get? (a : Arguments) (p : Parameter) : Option String := a.given.lookup p

/-- The mistake in a value. -/
def flaw? (p : Parameter) (value : String) : Option UsageError :=
  match p with
  | .config => if value = "" then some (.missingValue p) else none
  | .metricsAddress =>
    if Socket.isAddress value then none
    else some (.invalidValue p value (some "invalid socket address syntax"))
  | .logJson =>
    if value = "true" || value = "false" then none
    else if value = "" then some (.missingValue p)
    else some (.invalidValue p value none)
  | _ => none

/-- Takes in the value of a parameter. -/
def accept (a : Arguments) (p : Parameter) (value : String) : Except Stop Arguments :=
  if (a.get? p).isSome then .error (.mistake (.repeated p))
  else match flaw? p value with
    | some e => .error (.mistake e)
    | none => .ok { a with given := a.given ++ [(p, value)] }

/-- Takes in the value that is still to be looked at. -/
def settle (a : Arguments) : Except Stop Arguments :=
  match a.pending with
  | none => .ok a
  | some (p, none) => .error (.mistake (.missingValue p))
  | some (p, some value) => accept { a with pending := none } p value

/-- A parameter without a value. -/
def raise (a : Arguments) (p : Parameter) : Except Stop Arguments := do
  let a ← a.settle
  match p with
  | .help => throw .help
  | .version => throw .version
  | p => a.accept p "true"

/-- A parameter that takes a value, which may be attached. -/
def take (a : Arguments) (p : Parameter) (attached : Option String) : Except Stop Arguments := do
  let a ← a.settle
  match attached with
  | some value => a.accept p value
  | none => return { a with pending := some (p, none) }

/-- The name and the attached value of a long argument. -/
def splitLong (body : List Char) : String × Option String :=
  let name := body.takeWhile (· ≠ '=')
  match body.drop name.length with
  | _ :: value => (String.ofList name, some (String.ofList value))
  | [] => (String.ofList name, none)

/-- An argument that starts with two dashes. -/
def readLong (a : Arguments) (body : List Char) : Except Stop Arguments :=
  let (name, attached) := splitLong body
  match Parameter.ofLong? name with
  | none => .error (.mistake (.unexpectedArgument ("--" ++ name)))
  | some p =>
    if p.takesValue then a.take p attached
    else match attached with
      | some value => .error (.mistake (.unneededValue p value))
      | none => a.raise p

/-- The value attached to a short parameter. -/
def attachedShort : List Char → Option String
  | [] => none
  | '=' :: value => some (String.ofList value)
  | value => some (String.ofList value)

/-- The letters of an argument that starts with one dash. -/
def readShort (a : Arguments) : List Char → Except Stop Arguments
  | [] => .ok a
  | c :: rest =>
    match Parameter.ofShort? c with
    | none => .error (.mistake (.unexpectedArgument ("-" ++ c.toString)))
    | some p =>
      if p.takesValue then a.take p (attachedShort rest)
      else do
        let a ← a.raise p
        readShort a rest

/-- An argument that is no parameter: a value, if one is missing. -/
def readPlain (a : Arguments) (text : String) : Except Stop Arguments :=
  match a.pending with
  | some (p, none) => .ok { a with pending := some (p, some text) }
  | _ => .error (.mistake (.unexpectedArgument text))

/-- Reads arguments; behind two dashes alone, none is a parameter or a value. -/
def readFrom (a : Arguments) : Bool → List String → Except Stop Arguments
  | _, [] => a.settle
  | true, text :: _ => .error (.mistake (.unexpectedArgument text))
  | false, text :: rest =>
    match text.toList with
    | ['-', '-'] => readFrom a true rest
    | '-' :: '-' :: body => do
      let a ← a.readLong body
      readFrom a false rest
    | '-' :: c :: body => do
      let a ← a.readShort (c :: body)
      readFrom a false rest
    | _ => do
      let a ← a.readPlain text
      readFrom a false rest

def read (arguments : List String) : Except Stop Arguments := readFrom {} false arguments

/-- Fills in what the environment gives and no argument did. -/
def addEnvironment (env : List (String × String)) (a : Arguments) : Except Stop Arguments :=
  Parameter.all.foldlM (fun a p =>
    match a.get? p, p.envName?.bind (fun name => env.lookup name) with
    | none, some value => a.accept p value
    | _, _ => .ok a) a

end Arguments

end WorkloadIdentity
