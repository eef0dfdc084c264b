import WorkloadIdentity.Number.Literal
import WorkloadIdentity.Json.Parser
import WorkloadIdentity.Settings.Basic
import WorkloadIdentity.Settings.Layer
import WorkloadIdentity.Text.Blank
import WorkloadIdentity.Yaml.Reader

/-! Four layers make up the settings: the defaults, a file in YAML or JSON, the variables of the
environment that start with `ZTWIM__`, and on top the variables that the installer of the operator
sets, one for each image and one for the create-only mode. -/

namespace WorkloadIdentity.Settings

/-- Why settings could not be loaded. -/
inductive LoadFault where
  /-- The settings break a rule, or the file has another format. -/
  | rule (fault : Fault)
  /-- A file cannot be read, or a value is not of the kind that its setting needs. -/
  | unreadable
deriving DecidableEq, Repr

/-- A file of settings; without content it does not exist. -/
structure File where
  path : String
  content : Option String
deriving DecidableEq, Repr

inductive Format where
  | yaml
  | json
deriving DecidableEq, Repr

/-- What stands behind the last dot of a file's name, unless the name starts with that dot. -/
def extension? (path : String) : Option String :=
  let cs := path.toList.reverse.dropWhile (· = '/')
  let name := cs.takeWhile (· ≠ '/')
  let ending := name.takeWhile (· ≠ '.')
  match name.drop ending.length with
  | '.' :: _ :: _ => if name = ['.', '.'] then none else some (String.ofList ending.reverse)
  | _ => none

def format? (path : String) : Option Format :=
  match extension? path with
  | some "yaml" => some .yaml
  | some "yml" => some .yaml
  | some "json" => some .json
  | _ => none

mutual

/-- Integers of more than 63 bits become doubles. -/
def narrow : Json → Json
  | .int i => if i < 0x8000000000000000 then .int i else .double (Binary64.ofInt i)
  | .arr items => .arr (narrowItems items)
  | .obj members => .obj (narrowMembers members)
  | v => v

def narrowItems : List Json → List Json
  | [] => []
  | v :: rest => narrow v :: narrowItems rest

def narrowMembers : List (String × Json) → List (String × Json)
  | [] => []
  | (name, v) :: rest => (name, narrow v) :: narrowMembers rest

end

/-- The members of a file; a file that holds something else than a table counts as empty. -/
def members? (format : Format) (content : String) : Option (List (String × Json)) :=
  match format with
  | .json => (Json.parse? content).map (fun v => Layer.membersOf (narrow v))
  | .yaml =>
    match Yaml.documents? content with
    | some [] => some []
    | some [node] => node.toJson?.map Layer.membersOf
    | _ => none

def lowerAscii (s : String) : String := String.ofList (s.toList.map Char.toLower)

/-- A truth value, a number or a text. -/
def environmentValue (text : String) : Json :=
  let word := lowerAscii text
  if word = "true" then .bool true
  else if word = "false" then .bool false
  else
    match Yaml.intText? text.toList 10 with
    | some i => .int i
    | none =>
      match Binary64.ofText? text with
      | some d => .double d
      | none => .str text

/-- What the names of the variables start with, in any case. -/
def environmentStart : String := "ztwim__"

/-- Two underscores in a row become a dot. -/
def dotted : List Char → List Char
  | '_' :: '_' :: rest => '.' :: dotted rest
  | c :: rest => c :: dotted rest
  | [] => []

/-- The setting of a variable: two underscores lead into a table. -/
def environmentName? (name : String) : Option String :=
  let name := name.toList.map Char.toLower
  let start := environmentStart.toList
  if start.isPrefixOf name then some (String.ofList (dotted (name.drop start.length))) else none

/-- The members that the variables give, in the order of the list. The variables of a process have
no order of their own, so that they may come in another one with each load. It matters where two of
them lead to one place, such as two spellings of one name, or one leads into the place of another,
such as `images` and `images.spire_agent`; it does not matter for any other variables. -/
def environmentMembers (environment : List (String × String)) : List (String × Json) :=
  environment.filterMap fun (name, text) =>
    (environmentName? name).map (fun key => (key, environmentValue text))

/-- The variable that the installer names an image in. -/
def imageVariable : Image → String
  | .server => "RELATED_IMAGE_SPIRE_SERVER"
  | .agent => "RELATED_IMAGE_SPIRE_AGENT"
  | .driver => "RELATED_IMAGE_SPIFFE_CSI_DRIVER"
  | .discovery => "RELATED_IMAGE_SPIRE_OIDC_DISCOVERY_PROVIDER"
  | .controllerManager => "RELATED_IMAGE_SPIRE_CONTROLLER_MANAGER"
  | .registrar => "RELATED_IMAGE_NODE_DRIVER_REGISTRAR"
  | .driverInit => "RELATED_IMAGE_SPIFFE_CSI_INIT_CONTAINER"

def createOnlyVariable : String := "CREATE_ONLY_MODE"

/-- The image that the installer names, unless its variable is empty. -/
def imageOverride? (environment : List (String × String)) (image : Image) : Option String :=
  (List.lookup (imageVariable image) environment).filter (· ≠ "")

def createOnlyOverride? (environment : List (String × String)) : Option Bool :=
  (List.lookup createOnlyVariable environment).map
    (fun text => decide (lowerAscii (trimBlanks text) = "true"))

def overrides (environment : List (String × String)) : List (String × Json) :=
  Image.all.filterMap (fun i =>
    (imageOverride? environment i).map (fun text => ("images." ++ i.key, Json.str text))) ++
  ((createOnlyOverride? environment).map
    (fun b => ("create_only_mode", Json.bool b))).toList

/-- A text; numbers and truth values are written out. -/
def textOf? : Json → Option String
  | .str s => some s
  | .bool b => some (if b then "true" else "false")
  | .int i => some (toString i)
  | .double d => some d.text
  | _ => none

def yesWords : List String := ["true", "on", "yes"]

def noWords : List String := ["false", "off", "no"]

/-- A truth value; every number but zero is true. -/
def flagOf? : Json → Option Bool
  | .bool b => some b
  | .int i => some (decide (i ≠ 0))
  | .double d => some !(d.sameValue (Binary64.zero false))
  | .str s =>
    let word := lowerAscii s
    if word ∈ "1" :: yesWords then some true
    else if word ∈ "0" :: noWords then some false
    else none
  | _ => none

/-- The number that a text of digits stands for, with a plus sign or without. -/
def digitsOf? (s : String) : Option Nat :=
  let digits := if s.startsWith "+" then (s.drop 1).toString else s
  if !digits.isEmpty && digits.toList.all Char.isDigit then
    digits.toNat?.filter (· < 0x10000000000000000)
  else none

/-- A number of 64 bits; a double is rounded. -/
def countOf? : Json → Option Nat
  | .bool b => some b.toNat
  | .int i => if 0 ≤ i then some i.toNat else none
  | .double d => some d.toWord64
  | .str s =>
    let word := lowerAscii s
    if word ∈ yesWords then some 1 else if word ∈ noWords then some 0 else digitsOf? s
  | _ => none

/-- The images, by name or in their order. -/
def imagesOf? : Json → Option Images
  | .obj members => do
    let texts ← Image.all.mapM (fun i => (Json.lookup i.key members).bind textOf?)
    ofTexts? texts
  | .arr items => ((items.take Image.all.length).mapM textOf?).bind ofTexts?
  | _ => none
where
  ofTexts? : List String → Option Images
    | [server, agent, driver, discovery, controllerManager, registrar, driverInit] =>
      some { server, agent, driver, discovery, controllerManager, registrar, driverInit }
    | _ => none

/-- The settings that the layers give. -/
def ofLayers? (values : Json) : Option Settings := do
  let operandNamespace ← (values.get? "operand_namespace").bind textOf?
  let createOnly ← (values.get? "create_only_mode").bind flagOf?
  let intervalSeconds ← (values.get? "reconcile_interval_seconds").bind countOf?
  let images ← (values.get? "images").bind imagesOf?
  return { operandNamespace, createOnly, intervalSeconds, images }

def unsupportedFormat : Fault := .config "不支持的配置文件格式，仅支持 YAML 或 JSON"

/-- The members of the file of settings, if there is one. They have no order of their own either. -/
def fileMembers : Option File → Except LoadFault (List (String × Json))
  | none => .ok []
  | some file =>
    match format? file.path with
    | none => .error (.rule unsupportedFormat)
    | some format =>
      match file.content.bind (members? format) with
      | some members => .ok members
      | none => .error .unreadable

/-- All layers, the later ones over the earlier ones. -/
def layers (fileMembers : List (String × Json)) (environment : List (String × String)) : Json :=
  Layer.overlay (Layer.overlay (Layer.overlay (Settings.toJson {}) fileMembers)
    (environmentMembers environment)) (overrides environment)

/-- The settings that the members of a file and the environment make up, in the order given. -/
def assemble (fileMembers : List (String × Json)) (environment : List (String × String)) :
    Except LoadFault Settings :=
  match ofLayers? (layers fileMembers environment) with
  | none => .error .unreadable
  | some settings => settings.check.mapError .rule

/-- Loads the settings from an optional file and the environment. -/
def load (file : Option File) (environment : List (String × String)) :
    Except LoadFault Settings := do
  let members ← fileMembers file
  assemble members environment

end WorkloadIdentity.Settings
