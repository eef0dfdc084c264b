import WorkloadIdentity.Object.Catalog

namespace WorkloadIdentity.Schema

def ofType (type : String) : Json := .obj [("type", .str type)]

def text : Json := ofType "string"

def flag : Json := ofType "boolean"

def int32 : Json := .obj [("format", .str "int32"), ("type", .str "integer")]

def int64 : Json := .obj [("format", .str "int64"), ("type", .str "integer")]

/-- One of several texts. -/
def choice (texts : List String) : Json :=
  .obj [("enum", Json.strings texts), ("type", .str "string")]

def list (item : Json) : Json := .obj [("items", item), ("type", .str "array")]

def map (value : Json) : Json := .obj [("additionalProperties", value), ("type", .str "object")]

/-- A member of a record. -/
structure Property where
  name : String
  description : Option String := none
  schema : Json
  isRequired : Bool := false
  /-- Whether `null` stands for a missing member. -/
  isNullable : Bool := false
  /-- The value of a missing member. -/
  default : Option Json := none

namespace Property

def toJson (p : Property) : Json :=
  let schema := match p.description with
    | some d => p.schema.insert "description" (.str d)
    | none => p.schema
  let schema := if p.isNullable then schema.insert "nullable" (.bool true) else schema
  match p.default with
  | some v => schema.insert "default" v
  | none => schema

/-- A member that has to be given. -/
def must (name description : String) (schema : Json) : Property :=
  { name, description := some description, schema, isRequired := true }

/-- A member that has a value of its own when it is missing. -/
def withDefault (name description : String) (schema default : Json) : Property :=
  { name, description := some description, schema, default := some default }

/-- A member that is left out when it is empty. -/
def unlessEmpty (name description : String) (schema : Json) : Property :=
  { name, description := some description, schema }

def optional (name description : String) (schema : Json) : Property :=
  { name, description := some description, schema, isNullable := true }

end Property

/-- A name in its place among sorted names. -/
def sortName (name : String) : List String → List String
  | [] => [name]
  | n :: rest => if name < n then name :: n :: rest else n :: sortName name rest

/-- A record; the names of the members that have to be given are sorted. -/
def record (description : Option String) (properties : List Property) : Json :=
  let required := ((properties.filter (·.isRequired)).map (·.name)).foldr sortName []
  .obj (Json.optional "description" (description.map Json.str) ++
    [("properties", .obj (properties.map (fun p => (p.name, p.toJson))))] ++
    (if required.isEmpty then [] else [("required", Json.strings required)]) ++
    [("type", .str "object")])

mutual

/-- The schema of the values of a shape. -/
def ofShape : Shape → Json
  | .any => .obj []
  | .text => text
  | .flag => flag
  | .int32 => int32
  | .int64 => int64
  | .intOrText => .obj [("x-kubernetes-int-or-string", .bool true)]
  | .time => .obj [("format", .str "date-time"), ("type", .str "string")]
  | .base64 => .obj [("format", .str "byte"), ("type", .str "string")]
  | .constant _ => text
  | .list item => list (ofShape item)
  | .map value => map (ofShape value)
  | .record members => record none (propertiesOf members)

def propertiesOf : List (String × Bool × Shape) → List Property
  | [] => []
  | (name, always, shape) :: rest =>
    { name, schema := ofShape shape, isRequired := always } :: propertiesOf rest

end

end WorkloadIdentity.Schema
