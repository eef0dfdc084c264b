import WorkloadIdentity.Spec.Agent

namespace WorkloadIdentity

/-- The name that the driver has unless another one is chosen. -/
def defaultPluginName : String := "csi.spiffe.io"

structure DriverSpec where
  agentSocketPath : String := defaultSocketPath
  pluginName : String := defaultPluginName
  placement : Placement := {}
deriving DecidableEq, Repr, Inhabited

namespace DriverSpec

def read? (v : Json) : Option DriverSpec := do
  let ms ← v.members?
  let agentSocketPath ← ms.withDefault "agentSocketPath" defaultSocketPath Json.str?
  let pluginName ← ms.withDefault "pluginName" defaultPluginName Json.str?
  let placement ← Placement.ofMembers? ms
  return { agentSocketPath, pluginName, placement }

def toJson (s : DriverSpec) : Json :=
  .obj ([("agentSocketPath", .str s.agentSocketPath), ("pluginName", .str s.pluginName)] ++
    s.placement.toMembers)

def isNameChar (c : Char) : Bool := c.isLower || c.isDigit || c = '.' || c = '-'

/-- A plugin name has 1 to 63 lower-case letters, digits, dots and dashes. -/
def isPluginName (name : String) : Bool :=
  name ≠ "" && name.utf8ByteSize ≤ 63 && name.toList.all isNameChar

/-- The first rule that a specification breaks. -/
def flaw? (s : DriverSpec) : Option String :=
  if !s.agentSocketPath.startsWith "/" then
    some ("agentSocketPath: must be an absolute path, got " ++ quoted s.agentSocketPath)
  else if !isPluginName s.pluginName then
    some ("pluginName: invalid name " ++ quoted s.pluginName)
  else none

end DriverSpec

end WorkloadIdentity
