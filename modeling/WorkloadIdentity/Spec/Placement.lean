import WorkloadIdentity.Object.Pod

namespace WorkloadIdentity

/-- What every operand lets its user choose. -/
structure Placement where
  labels : Labels := ∅
  resources : Option Resources := none
  affinity : Option Json := none
  tolerations : List Json := []
  nodeSelector : Labels := ∅
deriving DecidableEq, Repr, Inhabited

namespace Placement

/-- Reads the members among those of the whole specification. -/
def ofMembers? (ms : Members) : Option Placement := do
  let labels ← ms.withDefault "labels" ∅ (Json.map? Json.str?)
  let resources ← ms.optional "resources" Resources.read?
  let affinity ← ms.optional "affinity" Catalog.affinity.read
  let tolerations ← ms.withDefault "tolerations" [] (Json.list? Catalog.toleration.read)
  let nodeSelector ← ms.withDefault "nodeSelector" ∅ (Json.map? Json.str?)
  return { labels, resources, affinity, tolerations, nodeSelector }

def mapUnlessEmpty (name : String) (m : Labels) : Members :=
  if m.isEmpty then [] else [(name, Json.ofStrings m)]

/-- The members; empty maps and lists are left out. -/
def toMembers (p : Placement) : Members :=
  mapUnlessEmpty "labels" p.labels ++
    Json.optional "resources" (p.resources.map Resources.toJson) ++
    Json.optional "affinity" p.affinity ++
    (if p.tolerations.isEmpty then [] else [("tolerations", .arr p.tolerations)]) ++
    mapUnlessEmpty "nodeSelector" p.nodeSelector

end Placement

end WorkloadIdentity
