import WorkloadIdentity.Condition

namespace WorkloadIdentity

/-- Collects the conditions that a pass writes, on top of those of the stored status, and remembers
whether any of them says something new. -/
structure Recorder where
  conditions : List Condition
  /-- The generation of the resource, which every written condition mentions. -/
  generation : Option Int
  changed : Bool := false
deriving DecidableEq, Repr, Inhabited

namespace Recorder

def start (conditions : List Condition) (generation : Option Int) : Recorder :=
  { conditions, generation }

/-- Writes a condition at the time `now`. -/
def set (r : Recorder) (now type : String) (status : ConditionStatus) (reason message : String) :
    Recorder :=
  let c := Condition.new now type status reason message r.generation
  { r with
    conditions := Condition.upsert c r.conditions
    changed := r.changed || Condition.changes c r.conditions }

end Recorder

end WorkloadIdentity
