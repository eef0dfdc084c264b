import WorkloadIdentity.Number.Binary64
import WorkloadIdentity.StringMap

namespace WorkloadIdentity

/-- Counters by two labels. -/
abbrev Counts := StringMap (StringMap Nat)

namespace Counts

def count (c : Counts) (first second : String) : Nat :=
  ((c.get? first).bind (·.get? second)).getD 0

def increment (c : Counts) (first second : String) : Counts :=
  c.insert first (((c.get? first).getD ∅).insert second (c.count first second + 1))

end Counts

/-- How many of the observed durations are at most each bound, and their sum. -/
structure Histogram where
  /-- The counts for the bounds, each including those of the smaller bounds. -/
  atMost : List Nat
  sum : Binary64 := Binary64.zero false
  total : Nat := 0
deriving DecidableEq, Repr

namespace Histogram

/-- The bounds in thousandths of a second. -/
def bounds : List Nat := [10, 50, 100, 250, 500, 1000, 2500, 5000, 10000]

def boundValue (bound : Nat) : Binary64 := .ofRatio false bound 1000

def empty : Histogram := { atMost := bounds.map (fun _ => 0) }

instance : Inhabited Histogram := ⟨empty⟩

/-- A duration in nanoseconds, as seconds. -/
def seconds (nanoseconds : Nat) : Binary64 :=
  (Binary64.ofInt (nanoseconds / 1000000000 : Nat)).add
    (.ofRatio false (nanoseconds % 1000000000) 1000000000)

def observe (h : Histogram) (value : Binary64) : Histogram where
  atMost := List.zipWith (fun n bound => if value.le (boundValue bound) then n + 1 else n)
    h.atMost bounds
  sum := h.sum.add value
  total := h.total + 1

end Histogram

/-- What is counted while resources are looked after. -/
structure Metrics where
  /-- Passes by controller and result. -/
  reconciliations : Counts := ∅
  /-- How long passes took, by controller. -/
  durations : StringMap Histogram := ∅
  /-- Objects by kind and outcome. -/
  applied : Counts := ∅
  /-- Operands and whether they were ready at the end of the last pass. -/
  ready : StringMap Bool := ∅
deriving Inhabited

namespace Metrics

def resultText (success : Bool) : String := if success then "success" else "error"

def observeReconcile (m : Metrics) (controller : String) (success : Bool) (nanoseconds : Nat) :
    Metrics :=
  { m with
    reconciliations := m.reconciliations.increment controller (resultText success)
    durations := m.durations.insert controller
      (((m.durations.get? controller).getD .empty).observe (Histogram.seconds nanoseconds)) }

def observeApply (m : Metrics) (kind outcome : String) : Metrics :=
  { m with applied := m.applied.increment kind outcome }

def setReady (m : Metrics) (operand : String) (ready : Bool) : Metrics :=
  { m with ready := m.ready.insert operand ready }

end Metrics

end WorkloadIdentity
