import WorkloadIdentity.Fault
import WorkloadIdentity.StringMap

/-! The delay before the next try doubles with the number of failures since the last success, from
half a minute up to ten minutes; faults that only an edit can mend are looked at again after a fixed
time. -/

namespace WorkloadIdentity

/-- The failures of each resource since it last succeeded. -/
abbrev FailureCounts := StringMap Nat

namespace FailureCounts

def count (c : FailureCounts) (key : String) : Nat := (c.get? key).getD 0

def increment (c : FailureCounts) (key : String) : FailureCounts := c.insert key (c.count key + 1)

def reset (c : FailureCounts) (key : String) : FailureCounts := c.erase key

end FailureCounts

namespace Retry

/-- The key under which the failures of a resource are counted. -/
def key (kind name : String) : String := kind ++ "/" ++ name

def firstDelay : Nat := 30

def longestDelay : Nat := 600

/-- The delay in seconds after a number of failures. -/
def delay (failures : Nat) : Nat := min (firstDelay * Nat.pow 2 (min (failures - 1) 5)) longestDelay

/-- A number, unless it is too large for a word of so many bits. -/
def word? (bits n : Nat) : Option Nat := if n < Nat.pow 2 bits then some n else none

/-- The delay after a number of failures, computed in words; there is none if a number on the way is
too large for its word. -/
def wordDelay? (failures : UInt32) : Option Nat := do
  let factor ← word? 32 (Nat.pow 2 (min (failures.toNat - 1) 5))
  let seconds ← word? 64 (firstDelay * factor)
  return min seconds longestDelay

/-- Counts a failure and answers the delay before the next try. -/
def afterFailure (counts : FailureCounts) (key : String) (fault : Fault) : FailureCounts × Nat :=
  let counts := counts.increment key
  (counts, fault.fixedDelay?.getD (delay (counts.count key)))

end Retry

end WorkloadIdentity
