import WorkloadIdentity.Api.Client
import WorkloadIdentity.Metrics.Basic
import WorkloadIdentity.Plan.Kind
import WorkloadIdentity.Reconcile.Recorder
import WorkloadIdentity.Settings.Basic

namespace WorkloadIdentity

/-- What holds during a pass. -/
structure Scene where
  settings : Settings
  /-- The time, as conditions give it. -/
  now : String
deriving DecidableEq, Repr

/-- What a pass has noted so far. -/
structure Journal where
  recorder : Recorder
  metrics : Metrics

/-- A part of a pass that notes nothing. -/
abbrev Attempt := ExceptT Fault Exchange

/-- A pass, or a part of one. -/
abbrev Pass := ExceptT Fault (StateT Journal Exchange)

variable {α : Type}

def Call.attempt (call : Call α) : Attempt α :=
  .mk (call.run >>= fun result => pure (result.mapError Fault.api))

def Attempt.pass (attempt : Attempt α) : Pass α :=
  .mk fun journal => attempt.run >>= fun result => pure (result, journal)

/-- Brings an object to its wanted state. -/
def apply [Managed α] (c : Collection) (desired : α) (createOnly : Bool) : Attempt Outcome := do
  match (Managed.metadata desired).name with
  | none => throw (.missingMetadata (Managed.kindName desired) "name")
  | some name =>
    let read : Json → Option α := Managed.read?
    let existing ← Call.attempt (Api.find? c name read)
    match plan existing desired createOnly with
    | .create object =>
      let _ ← Call.attempt (Api.create c (Managed.toJson object) read)
      return .created
    | .replace object =>
      let _ ← Call.attempt (Api.replace c name (Managed.toJson object) read)
      return .updated
    | .unchanged => return .unchanged
    | .skipped => return .skipped

namespace Journal

/-- Notes that an object has been applied. -/
def applied (j : Journal) (now condition : String) (w : Wanted) (outcome : Outcome) : Journal where
  recorder := j.recorder.set now condition .isTrue outcome.reason
    (w.kindName ++ " " ++ w.metadata.name.getD "" ++ " " ++ outcome.text)
  metrics := j.metrics.observeApply w.kindName outcome.text

/-- Notes that an object could not be applied. -/
def failed (j : Journal) (now condition : String) (w : Wanted) (fault : Fault) : Journal :=
  { j with
    recorder := j.recorder.set now condition .isFalse fault.reason
      (w.kindName ++ " " ++ w.metadata.name.getD "" ++ ": " ++ fault.message) }

/-- Notes what became of an object. -/
def note (j : Journal) (now condition : String) (w : Wanted) : Except Fault Outcome → Journal
  | .ok outcome => j.applied now condition w outcome
  | .error fault => j.failed now condition w fault

end Journal

/-- Applies an object and notes the outcome under a condition. -/
def Wanted.apply (w : Wanted) (scene : Scene) (condition : String) : Pass Unit :=
  .mk fun journal => do
    let result ← (WorkloadIdentity.apply w.collection w.object scene.settings.createOnly).run
    return (result.map (fun _ => ()), journal.note scene.now condition w result)

/-- One step of a pass: a wanted object, if there is one to apply, and the condition that tells what
became of it. -/
structure Step where
  condition : String
  wanted : Except Fault (Option Wanted)

namespace Step

/-- A step with an object that can always be made. -/
def of (condition : String) (w : Wanted) : Step := ⟨condition, .ok (some w)⟩

def run (scene : Scene) (step : Step) : Pass Unit :=
  match step.wanted with
  | .error fault => throw fault
  | .ok none => pure ()
  | .ok (some w) => w.apply scene step.condition

/-- Runs steps until one fails. -/
def runAll (scene : Scene) : List Step → Pass Unit
  | [] => pure ()
  | step :: rest => do
    step.run scene
    runAll scene rest

end Step

end WorkloadIdentity
