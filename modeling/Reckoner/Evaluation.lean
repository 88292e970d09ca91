import Reckoner.Fallback.Connection

/-!
Evaluation in two stages: what the grammar rejects goes to the fallback service as it was typed. The
service is asked at most once, and never for an input that has a value.
-/

namespace Reckoner

/-- The answer of the second stage to a text. A closed stage answers by itself that it failed, and
the service is not asked. -/
def Fallback.Stage.ask (stage : Stage) (text : String) (service : Service) : Answer × Service :=
  match stage with
  | closed cause => (.failed cause.message, service)
  | .open timeAllowed => service.ask timeAllowed text

/-- Evaluate an input in both stages, with a service at hand. The second stage is asked once and
only when the first one rejects the input, and its answer is final. -/
def evaluateInput (mode : AngleMode) (places : Int) (stage : Fallback.Stage) (input : String)
    (service : Fallback.Service) : Except FormatError (Outcome × Fallback.Service) :=
  match evaluatePrimary mode places input with
  | .error cause => .error cause
  | .ok (.rejected _) =>
    let (answer, service) := stage.ask input service
    .ok (answer.outcome, service)
  | .ok outcome => .ok (outcome, service)

end Reckoner
