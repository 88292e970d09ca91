import Reckoner.Expression.Symbols
import Reckoner.Expression.Value
import Reckoner.Rounding

/-!
Outcomes of evaluations, and the first stage that produces them: an expression that the grammar
accepts has a text as its result, and any other is rejected with the cause.
-/

namespace Reckoner

inductive Outcome where
  | success (text : String) (viaFallback : Bool)
  /-- The grammar does not accept the expression, or it has no value. -/
  | rejected (cause : Expression.Error)
  /-- The fallback service answered that it cannot interpret the input. -/
  | declined
  | unavailable (detail : String)
deriving DecidableEq

namespace Outcome

def isSuccess : Outcome → Bool
  | success .. => true
  | _ => false

/-- The marker that the display shows for a declined input. -/
def declinedMarker : String := "Error"

/-- The marker that the display shows for every other failure. -/
def unavailableMarker : String := "API Error"

/-- What the display shows: the result, or the marker of the failure. Markers are texts like
results, and nothing but their wording tells them apart. -/
def shown : Outcome → String
  | success text _ => text
  | declined => declinedMarker
  | rejected _ | unavailable _ => unavailableMarker

def detail? : Outcome → Option String
  | success .. => none
  | rejected cause => some cause.message
  | declined => some "service returned error marker"
  | unavailable detail => some detail

end Outcome

/-- The first stage: evaluate the input by the grammar and round the value to decimal places.
Rounding a value can fail where evaluating it did not. -/
def evaluatePrimary (mode : AngleMode) (places : Int) (input : String) :
    Except FormatError Outcome :=
  match Expression.evaluate (.standard mode) (Expression.replaceSymbols input) with
  | .ok value => (formatResult value places).map (.success · false)
  | .error cause => .ok (.rejected cause)

end Reckoner
