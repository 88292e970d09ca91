import Reckoner.Outcome

/-!
Answers of the fallback service. A service is known by the answers that it will give, call by call;
an evaluation needs one of them at most.
-/

namespace Reckoner.Fallback

inductive Answer where
  | reply (result : String)
  | failed (detail : String)
  | timedOut
deriving DecidableEq, Repr

def errorMarker : String := "Error"

def Answer.outcome : Answer → Outcome
  | reply result => if result = errorMarker then .declined else .success result true
  | failed detail => .unavailable detail
  | timedOut => .unavailable "timeout"

/-- A service: its answer to each call, by the number of the call and the text asked, and the texts
that it was asked so far. -/
structure Service where
  answer : Nat → String → Answer
  asked : List String := []

/-- Ask the service. Where no time is allowed the call ends before it is made, and the service does
not come to know of it. -/
def Service.ask (service : Service) (timeAllowed : Bool) (text : String) : Answer × Service :=
  if timeAllowed then
    (service.answer service.asked.length text, { service with asked := service.asked ++ [text] })
  else (.timedOut, service)

end Reckoner.Fallback
