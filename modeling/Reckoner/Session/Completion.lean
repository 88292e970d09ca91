import Reckoner.Session.Operation

/-!
Operations carried to their end with a service at hand. An evaluation that has to ask waits for the
answer, and the capture runs meanwhile; every other operation ends by itself.
-/

namespace Reckoner.Session

/-- The text that a service is still to be asked after an operation. Only an evaluation that waits
has one. -/
def Response.question? : Response → Option String
  | .started (.waiting text) => some text
  | _ => none

/-- The outcome of the evaluation that an operation brought to its end, be it the operation that
began it or the one that brought the answer. -/
def Response.outcome? : Response → Option Outcome
  | .started (.finished reached) => some reached
  | .outcome reached => reached
  | _ => none

/-- Is any time allowed for an answer in a context? Where the stage is closed no answer is waited
for, so there is none. -/
def Context.timeAllowed (context : Context) : Bool :=
  match context.stage with
  | .open timeAllowed => timeAllowed
  | .closed _ => false

def complete (context : Context) (operation : Operation) (service : Fallback.Service)
    (session : Session) : Session × Response × Fallback.Service :=
  let (session, response) := session.perform context operation
  match response.question? with
  | none => (session, response, service)
  | some text =>
    let session := session.settle
    let (answer, service) := service.ask context.timeAllowed text
    let (session, response) := session.perform context (.answer answer)
    (session, response, service)

end Reckoner.Session
