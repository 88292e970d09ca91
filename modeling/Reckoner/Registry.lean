import Reckoner.Session.Completion

/-!
A registry of sessions. Every session that was ever created keeps its number, by which it is known;
the registered ones are those not yet removed, and there are never more of them than the cap allows.
Sessions share nothing: an operation on one lets at most the captures of the others run.
-/

namespace Reckoner

structure Registry where
  cap : Int
  /-- All sessions that were created, in the order of their numbers. -/
  sessions : List Session := []
  registered : List Nat := []
deriving DecidableEq, Repr

namespace Registry

inductive LimitError where
  | full
deriving DecidableEq, Repr

def LimitError.message : LimitError → String
  | full => "Maximum session limit reached"

/-- The cap that is in force: the given one, or that of the settings if it is absent or zero. A
negative one is in force as well, and then no session can be added. -/
def effectiveCap (given : Option Int) (settings : Settings) : Int :=
  (given.filter (· ≠ 0)).getD settings.maxSessions

def create (given : Option Int) (settings : Settings) : Registry :=
  { cap := effectiveCap given settings }

def size (registry : Registry) : Nat := registry.registered.length

def add (session : Session) (registry : Registry) : Registry × Except LimitError Nat :=
  if registry.cap ≤ registry.size then (registry, .error .full)
  else
    let number := registry.sessions.length
    ({ registry with
        sessions := registry.sessions ++ [session]
        registered := registry.registered ++ [number] }, .ok number)

def get? (number : Nat) (registry : Registry) : Option Session :=
  if number ∈ registry.registered then registry.sessions[number]? else none

/-- Let the captures of all sessions run until they wait or end. Sessions that are no longer
registered have captures too, which end in the same way. -/
def settle (registry : Registry) : Registry :=
  { registry with sessions := registry.sessions.map Session.settle }

/-- Perform an operation on a session, registered or not. While the operation waits for something
the captures of all sessions run. -/
def perform (context : Session.Context) (number : Nat) (operation : Session.Operation)
    (registry : Registry) : Registry × Option Session.Response :=
  match registry.sessions[number]? with
  | none => (registry, none)
  | some session =>
    let (after, response) := session.perform context operation
    let registry := { registry with sessions := registry.sessions.set number after }
    (if session.suspends context operation then registry.settle else registry, some response)

/-- Carry an operation on a session to its end with a service at hand. If a text is to be asked, the
answer is performed as an operation of its own, after the captures have had a turn. -/
def complete (context : Session.Context) (number : Nat) (operation : Session.Operation)
    (service : Fallback.Service) (registry : Registry) :
    Registry × Option Session.Response × Fallback.Service :=
  let (registry, response) := registry.perform context number operation
  match response.bind Session.Response.question? with
  | none => (registry, response, service)
  | some text =>
    let (answer, service) := service.ask context.timeAllowed text
    let (registry, response) := registry.perform context number (.answer answer)
    (registry, response, service)

/-- Remove a session and stop its capture; the answer is whether it was registered. The session is
kept under its number, so that what refers to it goes on. -/
def remove (context : Session.Context) (number : Nat) (registry : Registry) : Registry × Bool :=
  if number ∈ registry.registered then
    let registry := { registry with registered := registry.registered.erase number }
    ((registry.perform context number .stopCapture).1, true)
  else (registry, false)

def cleanup (context : Session.Context) (registry : Registry) : Registry :=
  registry.registered.foldl (fun registry number => (registry.remove context number).1) registry

end Registry

end Reckoner
