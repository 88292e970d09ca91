import Reckoner.Server.Endpoint
import Reckoner.Server.Input
import Reckoner.Server.View

/-!
The server: a registry of sessions behind endpoints. A body that is no JSON is refused first; then
the session is looked up, and all other problems of a request are reported together once it is
found, or with the problem of its identifier.
-/

namespace Reckoner

structure Server where
  configuration : Configuration
  context : Session.Context
  service : Fallback.Service
  registry : Registry

namespace Server

structure Request where
  method : String
  target : String
  body : String := ""
deriving DecidableEq, Repr

inductive Body where
  | empty
  | json (value : Json)
  | text (text : String)

structure Answer where
  status : Nat
  body : Body

namespace Answer

def ok (value : Json) : Answer := ⟨200, .json value⟩

def detail (status : Nat) (message : String) : Answer :=
  ⟨status, .json (.object [("detail", .string message)])⟩

def notFound : Answer := detail 404 "Not Found"
def methodNotAllowed : Answer := detail 405 "Method Not Allowed"
def sessionNotFound : Answer := detail 404 "Session not found"
def entryNotFound : Answer := detail 404 "History entry not found"

def unprocessable (problems : List Problem) : Answer :=
  ⟨422, .json (.object [("detail", .array (problems.map Problem.toJson))])⟩

def internalError : Answer := ⟨500, .text "Internal Server Error"⟩

end Answer

/-- What becomes of a request: an answer, and the server after it. It is a function of the server,
so that the steps of a request can follow one another. -/
abbrev Handler := Server → Answer × Server

/-- Handle a request to a session: look the session up, and check the rest of the request. A session
that is not found is told alone, and every other problem together with the rest. -/
def onSession {α : Type} (identifier : String) (input : Checked α)
    (handle : Nat → Session → α → Handler) : Handler := fun server =>
  match readIdentifier? identifier with
  | none =>
    let others := match input with
      | .ok _ => []
      | .error problems => problems
    (.unprocessable (⟨.identifier, .noIdentifier⟩ :: others), server)
  | some identifier =>
    let found := (sessionNumber? identifier).bind fun number =>
      (server.registry.get? number).map fun session => (number, session)
    match found, input with
    | none, _ => (.sessionNotFound, server)
    | some _, .error problems => (.unprocessable problems, server)
    | some (number, session), .ok value => handle number session value server

def showDisplay (number : Nat) : Handler := fun server =>
  match server.registry.sessions[number]? with
  | some session => (.ok (displayOf session), server)
  | none => (.sessionNotFound, server)

/-- Perform an operation on a session and show its display. Where the result of an evaluation cannot
be written, the answer says that the server has failed. -/
def perform (operation : Session.Operation) (number : Nat) : Handler := fun server =>
  let (registry, response, service) :=
    server.registry.complete server.context number operation server.service
  let server := { server with registry, service }
  match response with
  | some (.started (.crashed _)) => (.internalError, server)
  | _ => showDisplay number server

def createSession : Handler := fun server =>
  let session := Session.create server.configuration true none
  match server.registry.add session with
  | (registry, .ok number) =>
    (⟨201, .json (sessionView number session)⟩, { server with registry })
  | (_, .error e) => (.detail 503 e.message, server)

def removeSession (number : Nat) : Handler := fun server =>
  let (registry, _) := server.registry.remove server.context number
  (⟨204, .empty⟩, { server with registry })

/-- Load an entry of a history. Only the entries from the newest on have an index here, although a
session also takes negative ones. -/
def selectHistory (number : Nat) (session : Session) (index : Int) : Handler :=
  if 0 ≤ index ∧ index < session.history.entries.length then perform (.selectHistory index) number
  else fun server => (.entryNotFound, server)

/-- Deliver a transcript to a session and let its capture take it. What is shown afterwards includes
what it dictates. -/
def submitTranscript (number : Nat) (transcript : String × Bool) : Handler := fun server =>
  let item := Recognition.heard transcript.1 transcript.2
  let (_, server) := perform (.submit item) number server
  perform .settle number server

/-- The handler of an endpoint, given what the body of a request holds. Most of them are about one
session, which is looked up before anything is done. -/
def handler (body : Option Json) : Endpoint → Handler
  | .health => fun server => (.ok healthView, server)
  | .configuration => fun server => (.ok (configurationView server.configuration), server)
  | .createSession => createSession
  | .showSession id => onSession id (.ok ()) fun number session _ server =>
    (.ok (sessionView number session), server)
  | .removeSession id => onSession id (.ok ()) fun number _ _ => removeSession number
  | .pressKey id => onSession id (keyOf body) fun number _ key => perform (.press key) number
  | .evaluate id => onSession id (.ok ()) fun number _ _ => perform .evaluate number
  | .history id => onSession id (.ok ()) fun _ session _ server =>
    (.ok (historyView session), server)
  | .selectHistory id index => onSession id (indexOf index) selectHistory
  | .startCapture id => onSession id (.ok ()) fun number _ _ => perform .startCapture number
  | .stopCapture id => onSession id (.ok ()) fun number _ _ => perform .stopCapture number
  | .submitTranscript id => onSession id (transcriptOf body) fun number _ transcript =>
    submitTranscript number transcript

def Endpoint.readsBody : Endpoint → Bool
  | .pressKey _ | .submitTranscript _ => true
  | _ => false

/-- Handle a request. The captures of all sessions have run before it, as whatever was waiting gets
its turn between two requests. -/
def handle (request : Request) (server : Server) : Answer × Server :=
  let server := { server with registry := server.registry.settle }
  match Endpoint.find request.method request.target with
  | .error .notFound => (.notFound, server)
  | .error .methodNotAllowed => (.methodNotAllowed, server)
  | .ok endpoint =>
    match if endpoint.readsBody then readBody request.body else .ok none with
    | .error problems => (.unprocessable problems, server)
    | .ok body => handler body endpoint server

end Server

end Reckoner
