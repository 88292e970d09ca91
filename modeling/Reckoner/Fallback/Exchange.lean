import Reckoner.Fallback.Connection

/-!
Exchanges with a service: the request that a connection sends for an input, and the result that it
takes from a response. Every response has a result or a cause why it has none, and whatever a
request comes to is an answer.
-/

namespace Reckoner.Fallback

def systemPrompt : String :=
  "You are a calculator. The user sends an arithmetic expression that may be informally worded, " ++
  "dictated, or slightly malformed (for example a missing closing parenthesis or number words). " ++
  "Work out what calculation was meant and compute it.\n\n" ++
  "Respond with a single JSON object and nothing else:\n" ++
  "\x7b\"result\": \"<value>\"\x7d\n\n" ++
  "<value> is the numeric answer as a plain decimal string (no units, no thousands separators), " ++
  "rounded to at most 10 decimal places. If the input cannot be interpreted as a calculation, " ++
  "respond with \x7b\"result\": \"Error\"\x7d."

/-- A request: where it is sent, unless the service has one place only, and what it says. The text
to be evaluated is within the body. -/
structure Request where
  address : Option String
  body : Json

def chatMessage (role content : String) : Json :=
  .object [("role", .string role), ("content", .string content)]

def completionsAddress (base : String) : String :=
  if base.endsWith "/" then base ++ "chat/completions" else base ++ "/chat/completions"

def Connection.request (settings : Settings) (input : String) : Connection → Request
  | .http address => ⟨some address, .object [("input", .string input)]⟩
  | .openai _ model => ⟨none, .object ([
      ("model", .string model),
      ("messages", .array [chatMessage "system" systemPrompt, chatMessage "user" input])] ++
      limits ++
      [("response_format", .object [("type", .string "json_object")])])⟩
  | .anthropic _ model => ⟨none, .object ([
      ("model", .string model),
      ("system", .string systemPrompt),
      ("messages", .array [chatMessage "user" input])] ++ limits)⟩
  | .localModel base model => ⟨some (completionsAddress base), .object ([
      ("model", .string model),
      ("messages", .array [chatMessage "system" systemPrompt, chatMessage "user" input])] ++
      limits)⟩
where
  limits : List (String × Json) :=
    [("temperature", .number settings.fallbackTemperature),
      ("max_tokens", .integer settings.fallbackMaxTokens)]

/-- What reading the body of a response as JSON comes to. A body that is no JSON is told from one
that cannot be read, for not every provider treats them alike. -/
inductive Body where
  | data (decoded : Json)
  /-- The body is a text, and no JSON. -/
  | malformed (message : String)
  /-- The body cannot be read at all: it is no text in any encoding, or nested too deeply. -/
  | unreadable (message : String)

def Body.ofText (text : String) : Body :=
  let chars := Json.withoutMark text.toList
  match Json.ofChars .kept chars with
  | .ok decoded => .data decoded
  | .error e => .malformed (e.message chars)

/-- A response: a status with a body, the contents of a completion's choices, or the kinds and texts
of a completion's blocks. -/
inductive Response where
  | page (status : Nat) (body : Body)
  | completion (contents : List Json)
  | blocks (blocks : List (String × String))

namespace Response

def http (status : Nat) (text : String) : Response := .page status (.ofText text)

/-- A completion the choices of which have a text or nothing as their content, which is all that a
client of the service makes of a well-formed one. -/
def choices (contents : List (Option String)) : Response :=
  .completion (contents.map fun content => (content.map Json.string).getD .null)

end Response

/-- A content as a payload: one that says nothing counts as an empty text, so that it fails as a
reply and not as a response. -/
def contentPayload (content : Json) : Json := if content.isVacant then .string "" else content

/-- The content of a chat completion: that of the message of the first choice. What is missing on
the way to the message is a wrong shape; a message that has no members is not told as one. -/
def completionContent (data : Json) : Except Error Json :=
  match data.member? "choices" with
  | some (.array (first :: _)) =>
    match first.member? "message" with
    | some (.object members) => .ok (contentPayload ((members.lookup "content").getD .null))
    | some message => .error (.noMembers message.kind)
    | none => .error .unexpectedShape
  | _ => .error .unexpectedShape

/-- The payload in a body. A model served nearby wraps it in a completion, and it treats a body that
is no JSON as one that cannot be read. -/
def Connection.payload (connection : Connection) (body : Body) : Except Error Json :=
  match connection, body with
  | _, .unreadable message => .error (.unreadable message)
  | .localModel .., .malformed message => .error (.unreadable message)
  | .localModel .., .data decoded => completionContent decoded
  | _, .malformed _ => .error .invalidJson
  | _, .data decoded => .ok decoded

def isSuccessful (status : Nat) : Bool := 200 ≤ status && status < 300

/-- The payload in a response; a status other than success has none, whatever the body says. A
completion gives its first choice, and blocks give their texts joined. -/
def Connection.received (connection : Connection) : Response → Except Error Json
  | .page status body =>
    if isSuccessful status then connection.payload body else .error (.status status)
  | .completion [] => .error .noChoice
  | .completion (content :: _) => .ok (contentPayload content)
  | .blocks blocks => .ok (.string (String.join ((blocks.filter (·.1 = "text")).map Prod.snd)))

def Connection.result (connection : Connection) (response : Response) : Except Error String := do
  let payload ← connection.received response
  (resultOfPayload payload).mapError .reply

/-- The answer that a result or the lack of one is. Whatever went wrong is told by its message alone
from here on. -/
def Answer.ofResult : Except Error String → Answer
  | .ok result => .reply result
  | .error cause => .failed cause.message

/-- What a request comes to: a response, whatever it says, a failure on the way, or nothing in the
time allowed. -/
inductive Delivery where
  | response (response : Response)
  /-- The transport fails. -/
  | failure (detail : String)
  /-- There is no answer in the time allowed. -/
  | silence

def Connection.answer (connection : Connection) : Delivery → Answer
  | .response response => .ofResult (connection.result response)
  | .failure detail => .failed detail
  | .silence => .timedOut

/-- The service behind a connection, given what its requests come to, call by call. The number of
the call is given to the transport, so that equal requests may come to different ends. -/
def Connection.service (connection : Connection) (settings : Settings)
    (transport : Nat → Request → Delivery) : Service where
  answer call text := connection.answer (transport call (connection.request settings text))

end Reckoner.Fallback
