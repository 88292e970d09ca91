import Reckoner.Fallback.Answer
import Reckoner.Fallback.Reply
import Reckoner.Settings.Basic

/-!
Connections to the services that can interpret an input. A connection has all that its requests
need; it is made from what the caller gives, and from the settings for the rest.
-/

namespace Reckoner.Fallback

inductive Error where
  | disabled
  | unknownProvider (name : String)
  | keyMissing (service : String)
  | status (code : Nat)
  | invalidJson
  | unreadable (message : String)
  /-- The body of a chat completion lacks the place where the content stands. -/
  | unexpectedShape
  | noMembers (kind : String)
  | noChoice
  | reply (cause : ReplyError)
deriving DecidableEq, Repr

def statusKind (code : Nat) : String :=
  match code / 100 with
  | 1 => "Informational response"
  | 3 => "Redirect response"
  | 4 => "Client error"
  | 5 => "Server error"
  | _ => "Invalid status code"

def Error.message : Error → String
  | disabled => "Fallback interpreter is disabled"
  | unknownProvider name => "Unknown fallback provider: " ++ name
  | keyMissing service => service ++ " API key is not configured"
  | status code => statusKind code ++ " " ++ toString code
  | invalidJson => "Fallback service returned invalid JSON"
  | unreadable message => message
  | unexpectedShape => "Unexpected chat completion shape"
  | noMembers kind => "'" ++ kind ++ "' object has no attribute 'get'"
  | noChoice => "list index out of range"
  | reply cause => cause.message

inductive Connection where
  | http (address : String)
  | openai (key model : String)
  | anthropic (key model : String)
  | localModel (base model : String)
deriving DecidableEq, Repr

namespace Connection

def provider : Connection → Provider
  | http _ => .http
  | openai .. => .openai
  | anthropic .. => .anthropic
  | localModel .. => .localModel

/-- What a caller gives of its own for a connection. It comes before the settings, and what is empty
counts as not given. -/
structure Own where
  address : Option String := none
  key : Option String := none
  model : Option String := none

def given (s : Option String) : Option String := s.filter (!·.isEmpty)

/-- The key of a service: the caller's own, or that of the settings. Without any there is no
connection, and the error names the service. -/
def requireKey (service : String) (own setting : Option String) : Except Error String :=
  match (given own).or (given setting) with
  | some key => .ok key
  | none => .error (.keyMissing service)

/-- Connect to a provider; the choice of none has no connection, which is no error. Nothing is sent
yet, so all that can be missing is a key. -/
def make (provider : Provider) (own : Own) (settings : Settings) :
    Except Error (Option Connection) :=
  match provider with
  | .disabled => .ok none
  | .http => .ok (some (.http ((given own.address).getD settings.fallbackUrl)))
  | .localModel => .ok (some (.localModel ((given own.address).getD settings.localUrl)
      ((given own.model).getD settings.localModel)))
  | .openai => do
    let key ← requireKey "OpenAI" own.key settings.openaiKey
    return some (.openai key ((given own.model).getD settings.openaiModel))
  | .anthropic => do
    let key ← requireKey "Anthropic" own.key settings.anthropicKey
    return some (.anthropic key ((given own.model).getD settings.anthropicModel))

/-- Connect to the provider of a name, or to that of the settings if no name is given. Only a name
can fail to name a provider. -/
def ofName (name : Option String) (settings : Settings) : Except Error (Option Connection) :=
  match given name with
  | none => make settings.fallbackProvider {} settings
  | some name =>
    match Provider.ofName? name with
    | some provider => make provider {} settings
    | none => .error (.unknownProvider name)

end Connection

inductive Stage where
  /-- It fails at once, because there is no service to ask. -/
  | closed (cause : Error)
  /-- A service is asked, if any time is allowed for its answer. -/
  | open (timeAllowed : Bool)
deriving DecidableEq, Repr

def allowsTime (timeout : Binary64) : Bool := !(timeout ≤ (0 : Binary64))

/-- The stage behind a connection that was or was not made. It is closed for the same cause for
which there is no connection, and that is what it answers. -/
def Stage.ofConnection (timeout : Binary64) : Except Error (Option Connection) → Stage
  | .ok (some _) => .open (allowsTime timeout)
  | .ok none => .closed .disabled
  | .error cause => .closed cause

/-- The stage that the settings describe, for a provider of the given name if there is one. The
caller gives nothing else of its own. -/
def Stage.ofSettings (name : Option String) (settings : Settings) : Stage :=
  .ofConnection settings.fallbackTimeout (Connection.ofName name settings)

end Reckoner.Fallback
