import Reckoner.Settings.Conversion
import Reckoner.Json.Reader

/-!
What a request carries beside its endpoint, and what may be wrong with it. A problem tells its place
and its cause; the problems of all members of a body are reported together.
-/

namespace Reckoner.Server

inductive Place where
  | identifier
  | index
  | body
  | character (position : Nat)
  | member (name : String)
deriving DecidableEq, Repr

def Place.path : Place → List Json
  | identifier => [.string "path", .string "session_id"]
  | index => [.string "path", .string "index"]
  | body => [.string "body"]
  | character position => [.string "body", .integer position]
  | member name => [.string "body", .string name]

inductive Cause where
  | noIdentifier
  | invalidJson
  | notObject
  | refused (refusal : Settings.Refusal)
deriving DecidableEq, Repr

def Cause.name : Cause → String
  | noIdentifier => "uuid_parsing"
  | invalidJson => "json_invalid"
  | notObject => "model_attributes_type"
  | refused refusal => refusal.name

structure Problem where
  place : Place
  cause : Cause
deriving DecidableEq, Repr

def Problem.toJson (problem : Problem) : Json :=
  .object [("loc", .array problem.place.path), ("type", .string problem.cause.name)]

abbrev Checked (α : Type) := Except (List Problem) α

def Checked.both {α β : Type} : Checked α → Checked β → Checked (α × β)
  | .ok a, .ok b => .ok (a, b)
  | .error problems, .ok _ => .error problems
  | .ok _, .error problems => .error problems
  | .error first, .error second => .error (first ++ second)

def checkAt {α : Type} (place : Place) (result : Except Settings.Refusal α) : Checked α :=
  result.mapError fun refusal => [⟨place, .refused refusal⟩]

/-- The JSON of a body; an empty body has none. Half a character in a string is no fault at this
stage, for nothing may come to look at the string. -/
def readBody (body : String) : Checked (Option Json) :=
  if body.isEmpty then .ok none
  else
    let chars := Json.withoutMark body.toList
    match Json.ofChars .kept chars with
    | .ok json => .ok (some json)
    | .error e => .error [⟨.character (e.position chars), .invalidJson⟩]

/-- The members of the object that a body must be. No body and one that says nothing are missing,
and anything else that is no object is of the wrong kind. -/
def objectOf : Option Json → Checked (List (String × Json))
  | none | some .null => .error [⟨.body, .refused .missing⟩]
  | some (.object members) => .ok members
  | some _ => .error [⟨.body, .notObject⟩]

def required {α : Type} (name : String) (convert : Json → Except Settings.Refusal α)
    (members : List (String × Json)) : Checked α :=
  checkAt (.member name) (match members.lookup name with
    | some json => convert json
    | none => .error .missing)

def optional {α : Type} (name : String) (convert : Json → Except Settings.Refusal α) (default : α)
    (members : List (String × Json)) : Checked α :=
  checkAt (.member name) (match members.lookup name with
    | some json => convert json
    | none => .ok default)

def keyLimit : Nat := 8

/-- A key: a text of some characters, but not many. Whether there is such a key is not asked
here. -/
def toKey (json : Json) : Except Settings.Refusal String := do
  let key ← Settings.toText json
  if key.length < 1 then throw .stringTooShort
  if keyLimit < key.length then throw .stringTooLong
  return key

def keyOf (body : Option Json) : Checked String := do required "key" toKey (← objectOf body)

/-- The transcript of a body, and whether it is final; it is unless the body says otherwise.
Problems of both members are told together. -/
def transcriptOf (body : Option Json) : Checked (String × Bool) := do
  let members ← objectOf body
  (required "transcript" Settings.toText members).both
    (optional "is_final" Settings.toBool true members)

def indexOf (text : String) : Checked Int := checkAt .index (Settings.toInt (.string text))

end Reckoner.Server
