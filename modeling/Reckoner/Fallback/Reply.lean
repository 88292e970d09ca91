import Reckoner.Json.Reader
import Reckoner.Text.Blank
import Reckoner.Text.Quoted

/-!
Replies of an interpretation service. A reply is an object whose member `result` is a text that is
not blank; it comes decoded, or inside a longer text from its first opening brace to its last
closing one.
-/

namespace Reckoner.Fallback

inductive ReplyError where
  | noObject (text : List Char)
  /-- What should be an object with a text as its result is not. -/
  | malformed
  | empty
deriving DecidableEq, Repr

/-- How many characters of a text without an object are shown. -/
def shownLength : Nat := 80

def ReplyError.message : ReplyError → String
  | noObject text => String.ofList
      ("No JSON object in reply: ".toList ++ Text.quoted (text.take shownLength))
  | malformed => "Malformed fallback reply"
  | empty => "Empty fallback result"

def resultKey : String := "result"

def resultOf (reply : Json) : Except ReplyError String :=
  match reply.member? resultKey with
  | some (.string s) =>
    let result := Text.trim s.toList
    if result.isEmpty then .error .empty else .ok (String.ofList result)
  | _ => .error .malformed

/-- The part of a text from its first opening brace to its last closing one. Whatever stands around
an object is cut off by it, prose included. -/
def bracedPart? (text : List Char) : Option (List Char) :=
  let fromOpening := text.dropWhile (· ≠ '{')
  let upToClosing := (fromOpening.reverse.dropWhile (· ≠ '}')).reverse
  if upToClosing.isEmpty then none else some upToClosing

/-- How many arrays and objects may stand inside one another in a reply. A reply that is nested more
deeply is refused and not read. -/
def depthLimit : Nat := 200

def resultOfText (s : String) : Except ReplyError String :=
  let text := Text.trim s.toList
  match bracedPart? text with
  | none => .error (.noObject text)
  | some part =>
    match Json.ofChars .refused part with
    | .ok reply => if depthLimit < reply.depth then .error .malformed else resultOf reply
    | .error _ => .error .malformed

/-- Why a string that is no text is not accepted. Such a string cannot be read as JSON, so all that
matters is whether an object would be looked for in it. -/
def refusalOfUnpaired (s : String) : ReplyError :=
  let text := Text.trim s.toList
  if (bracedPart? text).isSome then .malformed else .noObject text

/-- The result of a payload: a text is searched for a reply, and anything else is taken for one as
it is, whether or not it is an object. -/
def resultOfPayload : Json → Except ReplyError String
  | .string s => resultOfText s
  | .unpaired s => .error (refusalOfUnpaired s)
  | reply => resultOf reply

end Reckoner.Fallback
