import Reckoner.Fallback.Connection
import Reckoner.Keypad
import Reckoner.Session.History
import Reckoner.Session.Voice
import Reckoner.Transcript

/-!
A calculator session: the text being composed, the displayed result, the modes, the history and the
voice channel. While an evaluation is under way the session keeps the text that is being evaluated.
Editing and dictation ask for that and leave the buffer alone then; a selection from the history
does not, and writes the buffer and the result at any time.
-/

namespace Reckoner

structure Session where
  buffer : String := ""
  result : String := "0"
  /-- Did the fallback service give the displayed result? -/
  isFallbackResult : Bool := false
  /-- The text that is being evaluated, while an evaluation is under way. -/
  evaluating : Option String := none
  angleMode : AngleMode := .radians
  modifier : Modifier := .primary
  notification : Option String := none
  history : History
  voice : Voice
deriving DecidableEq, Repr

namespace Session

def initialResult : String := "0"

def create (configuration : Configuration) (hasMicrophone : Bool) (limit : Option Int) : Session :=
  { result := initialResult
    history := { limit := limit.getD configuration.settings.historyLimit }
    voice := { hasMicrophone, continuous := configuration.voice.continuous } }

def isEvaluating (session : Session) : Bool := session.evaluating.isSome

/-- Change a session that is not evaluating; the answer is whether it was changed. All keys that
compose go through it, so none of them changes a text while that is evaluated. -/
def edit (change : Session → Session) (session : Session) : Session × Bool :=
  if session.isEvaluating then (session, false) else (change session, true)

def append (text : String) : Session → Session × Bool :=
  edit fun session => { session with buffer := session.buffer ++ text }

def withoutLast (text : String) : String := String.ofList text.toList.dropLast

def deleteLast : Session → Session × Bool :=
  edit fun session => { session with buffer := withoutLast session.buffer }

def clear : Session → Session × Bool :=
  edit fun session =>
    { session with buffer := "", result := initialResult, isFallbackResult := false }

def continuationOperators : List String := ["+", "-", "×", "÷", "%", "^"]

/-- Does a literal replace the buffer? It does while the buffer shows a result, unless the result is
the initial one or the literal is an operator. -/
def startsOver (literal : String) (session : Session) : Bool :=
  session.result ≠ initialResult && session.buffer = session.result &&
    !continuationOperators.contains literal

def typeLiteral (literal : String) : Session → Session × Bool :=
  edit fun session =>
    { session with
      buffer := if session.startsOver literal then literal else session.buffer ++ literal }

def toggleAngleMode (session : Session) : Session :=
  { session with angleMode := session.angleMode.toggle }

def toggleModifier (session : Session) : Session :=
  { session with modifier := session.modifier.toggle }

inductive Started where
  /-- There was nothing to evaluate, or an evaluation was under way. -/
  | ignored
  | finished (outcome : Outcome)
  /-- The result could not be written; the session is idle again. -/
  | crashed (cause : FormatError)
  /-- The fallback service is to be asked this text. -/
  | waiting (text : String)
deriving DecidableEq

def commit (input : String) (outcome : Outcome) (session : Session) : Session :=
  match outcome with
  | .success text viaFallback =>
    { session with
      buffer := text
      result := text
      isFallbackResult := viaFallback
      evaluating := none
      history := session.history.add ⟨input, text⟩ }
  | failure =>
    { session with
      buffer := ""
      result := failure.shown
      isFallbackResult := false
      evaluating := none }

/-- Begin to evaluate the buffer, with the decimal places of results and the second stage that are
in force. The session is evaluating afterwards only if a service has to be asked. -/
def beginEvaluation (places : Int) (stage : Fallback.Stage) (session : Session) :
    Session × Started :=
  if session.isEvaluating || session.buffer.isEmpty then (session, .ignored)
  else
    let input := session.buffer
    match evaluatePrimary session.angleMode places input with
    | .error cause => ({ session with result := "" }, .crashed cause)
    | .ok (.rejected _) =>
      match stage with
      | .closed cause =>
        let outcome := (Fallback.Answer.failed cause.message).outcome
        (session.commit input outcome, .finished outcome)
      | .open _ => ({ session with result := "", evaluating := some input }, .waiting input)
    | .ok outcome => (session.commit input outcome, .finished outcome)

/-- End the evaluation that is under way with the answer of the service. What is committed is the
text that the evaluation began with, and not the buffer. -/
def finishEvaluation (answer : Fallback.Answer) (session : Session) : Session × Option Outcome :=
  match session.evaluating with
  | none => (session, none)
  | some input => (session.commit input answer.outcome, some answer.outcome)

/-- Give up the evaluation that is under way. Nothing is entered for it: the text stays as it was
composed, and the result, which was emptied when the evaluation began, stays empty. -/
def giveUp (session : Session) : Session := { session with evaluating := none }

/-- Load an entry of the history into buffer and display. Nothing is evaluated for that, and nothing
is added to the history. -/
def selectHistory (index : Int) (session : Session) : Session × Option Entry :=
  match session.history.get? index with
  | none => (session, none)
  | some entry =>
    ({ session with buffer := entry.result, result := entry.result, isFallbackResult := false },
      some entry)

/-- Append the characters that a transcript dictates; the answer is what was appended. During an
evaluation nothing is, and the transcript is lost. -/
def dictate (transcript : String) (session : Session) : Session × String :=
  if session.isEvaluating then (session, "")
  else
    let canonical := Transcript.canonicalize transcript
    ({ session with buffer := session.buffer ++ canonical }, canonical)

def takeEvent (session : Session) : VoiceEvent → Session
  | .transcript text => (session.dictate text).1
  | .error error => { session with notification := some error.message }

def settle (session : Session) : Session :=
  let (events, voice) := session.voice.settle
  events.foldl takeEvent { session with voice }

def startCapture (settings : VoiceSettings) (session : Session) : Session × Bool :=
  match session.voice.start settings with
  | .ok voice => ({ session with notification := none, voice }, true)
  | .error error => ({ session with notification := some error.message }, false)

/-- Stop the capture. What was queued before is still taken, as the microphone is closed first and
the capture then has its turn. -/
def stopCapture (session : Session) : Session :=
  settle { session with voice := session.voice.closeMicrophone }

def toggleCapture (settings : VoiceSettings) (session : Session) : Session :=
  if session.voice.isListening then session.stopCapture else (session.startCapture settings).1

def submit (item : Recognition) (session : Session) : Session × Bool :=
  let (voice, accepted) := session.voice.submit item
  ({ session with voice }, accepted)

end Session

end Reckoner
