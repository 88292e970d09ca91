import Reckoner.Session.Basic

/-!
The operations of a session as data, so that runs of a session are lists of operations. `perform`
gives the session after an operation and what the operation answers; `suspends` tells during which
operations captures get to run.
-/

namespace Reckoner.Session

structure Context where
  places : Int
  /-- What becomes of an input that the grammar rejects. -/
  stage : Fallback.Stage
  voice : VoiceSettings

def Context.of (configuration : Configuration) (stage : Fallback.Stage) : Context :=
  ⟨configuration.settings.resultDecimals, stage, configuration.voice⟩

inductive Operation where
  | press (key : String)
  | append (text : String)
  | typeLiteral (literal : String)
  | deleteLast
  | clear
  | toggleAngleMode
  | toggleModifier
  | evaluate
  | answer (answer : Fallback.Answer)
  | selectHistory (index : Int)
  | dictate (transcript : String)
  | startCapture
  | stopCapture
  | toggleCapture
  | submit (item : Recognition)
  | settle
  | setContinuous (continuous : Bool)
deriving DecidableEq

inductive Response where
  | done
  | accepted (accepted : Bool)
  | angleMode (mode : AngleMode)
  | modifier (modifier : Modifier)
  | started (started : Started)
  /-- The outcome of the evaluation that was under way, if one was. -/
  | outcome (outcome : Option Outcome)
  | entry (entry : Option Entry)
  | appended (text : String)
deriving DecidableEq

/-- Press a key. Keys are ignored during an evaluation; the tables of the keypad come first, then
the keys that command, and any other key is typed. -/
def press (context : Context) (key : String) (session : Session) : Session × Response :=
  if session.isEvaluating then (session, .accepted false)
  else
    match Keypad.insertion? key session.modifier with
    | some text => let (session, accepted) := session.append text; (session, .accepted accepted)
    | none =>
      match key with
      | "AC" => let (session, accepted) := session.clear; (session, .accepted accepted)
      | "=" =>
        let (session, started) := session.beginEvaluation context.places context.stage
        (session, .started started)
      | "DEL" => let (session, accepted) := session.deleteLast; (session, .accepted accepted)
      | "Deg" => (session.toggleAngleMode, .accepted true)
      | "2nd" => (session.toggleModifier, .accepted true)
      | "MIC" => (session.toggleCapture context.voice, .accepted true)
      | literal =>
        let (session, accepted) := session.typeLiteral literal
        (session, .accepted accepted)

def perform (context : Context) (operation : Operation) (session : Session) : Session × Response :=
  match operation with
  | .press key => session.press context key
  | .append text => (session.append text).map id .accepted
  | .typeLiteral literal => (session.typeLiteral literal).map id .accepted
  | .deleteLast => session.deleteLast.map id .accepted
  | .clear => session.clear.map id .accepted
  | .toggleAngleMode =>
    let session := session.toggleAngleMode
    (session, .angleMode session.angleMode)
  | .toggleModifier =>
    let session := session.toggleModifier
    (session, .modifier session.modifier)
  | .evaluate => (session.beginEvaluation context.places context.stage).map id .started
  | .answer answer => (session.finishEvaluation answer).map id .outcome
  | .selectHistory index => (session.selectHistory index).map id .entry
  | .dictate transcript => (session.dictate transcript).map id .appended
  | .startCapture => (session.startCapture context.voice).map id .accepted
  | .stopCapture => (session.stopCapture, .done)
  | .toggleCapture => (session.toggleCapture context.voice, .done)
  | .submit item => (session.submit item).map id .accepted
  | .settle => (session.settle, .done)
  | .setContinuous continuous =>
    ({ session with voice := { session.voice with continuous } }, .done)

/-- Does the operation wait for something, so that the captures of other sessions get to run?
Operations that do not are carried out without anything in between. -/
def suspends (context : Context) (operation : Operation) (session : Session) : Bool :=
  match operation with
  | .settle => true
  | .stopCapture | .toggleCapture => session.voice.isListening
  | .press key =>
    (key = "MIC" && !session.isEvaluating && session.voice.isListening) ||
      (session.perform context operation).1.evaluating ≠ session.evaluating
  | .evaluate => (session.perform context operation).1.evaluating ≠ session.evaluating
  | _ => false

end Reckoner.Session
