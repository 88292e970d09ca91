import Reckoner.Settings.Basic
import Reckoner.Text.Lowercase

/-!
The voice channel of a session. A capture has a queue that a recognizer fills; it takes from the
queue only when it gets to run, and then all that is there. A capture that is not continuous ends
with its first final transcript, and every capture ends with the first error, or when its queue is
empty and the microphone has been closed. What is left in the queue then is lost.
-/

namespace Reckoner

structure CaptureError where
  code : String
  message : String
deriving DecidableEq, Repr

namespace CaptureError

/-- An error with a message of its own. Where there is none, or an empty one, the code stands in its
place, so that there is always something to show. -/
def reported (code : String) (message : Option String) : CaptureError :=
  ⟨code, (message.filter (!·.isEmpty)).getD ("Speech recognition error: " ++ code)⟩

theorem reported_message_ne_empty (code : String) (message : Option String) :
    (reported code message).message ≠ "" := by
  unfold reported
  cases hown : message.filter (!·.isEmpty) with
  | none => simp
  | some own =>
      obtain ⟨-, hempty⟩ := Option.filter_eq_some_iff.mp hown
      simpa using hempty

/-- There is no microphone, or the voice channel is switched off. No capture begins then, so the
error is told at once and not through a queue. -/
def notSupported : CaptureError :=
  reported "not-supported" (some "Speech recognition is not supported")

/-- The code of an interruption that is not worth mentioning. A capture ends with it like with any
other error, but nothing is shown. -/
def abortedCode : String := "aborted"

end CaptureError

inductive Recognition where
  | heard (text : String) (isFinal : Bool)
  | failed (error : CaptureError)
deriving DecidableEq, Repr

/-- What a capture makes known: what was said, once that is final, or why no more will be heard.
Transcripts that are not final are not among it. -/
inductive VoiceEvent where
  /-- A final transcript, in lower case. -/
  | transcript (text : String)
  | error (error : CaptureError)
deriving DecidableEq, Repr

/-- The state of the capture. The microphone is open only while a capture runs, but a capture may
still run when it has been closed. -/
inductive Capture where
  | idle
  /-- A capture with what is queued for it. The microphone may have been closed, and the capture
  not yet have come to its end. -/
  | running (queue : List Recognition) (isOpen : Bool)
deriving DecidableEq, Repr

namespace Capture

def isListening : Capture → Bool
  | idle => false
  | running .. => true

def isOpen : Capture → Bool
  | idle => false
  | running _ isOpen => isOpen

/-- Put something into the queue of an open microphone; the answer is whether it was open. A closed
one leaves the queue as it is. -/
def submit (item : Recognition) : Capture → Capture × Bool
  | running queue true => (running (queue ++ [item]) true, true)
  | capture => (capture, false)

def closeMicrophone : Capture → Capture
  | idle => idle
  | running queue _ => running queue false

/-- Take everything from the queue of a capture. It ends with the first error, with the first final
transcript unless it is continuous, or for want of a microphone. -/
def drain (continuous isOpen : Bool) : List Recognition → List VoiceEvent × Capture
  | [] => ([], if isOpen then running [] true else idle)
  | .heard _ false :: rest => drain continuous isOpen rest
  | .heard text true :: rest =>
    let event := VoiceEvent.transcript (Text.lowerString text)
    if continuous then
      let (events, capture) := drain continuous isOpen rest
      (event :: events, capture)
    else ([event], idle)
  | .failed error :: _ =>
    (if error.code = CaptureError.abortedCode then [] else [.error error], idle)

def settle (continuous : Bool) : Capture → List VoiceEvent × Capture
  | idle => ([], idle)
  | running queue isOpen => drain continuous isOpen queue

end Capture

structure Voice where
  hasMicrophone : Bool
  continuous : Bool
  language : Option String := none
  capture : Capture := .idle
deriving DecidableEq, Repr

namespace Voice

def isListening (voice : Voice) : Bool := voice.capture.isListening

def start (settings : VoiceSettings) (voice : Voice) : Except CaptureError Voice :=
  if voice.isListening then .ok voice
  else if voice.hasMicrophone && settings.enabled then
    .ok { voice with language := some settings.language, capture := .running [] true }
  else .error .notSupported

def submit (item : Recognition) (voice : Voice) : Voice × Bool :=
  let (capture, accepted) := voice.capture.submit item
  ({ voice with capture }, accepted)

/-- Close the microphone; a running capture ends when it next runs, after it has taken what is
queued. -/
def closeMicrophone (voice : Voice) : Voice :=
  { voice with capture := voice.capture.closeMicrophone }

def settle (voice : Voice) : List VoiceEvent × Voice :=
  let (events, capture) := voice.capture.settle voice.continuous
  (events, { voice with capture })

end Voice

end Reckoner
