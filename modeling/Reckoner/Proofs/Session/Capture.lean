import Reckoner.Session.Basic

/-!
What a capture makes of its queue. It takes the items up to the first that ends it: an error, or a
final transcript unless the capture is continuous. What becomes known depends on the items alone and
not on how they are spread over the turns of the capture.
-/

namespace Reckoner

namespace Recognition

/-- The transcript of a final result. What is heard before it is final and what fails have none. -/
def final? : Recognition → Option String
  | heard text true => some text
  | _ => none

def error? : Recognition → Option CaptureError
  | failed error => some error
  | _ => none

/-- Does a capture that takes the item end with it? Every error ends it, and a final transcript does
unless the capture is continuous. -/
def ends (continuous : Bool) : Recognition → Bool
  | heard _ isFinal => isFinal && !continuous
  | failed _ => true

/-- What becomes known when an item is taken. The transcript comes in lower case, and an
interruption is an error that is not told. -/
def known : Recognition → List VoiceEvent
  | heard text true => [.transcript (Text.lowerString text)]
  | heard _ false => []
  | failed error => if error.code = CaptureError.abortedCode then [] else [.error error]

end Recognition

open Recognition

namespace Capture

/-- What is queued for a capture that runs. Where none runs nothing is, since what was left of its
queue is lost when a capture ends. -/
def queue : Capture → List Recognition
  | idle => []
  | running queue _ => queue

/-- What a capture makes known of the items in its queue. The microphone is taken to be open here;
`drain_eq` shows that it makes no difference. -/
def events (continuous : Bool) (items : List Recognition) : List VoiceEvent :=
  (drain continuous true items).1

/-- Whether the microphone is open bears on how the capture is left, and not on what becomes
known. -/
theorem drain_eq (continuous isOpen : Bool) (items : List Recognition) :
    drain continuous isOpen items =
      (events continuous items,
        if items.any (ends continuous) || !isOpen then idle else running [] true) := by
  induction items with
  | nil => cases isOpen <;> rfl
  | cons item rest ih =>
      match item with
      | .heard text false => simpa [drain, events, ends] using ih
      | .heard text true =>
          cases continuous with
          | true => simp [drain, events, ends, ih]
          | false => simp [drain, events, ends]
      | .failed error => simp [drain, events, ends]

theorem events_cons (continuous : Bool) (item : Recognition) (rest : List Recognition) :
    events continuous (item :: rest) =
      item.known ++ if item.ends continuous then [] else events continuous rest := by
  match item with
  | .heard text false => rfl
  | .heard text true => cases continuous <;> rfl
  | .failed error => simp [events, drain, known, ends]

theorem events_append {continuous : Bool} {front : List Recognition}
    (h : front.any (ends continuous) = false) (back : List Recognition) :
    events continuous (front ++ back) = events continuous front ++ events continuous back := by
  induction front with
  | nil => rfl
  | cons item rest ih =>
      rw [List.any_cons, Bool.or_eq_false_iff] at h
      simp [events_cons, h.1, ih h.2]

/-- The final transcripts that are taken: those before the first error, and of them only the first
unless the capture is continuous. -/
def spoken (continuous : Bool) (items : List Recognition) : List String :=
  let finals := (items.takeWhile (·.error?.isNone)).filterMap final?
  if continuous then finals else finals.take 1

/-- The error that is reached: the first, unless a final transcript ends the capture before it. In a
continuous capture no transcript does. -/
def reached? (continuous : Bool) (items : List Recognition) : Option CaptureError :=
  if !continuous && !(spoken continuous items).isEmpty then none else items.findSome? error?

/-- The error that is reached and worth mentioning. An interruption still ends the capture, but
there is nothing to show for it. -/
def mentioned? (continuous : Bool) (items : List Recognition) : Option CaptureError :=
  (reached? continuous items).filter (·.code ≠ CaptureError.abortedCode)

/-- First the transcripts, in order, and then the error if one is reached. Nothing comes after an
error, so there is at most one of them. An item is spoken, passed over, or ends the capture, and
which of them depends on the mode as well. -/
theorem events_eq (continuous : Bool) (items : List Recognition) :
    events continuous items =
      (spoken continuous items).map (fun text => .transcript (Text.lowerString text)) ++
        (mentioned? continuous items).toList.map .error := by
  induction items with
  | nil => cases continuous <;> rfl
  | cons item rest ih =>
      match item with
      | .heard text false =>
          have hspoken :
              spoken continuous (.heard text false :: rest) = spoken continuous rest := rfl
          have hreached : mentioned? continuous (.heard text false :: rest) =
              mentioned? continuous rest := rfl
          rw [hspoken, hreached]
          exact ih
      | .heard text true =>
          cases continuous with
          | true =>
              have hspoken :
                  spoken true (.heard text true :: rest) = text :: spoken true rest := rfl
              have hreached :
                  mentioned? true (.heard text true :: rest) = mentioned? true rest := rfl
              rw [hspoken, hreached, List.map_cons, List.cons_append, ← ih]
              rfl
          | false => rfl
      | .failed error =>
          have hspoken : spoken continuous (.failed error :: rest) = [] := by
            cases continuous <;> rfl
          have hreached : reached? continuous (.failed error :: rest) = some error := by
            cases continuous <;> rfl
          rw [hspoken, mentioned?, hreached]
          by_cases hcode : error.code = CaptureError.abortedCode <;>
            simp [events, drain, hcode, Option.filter]

end Capture

namespace Voice

theorem with_capture {voice : Voice} {capture : Capture} (h : voice.capture = capture) :
    { voice with capture } = voice := by
  rw [← h]

/-- Where no capture runs there is nothing to take and nothing to close, so a turn and a stop change
nothing. -/
theorem settle_of_idle {voice : Voice} (h : voice.capture = .idle) :
    voice.settle = ([], voice) := by
  simp only [settle, h, Capture.settle, with_capture h]

theorem closeMicrophone_of_idle {voice : Voice} (h : voice.capture = .idle) :
    voice.closeMicrophone = voice := by
  simp only [closeMicrophone, h, Capture.closeMicrophone, with_capture h]

theorem settle_of_running {voice : Voice} {queue : List Recognition} {isOpen : Bool}
    (h : voice.capture = .running queue isOpen) :
    voice.settle =
      (Capture.events voice.continuous queue,
        { voice with
          capture := if queue.any (ends voice.continuous) || !isOpen then .idle
            else .running [] true }) := by
  simp only [settle, h, Capture.settle, Capture.drain_eq]

theorem closeMicrophone_of_running {voice : Voice} {queue : List Recognition} {isOpen : Bool}
    (h : voice.capture = .running queue isOpen) :
    voice.closeMicrophone = { voice with capture := .running queue false } := by
  simp only [closeMicrophone, h, Capture.closeMicrophone]

/-- An item is queued where the microphone is open, and nowhere else. It is put behind what is
queued already, so the order of the items is kept. -/
theorem submit_of_isOpen {voice : Voice} {queue : List Recognition}
    (h : voice.capture = .running queue true) (item : Recognition) :
    voice.submit item = ({ voice with capture := .running (queue ++ [item]) true }, true) := by
  simp only [submit, h, Capture.submit]

theorem submit_of_closed {voice : Voice} (h : voice.capture.isOpen = false) (item : Recognition) :
    voice.submit item = (voice, false) := by
  unfold submit
  cases hcapture : voice.capture with
  | idle => simp only [Capture.submit, with_capture hcapture]
  | running queue isOpen =>
      obtain rfl : isOpen = false := by rwa [hcapture] at h
      simp only [Capture.submit, with_capture hcapture]

end Voice

namespace Session

open Capture

theorem takeEvent_voice (session : Session) (voice : Voice) (event : VoiceEvent) :
    ({ session with voice } : Session).takeEvent event =
      { session.takeEvent event with voice } := by
  cases event with
  | transcript text =>
      by_cases hevaluating : session.evaluating.isSome = true <;>
        simp [takeEvent, dictate, isEvaluating, hevaluating]
  | error error => rfl

/-- What a session makes of events has nothing to do with its voice channel. So the channel may be
set before or after the events are taken. -/
theorem takeEvents_voice (session : Session) (voice : Voice) (events : List VoiceEvent) :
    events.foldl takeEvent { session with voice } =
      { events.foldl takeEvent session with voice } := by
  induction events generalizing session with
  | nil => rfl
  | cons event rest ih =>
      rw [List.foldl_cons, takeEvent_voice]
      exact ih (session.takeEvent event)

/-- The turn of a capture that runs: what is queued becomes known, and then it waits or has
ended. -/
theorem settle_of_running {session : Session} {queue : List Recognition} {isOpen : Bool}
    (h : session.voice.capture = .running queue isOpen) :
    session.settle =
      { (events session.voice.continuous queue).foldl takeEvent session with
        voice := { session.voice with
          capture := if queue.any (ends session.voice.continuous) || !isOpen then .idle
            else .running [] true } } := by
  simp only [settle, Voice.settle_of_running h, takeEvents_voice]

theorem settle_of_idle {session : Session} (h : session.voice.capture = .idle) :
    session.settle = session := by
  simp only [settle, Voice.settle_of_idle h, List.foldl_nil]

theorem stopCapture_of_idle {session : Session} (h : session.voice.capture = .idle) :
    session.stopCapture = session := by
  rw [stopCapture, Voice.closeMicrophone_of_idle h]
  exact settle_of_idle h

end Session

end Reckoner
