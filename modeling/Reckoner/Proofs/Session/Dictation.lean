import Reckoner.Proofs.Session.Capture
import Reckoner.Proofs.Session.Run
import Reckoner.Proofs.Text.Lowercase

/-!
Dictation into a session that is not evaluating. Between two turns of the capture any number of
items may be queued, and turns may come at any moment; the items taken so far and the items still
queued always make up the items that were accepted. So once nothing is queued the buffer holds what
the accepted items say, wherever the turns were.
-/

namespace Reckoner

/-- The transcript is read in lower case, so lowering it before changes nothing. A capture lowers it
once already, when it makes it known. -/
theorem Transcript.canonicalize_lowerString (text : String) :
    canonicalize (Text.lowerString text) = canonicalize text := by
  simp only [canonicalize, Text.lowerString, String.toList_ofList, Text.lower_lower]

namespace Session

open Capture Recognition

/-- The operations by which a capture is fed, gets its turn and is stopped. A new start is not among
them: with it, other items would count. -/
def Operation.feeds : Operation → Bool
  | .submit _ | .settle | .stopCapture => true
  | _ => false

/-- The item that an operation puts into the queue. One that the microphone refuses is not put
there, so whether an item counts depends on the session. -/
def Operation.accepted (session : Session) : Operation → List Recognition
  | .submit item => if (session.submit item).2 then [item] else []
  | _ => []

/-- All items of a run that were put into the queue, in order. Each is asked of the session as it is
by then. -/
def accepted : List Step → Session → List Recognition
  | [], _ => []
  | step :: rest, session =>
    step.operation.accepted session ++
      accepted rest (session.perform step.context step.operation).1

/-- Since `start` the session has come to know of events and of nothing else; its voice channel is
left out of account. -/
structure Received (start : Session) (known : List VoiceEvent) (after : Session) : Prop where
  continuous : after.voice.continuous = start.voice.continuous
  session : ∀ voice : Voice, { after with voice } = { known.foldl takeEvent start with voice }

theorem Received.of_voice {start after : Session} {known : List VoiceEvent}
    (h : Received start known after) {voice : Voice}
    (hcontinuous : voice.continuous = after.voice.continuous) :
    Received start known { after with voice } where
  continuous := hcontinuous.trans h.continuous
  session := h.session

theorem Received.settle {start after : Session} {known : List VoiceEvent}
    (h : Received start known after) {queue : List Recognition} {isOpen : Bool}
    (hcapture : after.voice.capture = .running queue isOpen) :
    Received start (known ++ events start.voice.continuous queue) after.settle := by
  rw [settle_of_running hcapture, h.continuous]
  refine ⟨h.continuous, fun voice => ?_⟩
  calc { (events start.voice.continuous queue).foldl takeEvent after with voice }
    _ = (events start.voice.continuous queue).foldl takeEvent { after with voice } :=
        (takeEvents_voice after voice _).symm
    _ = (events start.voice.continuous queue).foldl takeEvent
          { known.foldl takeEvent start with voice } := by rw [h.session]
    _ = { (known ++ events start.voice.continuous queue).foldl takeEvent start with voice } := by
        rw [takeEvents_voice, List.foldl_append]

/-- The items that were accepted since `start` are those that were taken and those still queued.
This is what every operation on the capture preserves. -/
inductive Progress (start : Session) (items : List Recognition) (after : Session) : Prop where
  | listening (taken waiting : List Recognition) (hitems : items = taken ++ waiting)
      (hgoes : taken.any (ends start.voice.continuous) = false)
      (hcapture : after.voice.capture = .running waiting true)
      (hreceived : Received start (events start.voice.continuous taken) after)
  | ended (hcapture : after.voice.capture = .idle)
      (hreceived : Received start (events start.voice.continuous items) after)

theorem Progress.settle {start after : Session} {items : List Recognition}
    (h : Progress start items after) : Progress start items after.settle := by
  cases h with
  | listening taken waiting hitems hgoes hcapture hreceived =>
      have hturn := hreceived.settle hcapture
      rw [← events_append hgoes, ← hitems] at hturn
      have hafter := settle_of_running hcapture
      cases hends : waiting.any (ends after.voice.continuous) with
      | true => exact .ended (by rw [hafter]; simp [hends]) hturn
      | false =>
          refine .listening items [] (by simp) ?_ (by rw [hafter]; simp [hends]) hturn
          rw [hreceived.continuous] at hends
          rw [hitems, List.any_append, hgoes, hends]
          rfl
  | ended hcapture hreceived =>
      rw [settle_of_idle hcapture]
      exact .ended hcapture hreceived

/-- Stopping takes what is queued, and ends the capture. So afterwards all the items that were
accepted have been given to it. -/
theorem Progress.stopCapture {start after : Session} {items : List Recognition}
    (h : Progress start items after) : Progress start items after.stopCapture := by
  cases h with
  | listening taken waiting hitems hgoes hcapture hreceived =>
      have hclosed := Voice.closeMicrophone_of_running hcapture
      have hstopped : Received start (events start.voice.continuous taken)
          { after with voice := after.voice.closeMicrophone } := by
        rw [hclosed]
        exact hreceived.of_voice rfl
      have hqueue : ({ after with voice := after.voice.closeMicrophone } : Session).voice.capture =
          .running waiting false := by rw [hclosed]
      have hturn := hstopped.settle hqueue
      rw [← events_append hgoes, ← hitems] at hturn
      refine .ended ?_ hturn
      rw [Session.stopCapture, settle_of_running hqueue]
      simp
  | ended hcapture hreceived =>
      rw [stopCapture_of_idle hcapture]
      exact .ended hcapture hreceived

/-- While the capture waits an item is queued; when it has ended the item is refused. A refused item
does not count, so the account is right in both cases. -/
theorem Progress.submit {start after : Session} {items : List Recognition}
    (h : Progress start items after) (item : Recognition) :
    Progress start (items ++ (Operation.submit item).accepted after) (after.submit item).1 := by
  cases h with
  | listening taken waiting hitems hgoes hcapture hreceived =>
      have hqueued := Voice.submit_of_isOpen hcapture item
      have haccepted : (Operation.submit item).accepted after = [item] := by
        simp [Operation.accepted, Session.submit, hqueued]
      have hafter : (after.submit item).1 = { after with
          voice := { after.voice with capture := .running (waiting ++ [item]) true } } := by
        simp only [Session.submit, hqueued]
      rw [haccepted, hafter]
      refine .listening taken (waiting ++ [item]) ?_ hgoes rfl (hreceived.of_voice rfl)
      rw [hitems, List.append_assoc]
  | ended hcapture hreceived =>
      have hclosed : after.voice.capture.isOpen = false := by
        rw [hcapture]
        rfl
      have hrefused := Voice.submit_of_closed hclosed item
      have hnone : (Operation.submit item).accepted after = [] := by
        simp [Operation.accepted, Session.submit, hrefused]
      have hafter : (after.submit item).1 = after := by simp only [Session.submit, hrefused]
      rw [hnone, List.append_nil, hafter]
      exact .ended hcapture hreceived

theorem Progress.perform {start after : Session} {items : List Recognition}
    (h : Progress start items after) (context : Context) {operation : Operation}
    (hfeeds : operation.feeds = true) :
    Progress start (items ++ operation.accepted after) (after.perform context operation).1 := by
  cases operation with
  | submit item => exact h.submit item
  | settle =>
      simp only [Operation.accepted, List.append_nil]
      exact h.settle
  | stopCapture =>
      simp only [Operation.accepted, List.append_nil]
      exact h.stopCapture
  | _ => cases hfeeds

theorem Progress.run {start after : Session} {items : List Recognition}
    (h : Progress start items after) (steps : List Step)
    (hfeeds : ∀ step ∈ steps, step.operation.feeds = true) :
    Progress start (items ++ accepted steps after) (after.run steps) := by
  induction steps generalizing after items with
  | nil => simpa [accepted, Session.run] using h
  | cons step rest ih =>
      have hfirst := h.perform step.context (hfeeds step List.mem_cons_self)
      have hrest := ih hfirst fun other member => hfeeds other (List.mem_cons_of_mem _ member)
      rwa [List.append_assoc] at hrest

/-- With nothing queued, everything that was accepted has become known, as far as the capture went
on to it. -/
theorem Progress.received {start after : Session} {items : List Recognition}
    (h : Progress start items after) (hqueue : after.voice.capture.queue = []) :
    Received start (events start.voice.continuous items) after := by
  cases h with
  | listening taken waiting hitems _ hcapture hreceived =>
      obtain rfl : waiting = [] := by rwa [hcapture] at hqueue
      rwa [hitems, List.append_nil]
  | ended _ hreceived => exact hreceived

theorem Progress.queue_settle {start after : Session} {items : List Recognition}
    (h : Progress start items after) : after.settle.voice.capture.queue = [] := by
  cases h with
  | listening taken waiting _ _ hcapture _ =>
      rw [settle_of_running hcapture]
      dsimp only
      split <;> rfl
  | ended hcapture _ =>
      rw [settle_of_idle hcapture, hcapture]
      rfl

/-- Transcripts append what they say to the buffer of a session that is not evaluating. None of them
changes anything else, so they may be taken one by one. -/
theorem takeTranscripts_of_idle {session : Session} (hidle : session.evaluating = none)
    (texts : List String) :
    (texts.map fun text => VoiceEvent.transcript (Text.lowerString text)).foldl takeEvent session =
      { session with
        buffer := session.buffer ++ String.join (texts.map Transcript.canonicalize) } := by
  induction texts generalizing session with
  | nil => simp
  | cons text rest ih =>
      have hfirst : session.takeEvent (.transcript (Text.lowerString text)) =
          { session with buffer := session.buffer ++ Transcript.canonicalize text } := by
        simp [takeEvent, dictate, isEvaluating, hidle, Transcript.canonicalize_lowerString]
      have hstill : ({ session with
          buffer := session.buffer ++ Transcript.canonicalize text } : Session).evaluating = none :=
        hidle
      rw [List.map_cons, List.foldl_cons, hfirst, ih hstill, List.map_cons, String.join_cons,
        ← String.append_assoc]

/-- What a drained queue of items has done to a session that is not evaluating. The buffer grows by
the transcripts, and an error that is mentioned replaces the notification. -/
theorem takeEvents_of_idle {session : Session} (hidle : session.evaluating = none)
    (continuous : Bool) (items : List Recognition) :
    (events continuous items).foldl takeEvent session =
      { session with
        buffer := session.buffer ++
          String.join ((spoken continuous items).map Transcript.canonicalize)
        notification :=
          ((mentioned? continuous items).map (·.message)).or session.notification } := by
  rw [events_eq, List.foldl_append, takeTranscripts_of_idle hidle]
  cases mentioned? continuous items <;> rfl

/-- A capture has been started: it waits with nothing queued, and no notification is left.
Everything else is as it was before. -/
structure Starts (before session : Session) : Prop where
  capture : session.voice.capture = .running [] true
  continuous : session.voice.continuous = before.voice.continuous
  buffer : session.buffer = before.buffer
  notification : session.notification = none
  result : session.result = before.result
  isFallbackResult : session.isFallbackResult = before.isFallbackResult
  history : session.history = before.history
  evaluating : session.evaluating = before.evaluating

theorem starts_of_startCapture {settings : VoiceSettings} {before session : Session}
    (hsilent : before.voice.isListening = false)
    (hstart : before.startCapture settings = (session, true)) : Starts before session := by
  simp only [startCapture, Voice.start, hsilent, Bool.false_eq_true, if_false] at hstart
  split at hstart
  · rename_i voice hvoice
    split at hvoice
    · cases hvoice
      cases hstart
      exact ⟨rfl, rfl, rfl, rfl, rfl, rfl, rfl, rfl⟩
    · cases hvoice
  · cases hstart

/-- Exact delivery. From a session that is not evaluating a capture is started, and then items are
submitted, the capture gets its turns, and it may be stopped, in any order. A turn empties the
queue; and whenever nothing is queued, the buffer has grown by what the accepted items say, the
error that is reached is the notification, and nothing else has changed. -/
theorem dictation_delivered_exactly {settings : VoiceSettings} {before session : Session}
    (hidle : before.evaluating = none) (hsilent : before.voice.isListening = false)
    (hstart : before.startCapture settings = (session, true)) (steps : List Step)
    (hfeeds : ∀ step ∈ steps, step.operation.feeds = true) :
    (session.run steps).settle.voice.capture.queue = [] ∧
      ((session.run steps).voice.capture.queue = [] →
        (session.run steps).buffer = before.buffer ++ String.join
          ((spoken before.voice.continuous (accepted steps session)).map
            Transcript.canonicalize) ∧
        (session.run steps).notification =
          (mentioned? before.voice.continuous (accepted steps session)).map (·.message) ∧
        (session.run steps).result = before.result ∧
        (session.run steps).isFallbackResult = before.isFallbackResult ∧
        (session.run steps).history = before.history ∧
        (session.run steps).evaluating = none) := by
  have hstarts := starts_of_startCapture hsilent hstart
  have hfirst : Progress session [] session :=
    .listening [] [] rfl rfl hstarts.capture ⟨rfl, fun _ => rfl⟩
  have hrun := hfirst.run steps hfeeds
  rw [List.nil_append] at hrun
  refine ⟨hrun.queue_settle, fun hqueue => ?_⟩
  have hstill : session.evaluating = none := hstarts.evaluating.trans hidle
  have hafter := (hrun.received hqueue).session (session.run steps).voice
  rw [takeEvents_of_idle hstill, hstarts.continuous, hstarts.buffer, hstarts.notification,
    Option.or_none] at hafter
  refine ⟨congrArg buffer hafter, congrArg notification hafter, ?_, ?_, ?_, ?_⟩
  · exact (congrArg result hafter).trans hstarts.result
  · exact (congrArg isFallbackResult hafter).trans hstarts.isFallbackResult
  · exact (congrArg history hafter).trans hstarts.history
  · exact (congrArg evaluating hafter).trans hstill

/-- Two transcripts with a turn between them, the second after a partial one, and an error. The stop
then takes what the turn has not. -/
def dictated : List Step :=
  [.submit (.heard "two" true), .settle, .submit (.heard "plus" false),
    .submit (.heard "plus THREE" true), .submit (.failed ⟨"network", "Connection lost"⟩),
    .stopCapture]
  |>.map (⟨answering, ·⟩)

theorem dictation_delivered_between_turns :
    ∃ before session : Session, before.evaluating = none ∧ before.voice.isListening = false ∧
      before.startCapture {} = (session, true) ∧
      (∀ step ∈ dictated, step.operation.feeds = true) ∧
      (session.run dictated).buffer = "2+3" ∧
      (session.run dictated).notification = some "Connection lost" := by
  let before : Session := create { voice := { continuous := true } } true none
  have hstart : before.startCapture {} = ((before.startCapture {}).1, true) := rfl
  have hfeeds : ∀ step ∈ dictated, step.operation.feeds = true := by decide
  obtain ⟨-, hdrained⟩ := dictation_delivered_exactly rfl rfl hstart dictated hfeeds
  have hqueue : ((before.startCapture {}).1.run dictated).voice.capture.queue = [] := by
    decide +kernel
  obtain ⟨hbuffer, hnotification, -⟩ := hdrained hqueue
  refine ⟨before, _, rfl, rfl, hstart, hfeeds, hbuffer.trans ?_, hnotification.trans ?_⟩
  · decide +kernel
  · decide +kernel

end Session

end Reckoner
