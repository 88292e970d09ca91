import Reckoner.Proofs.Session.Channel
import Reckoner.Proofs.Session.Run

/-!
The microphone and the capture of a session. An operation does at most one thing to the voice
channel, and between operations the recognizer is open exactly while a task listens to it; a session
that is evaluating makes no difference to that.
-/

namespace Reckoner

/-- What an operation of a session does to the voice channel. There are only six such actions, so
only these have to be compared with the recognizer. -/
inductive VoiceAction where
  | leave
  | start (settings : VoiceSettings)
  | stop
  | submit (item : Recognition)
  | settle
  | setContinuous (continuous : Bool)

namespace VoiceAction

def toggle (settings : VoiceSettings) (voice : Voice) : VoiceAction :=
  if voice.isListening then stop else start settings

def onVoice (voice : Voice) : VoiceAction → Voice
  | leave => voice
  | start settings =>
    match voice.start settings with
    | .ok started => started
    | .error _ => voice
  | stop => voice.closeMicrophone.settle.2
  | submit item => (voice.submit item).1
  | settle => voice.settle.2
  | setContinuous continuous => { voice with continuous }

/-- What the action does to the recognizer and its tasks, with the settings of a voice channel.
Without a microphone, or switched off, nothing is started. -/
def onChannel (voice : Voice) (channel : Channel) : VoiceAction → Channel
  | leave | setContinuous _ => channel
  | start settings =>
    if voice.hasMicrophone && settings.enabled then channel.start else channel
  | stop => channel.stop voice.continuous
  | submit item => (channel.submit item).1
  | settle => (channel.turn voice.continuous).2

end VoiceAction

namespace Session

/-- The action of an operation. Keys are ignored during an evaluation; the operations that start and
stop a capture are not. -/
def Operation.voiceAction (context : Context) (session : Session) : Operation → VoiceAction
  | .press key =>
    if session.isEvaluating || key ≠ "MIC" then .leave
    else .toggle context.voice session.voice
  | .startCapture => .start context.voice
  | .stopCapture => .stop
  | .toggleCapture => .toggle context.voice session.voice
  | .submit item => .submit item
  | .settle => .settle
  | .setContinuous continuous => .setContinuous continuous
  | _ => .leave

theorem edit_voice {change : Session → Session} (session : Session)
    (h : (change session).voice = session.voice) :
    (edit change session).1.voice = session.voice := by
  unfold edit
  split
  · rfl
  · exact h

theorem append_voice (text : String) (session : Session) :
    (session.append text).1.voice = session.voice := edit_voice session rfl

theorem typeLiteral_voice (literal : String) (session : Session) :
    (session.typeLiteral literal).1.voice = session.voice := edit_voice session rfl

theorem deleteLast_voice (session : Session) : session.deleteLast.1.voice = session.voice :=
  edit_voice session rfl

theorem clear_voice (session : Session) : session.clear.1.voice = session.voice :=
  edit_voice session rfl

theorem commit_voice (input : String) (outcome : Outcome) (session : Session) :
    (session.commit input outcome).voice = session.voice := by
  cases outcome <;> rfl

theorem beginEvaluation_voice (places : Int) (stage : Fallback.Stage) (session : Session) :
    (session.beginEvaluation places stage).1.voice = session.voice := by
  have hbeginning := beginEvaluation_beginning places stage session
  generalize session.beginEvaluation places stage = begun at *
  obtain ⟨after, started⟩ := begun
  cases hbeginning with
  | ignored | crashed | waiting => rfl
  | finished _ outcome => exact commit_voice _ outcome session

theorem finishEvaluation_voice (answer : Fallback.Answer) (session : Session) :
    (session.finishEvaluation answer).1.voice = session.voice := by
  unfold finishEvaluation
  split
  · rfl
  · exact commit_voice _ _ session

theorem selectHistory_voice (index : Int) (session : Session) :
    (session.selectHistory index).1.voice = session.voice := by
  unfold selectHistory
  split <;> rfl

theorem dictate_voice (transcript : String) (session : Session) :
    (session.dictate transcript).1.voice = session.voice := by
  unfold dictate
  split <;> rfl

theorem settle_voice (session : Session) : session.settle.voice = session.voice.settle.2 := by
  simp only [settle, takeEvents_voice]

theorem startCapture_voice (settings : VoiceSettings) (session : Session) :
    (session.startCapture settings).1.voice =
      (VoiceAction.start settings).onVoice session.voice := by
  simp only [startCapture, VoiceAction.onVoice]
  cases session.voice.start settings <;> rfl

theorem stopCapture_voice (session : Session) :
    session.stopCapture.voice = VoiceAction.stop.onVoice session.voice := settle_voice _

theorem toggleCapture_voice (settings : VoiceSettings) (session : Session) :
    (session.toggleCapture settings).voice =
      (VoiceAction.toggle settings session.voice).onVoice session.voice := by
  simp only [toggleCapture, VoiceAction.toggle]
  split
  · exact stopCapture_voice session
  · exact startCapture_voice settings session

theorem voiceAction_press_of_ne {context : Context} {session : Session} {key : String}
    (h : key ≠ "MIC") : (Operation.press key).voiceAction context session = .leave := by
  simp [Operation.voiceAction, h]

theorem press_voice (context : Context) (key : String) (session : Session) :
    (session.press context key).1.voice =
      ((Operation.press key).voiceAction context session).onVoice session.voice := by
  by_cases hkey : key = "MIC"
  · subst hkey
    have hnone : Keypad.insertion? "MIC" session.modifier = none := rfl
    cases hbusy : session.isEvaluating with
    | true => simp [press, Operation.voiceAction, hbusy, VoiceAction.onVoice]
    | false =>
        have htoggle := toggleCapture_voice context.voice session
        simpa [press, Operation.voiceAction, hbusy, hnone] using htoggle
  · rw [voiceAction_press_of_ne hkey]
    unfold press
    split
    · rfl
    split
    · exact append_voice _ session
    split
    · exact clear_voice session
    · exact beginEvaluation_voice context.places context.stage session
    · exact deleteLast_voice session
    · rfl
    · rfl
    · exact absurd rfl hkey
    · exact typeLiteral_voice _ session

/-- An operation does to the voice channel what its action says, and nothing else. So the state of
the capture can be followed action by action. -/
theorem perform_voice (context : Context) (operation : Operation) (session : Session) :
    (session.perform context operation).1.voice =
      (operation.voiceAction context session).onVoice session.voice := by
  cases operation with
  | press key => exact press_voice context key session
  | append text => exact append_voice text session
  | typeLiteral literal => exact typeLiteral_voice literal session
  | deleteLast => exact deleteLast_voice session
  | clear => exact clear_voice session
  | toggleAngleMode | toggleModifier | submit _ | setContinuous _ => rfl
  | evaluate => exact beginEvaluation_voice context.places context.stage session
  | answer answer => exact finishEvaluation_voice answer session
  | selectHistory index => exact selectHistory_voice index session
  | dictate transcript => exact dictate_voice transcript session
  | startCapture => exact startCapture_voice context.voice session
  | stopCapture => exact stopCapture_voice session
  | toggleCapture => exact toggleCapture_voice context.voice session
  | settle => exact settle_voice session

/-- The channel is in the state of the capture, and the microphone is open while the capture
runs. -/
structure Agrees (channel : Channel) (voice : Voice) : Prop where
  represents : channel.Represents voice.capture
  steady : voice.capture.isOpen = voice.isListening

theorem Agrees.capture_cases {channel : Channel} {voice : Voice} (h : Agrees channel voice) :
    voice.capture = .idle ∨ ∃ queue, voice.capture = .running queue true := by
  have hsteady := h.steady
  unfold Voice.isListening at hsteady
  cases hcapture : voice.capture with
  | idle => exact Or.inl rfl
  | running queue isOpen =>
      rw [hcapture] at hsteady
      obtain rfl : isOpen = true := hsteady
      exact Or.inr ⟨queue, rfl⟩

theorem Agrees.idle_of_silent {channel : Channel} {voice : Voice} (h : Agrees channel voice)
    (hsilent : voice.isListening = false) : voice.capture = .idle := by
  rcases h.capture_cases with hidle | ⟨queue, hrunning⟩
  · exact hidle
  · simp [Voice.isListening, hrunning, Capture.isListening] at hsilent

theorem Agrees.start {channel : Channel} {voice : Voice} (h : Agrees channel voice)
    (settings : VoiceSettings) :
    Agrees ((VoiceAction.start settings).onChannel voice channel)
      ((VoiceAction.start settings).onVoice voice) := by
  simp only [VoiceAction.onChannel, VoiceAction.onVoice, Voice.start]
  cases hlistening : voice.isListening with
  | true =>
      have hstart := Channel.start_of_isListening (h.represents.isListening.trans hlistening)
      simp only [hstart, ite_self, if_true]
      exact h
  | false =>
      have hidle := h.idle_of_silent hlistening
      have hstarted := (hidle ▸ h.represents).start
      cases hallowed : voice.hasMicrophone && settings.enabled with
      | true => exact ⟨hstarted, rfl⟩
      | false => exact h

theorem Agrees.submit {channel : Channel} {voice : Voice} (h : Agrees channel voice)
    (item : Recognition) :
    (channel.submit item).2 = voice.isListening ∧ (voice.submit item).2 = voice.isListening ∧
      Agrees (channel.submit item).1 (voice.submit item).1 := by
  have hanswer : (channel.submit item).2 = (voice.submit item).2 := (h.represents.submit item).1
  have hafter : (channel.submit item).1.Represents (voice.submit item).1.capture :=
    (h.represents.submit item).2
  rcases h.capture_cases with hidle | ⟨queue, hrunning⟩
  · have hsilent : voice.isListening = false := by rw [Voice.isListening, hidle]; rfl
    rw [Voice.submit_of_closed (h.steady.trans hsilent)] at hanswer hafter ⊢
    exact ⟨hanswer.trans hsilent.symm, hsilent.symm, hafter, h.steady⟩
  · have hlistening : voice.isListening = true := by rw [Voice.isListening, hrunning]; rfl
    rw [Voice.submit_of_isOpen hrunning] at hanswer hafter ⊢
    exact ⟨hanswer.trans hlistening.symm, hlistening.symm, hafter, rfl⟩

theorem Agrees.settle {channel : Channel} {voice : Voice} (h : Agrees channel voice) :
    Agrees (channel.turn voice.continuous).2 voice.settle.2 := by
  refine ⟨(h.represents.turn voice.continuous).2, ?_⟩
  rcases h.capture_cases with hidle | ⟨queue, hrunning⟩
  · rw [Voice.settle_of_idle hidle]
    exact h.steady
  · rw [Voice.settle_of_running hrunning]
    dsimp only [Voice.isListening]
    split <;> rfl

theorem Agrees.stop {channel : Channel} {voice : Voice} (h : Agrees channel voice) :
    Agrees (channel.stop voice.continuous) (voice.closeMicrophone.settle.2) := by
  refine ⟨(h.represents.close.turn voice.continuous).2, ?_⟩
  rcases h.capture_cases with hidle | ⟨queue, hrunning⟩
  · rw [Voice.closeMicrophone_of_idle hidle, Voice.settle_of_idle hidle]
    exact h.steady
  · rw [Voice.closeMicrophone_of_running hrunning, Voice.settle_of_running rfl]
    simp [Voice.isListening, Capture.isOpen, Capture.isListening]

/-- Every action keeps the channel and the capture in agreement. What it does to one is what it does
to the other. -/
theorem Agrees.onAction {channel : Channel} {voice : Voice} (h : Agrees channel voice)
    (action : VoiceAction) : Agrees (action.onChannel voice channel) (action.onVoice voice) := by
  cases action with
  | leave => exact h
  | start settings => exact h.start settings
  | stop => exact h.stop
  | submit item => exact (h.submit item).2.2
  | settle => exact h.settle
  | setContinuous continuous => exact ⟨h.represents, h.steady⟩

/-- The recognizer and its tasks after the operations of a run. Which actions those are is told by
the session on the way. -/
def follow : List Step → Session → Channel → Channel
  | [], _, channel => channel
  | step :: rest, session, channel =>
    follow rest (session.perform step.context step.operation).1
      ((step.operation.voiceAction step.context session).onChannel session.voice channel)

theorem Agrees.run {channel : Channel} {session : Session} (h : Agrees channel session.voice)
    (steps : List Step) : Agrees (follow steps session channel) (session.run steps).voice := by
  induction steps generalizing session channel with
  | nil => exact h
  | cons step rest ih =>
      have hfirst := h.onAction (step.operation.voiceAction step.context session)
      rw [← perform_voice] at hfirst
      exact ih hfirst

theorem agrees_create (configuration : Configuration) (hasMicrophone : Bool) (limit : Option Int) :
    Agrees {} (create configuration hasMicrophone limit).voice :=
  ⟨.idle [] (by simp), rfl⟩

/-- After any operations in any order, during an evaluation or not: the microphone is open exactly
while the session listens, and an item is accepted exactly then; at most one task is alive, and its
turn makes known what the session takes; starting while the session listens clears the notification
and keeps the task and its queue; and stopping while it does not changes nothing. -/
theorem microphone_agrees_with_capture (configuration : Configuration) (hasMicrophone : Bool)
    (limit : Option Int) (steps : List Step) :
    let session := (create configuration hasMicrophone limit).run steps
    let channel := follow steps (create configuration hasMicrophone limit) {}
    (session.voice.capture.isOpen = session.voice.isListening ∧
      channel.isOpen = session.voice.isListening ∧
      channel.isListening = session.voice.isListening) ∧
    (∀ item, (session.submit item).2 = session.voice.isListening ∧
      (channel.submit item).2 = session.voice.isListening) ∧
    channel.tasks.countP (·.isAlive) ≤ 1 ∧
    (channel.turn session.voice.continuous).1 = session.voice.settle.1 ∧
    (session.voice.isListening = true → ∀ settings,
      session.startCapture settings = ({ session with notification := none }, true) ∧
        channel.start = channel) ∧
    (session.voice.isListening = false →
      session.stopCapture = session ∧ ∀ continuous, channel.stop continuous = channel) := by
  intro session channel
  have hagrees : Agrees channel session.voice :=
    (agrees_create configuration hasMicrophone limit).run steps
  refine ⟨⟨hagrees.steady, hagrees.represents.isOpen.trans hagrees.steady,
    hagrees.represents.isListening⟩, ?_, hagrees.represents.countP_isAlive_le,
    (hagrees.represents.turn session.voice.continuous).1, ?_, ?_⟩
  · intro item
    obtain ⟨hchannel, hvoice, -⟩ := hagrees.submit item
    exact ⟨hvoice, hchannel⟩
  · intro hlistening settings
    refine ⟨?_, Channel.start_of_isListening (hagrees.represents.isListening.trans hlistening)⟩
    simp only [startCapture, Voice.start, hlistening, if_true]
  · intro hsilent
    have hidle := hagrees.idle_of_silent hsilent
    refine ⟨stopCapture_of_idle hidle, fun continuous => ?_⟩
    exact (hidle ▸ hagrees.represents).stop_of_idle continuous

end Session

end Reckoner
