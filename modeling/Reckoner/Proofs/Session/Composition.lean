import Reckoner.Session.Operation

/-!
Composing a text. Editing, dictating and capturing work on the buffer, the notification and the
voice channel of a session; what is displayed, the evaluation under way and the history are left
alone.
-/

namespace Reckoner.Session

/-- The sessions agree on the displayed result, the evaluation under way and the history. These are
the fields that composing a text has nothing to do with. -/
structure Composes (session after : Session) : Prop where
  result : after.result = session.result
  isFallbackResult : after.isFallbackResult = session.isFallbackResult
  evaluating : after.evaluating = session.evaluating
  history : after.history = session.history

theorem Composes.refl (session : Session) : Composes session session := ⟨rfl, rfl, rfl, rfl⟩

theorem Composes.trans {first second third : Session} (h : Composes first second)
    (h' : Composes second third) : Composes first third :=
  ⟨h'.result.trans h.result, h'.isFallbackResult.trans h.isFallbackResult,
    h'.evaluating.trans h.evaluating, h'.history.trans h.history⟩

theorem edit_composes {change : Session → Session} (session : Session)
    (h : Composes session (change session)) : Composes session (edit change session).1 := by
  unfold edit
  split
  · exact Composes.refl session
  · exact h

theorem append_composes (text : String) (session : Session) :
    Composes session (session.append text).1 := edit_composes session ⟨rfl, rfl, rfl, rfl⟩

theorem typeLiteral_composes (literal : String) (session : Session) :
    Composes session (session.typeLiteral literal).1 := edit_composes session ⟨rfl, rfl, rfl, rfl⟩

theorem deleteLast_composes (session : Session) : Composes session session.deleteLast.1 :=
  edit_composes session ⟨rfl, rfl, rfl, rfl⟩

theorem toggleAngleMode_composes (session : Session) :
    Composes session session.toggleAngleMode := ⟨rfl, rfl, rfl, rfl⟩

theorem toggleModifier_composes (session : Session) : Composes session session.toggleModifier :=
  ⟨rfl, rfl, rfl, rfl⟩

theorem Composes.of_voice (session : Session) (voice : Voice) :
    Composes session { session with voice } := ⟨rfl, rfl, rfl, rfl⟩

theorem dictate_composes (transcript : String) (session : Session) :
    Composes session (session.dictate transcript).1 := by
  unfold dictate
  split <;> exact ⟨rfl, rfl, rfl, rfl⟩

theorem takeEvents_composes (events : List VoiceEvent) (session : Session) :
    Composes session (events.foldl takeEvent session) := by
  induction events generalizing session with
  | nil => exact Composes.refl session
  | cons event rest ih =>
      have hfirst : Composes session (session.takeEvent event) := by
        cases event with
        | transcript text => exact dictate_composes text session
        | error error => exact ⟨rfl, rfl, rfl, rfl⟩
      exact hfirst.trans (ih (session.takeEvent event))

theorem settle_composes (session : Session) : Composes session session.settle :=
  (Composes.of_voice session session.voice.settle.2).trans
    (takeEvents_composes session.voice.settle.1 _)

theorem startCapture_composes (settings : VoiceSettings) (session : Session) :
    Composes session (session.startCapture settings).1 := by
  unfold startCapture
  split <;> exact ⟨rfl, rfl, rfl, rfl⟩

theorem stopCapture_composes (session : Session) : Composes session session.stopCapture :=
  (Composes.of_voice session session.voice.closeMicrophone).trans (settle_composes _)

theorem toggleCapture_composes (settings : VoiceSettings) (session : Session) :
    Composes session (session.toggleCapture settings) := by
  unfold toggleCapture
  split
  · exact stopCapture_composes session
  · exact startCapture_composes settings session

end Reckoner.Session
