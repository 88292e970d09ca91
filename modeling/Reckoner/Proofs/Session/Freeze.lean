import Reckoner.Proofs.Session.Run

/-!
A session while an evaluation waits for the service. Keys, edits, dictation, captures and further
evaluations leave buffer, result and history as they are; one operation does not: selecting an entry
of the history writes both fields although the evaluation is under way. The display is therefore
frozen exactly as long as no entry is selected, and otherwise shows the entry selected last.
-/

namespace Reckoner.Session

/-- The sessions agree on buffer, result, history and the evaluation under way. Modes, notification
and voice channel may differ; none of them is frozen. -/
structure SameDisplay (session after : Session) : Prop where
  buffer : after.buffer = session.buffer
  result : after.result = session.result
  evaluating : after.evaluating = session.evaluating
  history : after.history = session.history

theorem SameDisplay.refl (session : Session) : SameDisplay session session := ⟨rfl, rfl, rfl, rfl⟩

theorem SameDisplay.trans {first second third : Session} (h : SameDisplay first second)
    (h' : SameDisplay second third) : SameDisplay first third :=
  ⟨h'.buffer.trans h.buffer, h'.result.trans h.result, h'.evaluating.trans h.evaluating,
    h'.history.trans h.history⟩

theorem SameDisplay.of_voice (session : Session) (voice : Voice) :
    SameDisplay session { session with voice } := ⟨rfl, rfl, rfl, rfl⟩

/-- During an evaluation a transcript is dropped, and an error only becomes the notification. So
dictation that goes on meanwhile changes no text. -/
theorem takeEvent_of_isEvaluating {session : Session} (h : session.isEvaluating = true)
    (event : VoiceEvent) : SameDisplay session (session.takeEvent event) := by
  cases event with
  | transcript text => simpa [takeEvent, dictate, h] using SameDisplay.refl session
  | error error => exact ⟨rfl, rfl, rfl, rfl⟩

theorem takeEvents_of_isEvaluating {session : Session} (h : session.isEvaluating = true)
    (events : List VoiceEvent) : SameDisplay session (events.foldl takeEvent session) := by
  induction events generalizing session with
  | nil => exact SameDisplay.refl session
  | cons event rest ih =>
      have hfirst := takeEvent_of_isEvaluating h event
      have hstill : (session.takeEvent event).isEvaluating = true := by
        rw [isEvaluating, hfirst.evaluating]
        exact h
      exact hfirst.trans (ih hstill)

theorem settle_of_isEvaluating {session : Session} (h : session.isEvaluating = true) :
    SameDisplay session session.settle := by
  have hsame := SameDisplay.of_voice session session.voice.settle.2
  have hbusy : ({ session with voice := session.voice.settle.2 } : Session).isEvaluating = true := h
  exact hsame.trans (takeEvents_of_isEvaluating hbusy session.voice.settle.1)

theorem startCapture_display (settings : VoiceSettings) (session : Session) :
    SameDisplay session (session.startCapture settings).1 := by
  unfold startCapture
  split <;> exact ⟨rfl, rfl, rfl, rfl⟩

theorem stopCapture_of_isEvaluating {session : Session} (h : session.isEvaluating = true) :
    SameDisplay session session.stopCapture := by
  have hsame := SameDisplay.of_voice session session.voice.closeMicrophone
  have hbusy : ({ session with voice := session.voice.closeMicrophone } : Session).isEvaluating =
      true := h
  exact hsame.trans (settle_of_isEvaluating hbusy)

theorem toggleCapture_of_isEvaluating {session : Session} (h : session.isEvaluating = true)
    (settings : VoiceSettings) : SameDisplay session (session.toggleCapture settings) := by
  unfold toggleCapture
  split
  · exact stopCapture_of_isEvaluating h
  · exact startCapture_display settings session

/-- The entry of the history that an operation selects. An index that the history does not have
selects none, and then nothing is written. -/
def Operation.selected? (history : History) : Operation → Option Entry
  | .selectHistory index => history.get? index
  | _ => none

/-- Every operation but the answer of the service and a selection leaves the display alone. All
others either ask whether an evaluation is under way or write none of its fields. -/
theorem perform_of_isEvaluating {session : Session} (h : session.isEvaluating = true)
    (context : Context) {operation : Operation} (hanswer : ∀ answer, operation ≠ .answer answer)
    (hselected : operation.selected? session.history = none) :
    SameDisplay session (session.perform context operation).1 := by
  cases operation with
  | press key => simpa [perform, press, h] using SameDisplay.refl session
  | append text | typeLiteral text =>
      simpa [perform, append, typeLiteral, edit_of_isEvaluating h] using SameDisplay.refl session
  | deleteLast | clear =>
      simpa [perform, deleteLast, clear, edit_of_isEvaluating h] using SameDisplay.refl session
  | toggleAngleMode | toggleModifier | setContinuous continuous => exact ⟨rfl, rfl, rfl, rfl⟩
  | evaluate => simpa [perform, beginEvaluation, h] using SameDisplay.refl session
  | answer answer => exact absurd rfl (hanswer answer)
  | selectHistory index =>
      have hnone : session.history.get? index = none := hselected
      simpa [perform, selectHistory, hnone] using SameDisplay.refl session
  | dictate transcript => simpa [perform, dictate, h] using SameDisplay.refl session
  | startCapture => exact startCapture_display context.voice session
  | stopCapture => exact stopCapture_of_isEvaluating h
  | toggleCapture => exact toggleCapture_of_isEvaluating h context.voice
  | submit item => exact ⟨rfl, rfl, rfl, rfl⟩
  | settle => exact settle_of_isEvaluating h

/-- The evaluation of `text` waits, and `selected` is the entry selected last since it began. The
history stays the same all the time, so the entry can be told from the index. -/
structure InFlight (text : String) (history : History) (selected : Option Entry)
    (session : Session) : Prop where
  evaluating : session.evaluating = some text
  history : session.history = history
  buffer : session.buffer = selected.elim text Entry.result
  result : session.result = selected.elim "" Entry.result

theorem InFlight.perform {text : String} {history : History} {selected : Option Entry}
    {session : Session} (h : InFlight text history selected session) (context : Context)
    {operation : Operation} (hanswer : ∀ answer, operation ≠ .answer answer) :
    InFlight text history ((operation.selected? history).or selected)
      (session.perform context operation).1 := by
  have hbusy : session.isEvaluating = true := by simp [isEvaluating, h.evaluating]
  cases hselected : operation.selected? history with
  | none =>
      have hsame := perform_of_isEvaluating hbusy context hanswer (h.history ▸ hselected)
      exact ⟨hsame.evaluating.trans h.evaluating, hsame.history.trans h.history,
        hsame.buffer.trans h.buffer, hsame.result.trans h.result⟩
  | some entry =>
      cases operation with
      | selectHistory index =>
          have hentry : session.history.get? index = some entry := h.history ▸ hselected
          have hafter : (session.perform context (.selectHistory index)).1 =
              { session with
                buffer := entry.result, result := entry.result, isFallbackResult := false } := by
            simp [Session.perform, selectHistory, hentry]
          rw [hafter]
          exact ⟨h.evaluating, h.history, rfl, rfl⟩
      | _ => cases hselected

/-- The entry selected last in a run, or `selected` if the run selects none. Earlier selections are
overwritten by later ones. -/
def lastSelected (history : History) (steps : List Step) (selected : Option Entry) :
    Option Entry :=
  steps.foldl (fun selected step => (step.operation.selected? history).or selected) selected

theorem InFlight.run {text : String} {history : History} {selected : Option Entry}
    {session : Session} (h : InFlight text history selected session) (steps : List Step)
    (hsteps : ∀ step ∈ steps, ∀ answer, step.operation ≠ .answer answer) :
    InFlight text history (lastSelected history steps selected) (session.run steps) := by
  induction steps generalizing session selected with
  | nil => exact h
  | cons step rest ih =>
      have hfirst := h.perform step.context (hsteps step (by simp))
      exact ih hfirst fun other member => hsteps other (by simp [member])

/-- What is selected stays selected until another entry is, so none is selected at the end only if
none ever was. -/
theorem lastSelected_eq_none_iff (history : History) (steps : List Step)
    (selected : Option Entry) :
    lastSelected history steps selected = none ↔
      selected = none ∧ ∀ step ∈ steps, step.operation.selected? history = none := by
  induction steps generalizing selected with
  | nil => simp [lastSelected]
  | cons step rest ih =>
      have hrest := ih ((step.operation.selected? history).or selected)
      simp only [lastSelected, List.foldl_cons, List.mem_cons, forall_eq_or_imp] at hrest ⊢
      rw [hrest, Option.or_eq_none_iff]
      constructor
      · rintro ⟨⟨hstep, hselected⟩, hothers⟩
        exact ⟨hselected, hstep, hothers⟩
      · rintro ⟨hselected, hstep, hothers⟩
        exact ⟨⟨hstep, hselected⟩, hothers⟩

theorem inFlight_of_waiting {start : Context} {operation : Operation} {before session : Session}
    {text : String}
    (h : before.perform start operation = (session, .started (.waiting text))) :
    text ≠ "" ∧ InFlight text session.history none session := by
  obtain ⟨htext, rfl, hbuffer⟩ := beginEvaluation_waiting (perform_started h)
  exact ⟨htext, rfl, rfl, hbuffer, rfl⟩

/-- From the moment an evaluation waits for the service until the service answers, whatever is done
meanwhile, the evaluation stays under way; and buffer and result stay the evaluated text and empty
exactly as long as no entry of the history is selected. -/
theorem display_frozen_iff {start : Context} {operation : Operation} {before session : Session}
    {text : String}
    (hstart : before.perform start operation = (session, .started (.waiting text)))
    (steps : List Step) (hsteps : ∀ step ∈ steps, ∀ answer, step.operation ≠ .answer answer) :
    (session.run steps).evaluating = some text ∧
      ((session.run steps).buffer = text ∧ (session.run steps).result = "" ↔
        ∀ step ∈ steps, step.operation.selected? session.history = none) := by
  obtain ⟨htext, hflight⟩ := inFlight_of_waiting hstart
  have hafter := hflight.run steps hsteps
  refine ⟨hafter.evaluating, ?_⟩
  rw [hafter.buffer, hafter.result]
  cases hlast : lastSelected session.history steps none with
  | none =>
      have hnone := (lastSelected_eq_none_iff session.history steps none).mp hlast
      simpa using hnone.2
  | some entry =>
      constructor
      · rintro ⟨hbuffer, hresult⟩
        exact absurd (hbuffer.symm.trans hresult) htext
      · intro hnone
        have := (lastSelected_eq_none_iff session.history steps none).mpr ⟨rfl, hnone⟩
        rw [hlast] at this
        cases this

/-- A session with one evaluation behind it, in which a text that has no value was composed. So
there is an entry to select, and the service has to be asked. -/
def composed : Session :=
  (create {} true none).run [⟨answering, .append "("⟩, ⟨answering, .evaluate⟩,
    ⟨answering, .answer (.reply "5")⟩, ⟨answering, .append "("⟩]

/-- The same session while the service is asked about that text. Its buffer still holds the text,
and its result is empty. -/
def asking : Session := composed.run [⟨answering, .evaluate⟩]

/-- Keys, dictation and a nested evaluation. Each of them would change the display of a session that
is not evaluating. -/
def meanwhile : List Step :=
  [⟨answering, .press "AC"⟩, ⟨answering, .dictate "nine"⟩, ⟨answering, .evaluate⟩]

theorem display_frozen_meanwhile :
    composed.perform answering .evaluate = (asking, .started (.waiting "5(")) ∧
      (∀ step ∈ meanwhile, ∀ answer, step.operation ≠ .answer answer) ∧
      (asking.run meanwhile).evaluating = some "5(" ∧
      ((asking.run meanwhile).buffer = "5(" ∧ (asking.run meanwhile).result = "" ↔
        ∀ step ∈ meanwhile, step.operation.selected? asking.history = none) := by
  have hstart : composed.perform answering .evaluate = (asking, .started (.waiting "5(")) := by
    decide +kernel
  have hmeanwhile : ∀ step ∈ meanwhile, ∀ answer, step.operation ≠ .answer answer := by
    simp [meanwhile]
  exact ⟨hstart, hmeanwhile, display_frozen_iff hstart meanwhile hmeanwhile⟩

/-- Selecting an entry while the service is asked changes buffer and result under the evaluation,
which stays under way all the same. -/
theorem selection_thaws_display :
    asking.evaluating = some "5(" ∧ asking.buffer = "5(" ∧ asking.result = "" ∧
      (asking.run [⟨answering, .selectHistory 0⟩]).evaluating = some "5(" ∧
      (asking.run [⟨answering, .selectHistory 0⟩]).buffer = "5" ∧
      (asking.run [⟨answering, .selectHistory 0⟩]).result = "5" := by
  decide +kernel

end Reckoner.Session
