import Mathlib.Data.List.Forall2
import Reckoner.Proofs.Session.Freeze
import Reckoner.Session.Completion

/-!
What is done while an evaluation waits for the service has no part in its end. A nested evaluation
is ignored, so the service is not asked again; the text under evaluation and the history stay; and
whatever else has changed by then, a selection's buffer, result and mark included, is overwritten by
the outcome, be it a result or a failure.
-/

namespace Reckoner.Session

/-- Operations carried to their ends one after the other with a service at hand: the session, the
answers in order, and the service afterwards. -/
def completeAll : List Step → Fallback.Service → Session →
    Session × List Response × Fallback.Service
  | [], service, session => (session, [], service)
  | step :: rest, service, session =>
    let (session, response, service) := session.complete step.context step.operation service
    let (session, responses, service) := completeAll rest service session
    (session, response :: responses, service)

/-- During an evaluation no other begins. The session is left as it is, whatever is in its buffer by
then. -/
theorem beginEvaluation_of_isEvaluating {session : Session} (h : session.isEvaluating = true)
    (places : Int) (stage : Fallback.Stage) :
    session.beginEvaluation places stage = (session, .ignored) := by
  simp [beginEvaluation, h]

/-- During an evaluation no operation has anything to ask. Only what begins an evaluation asks the
service, and none begins. -/
theorem question_of_isEvaluating {session : Session} (h : session.isEvaluating = true)
    (context : Context) (operation : Operation) :
    (session.perform context operation).2.question? = none := by
  cases hperform : session.perform context operation with
  | mk after response =>
      cases response with
      | started started =>
          have hbegin := perform_started hperform
          rw [beginEvaluation_of_isEvaluating h] at hbegin
          cases hbegin
          rfl
      | done | accepted | angleMode | modifier | outcome | entry | appended => rfl

theorem complete_of_isEvaluating {session : Session} (h : session.isEvaluating = true)
    (context : Context) (operation : Operation) (service : Fallback.Service) :
    session.complete context operation service =
      ((session.perform context operation).1, (session.perform context operation).2, service) := by
  simp only [complete, question_of_isEvaluating h]

/-- What a nested evaluation answers, whichever way it is asked for. The two ways have different
answers, but both say that nothing was begun. -/
def Ignored (step : Step) (response : Response) : Prop :=
  (step.operation = .evaluate → response = .started .ignored) ∧
    (step.operation = .press "=" → response = .accepted false)

theorem ignored_of_isEvaluating {session : Session} (h : session.isEvaluating = true)
    (step : Step) : Ignored step (session.perform step.context step.operation).2 := by
  constructor
  · intro hoperation
    simp [hoperation, perform, beginEvaluation_of_isEvaluating h]
  · intro hoperation
    simp [hoperation, perform, press, h]

/-- Operations during an evaluation end as they would without a service, and leave it alone. So
carrying them to their ends is just performing them. -/
theorem InFlight.completeAll {text : String} {history : History} {selected : Option Entry}
    {session : Session} (h : InFlight text history selected session) (steps : List Step)
    (hsteps : ∀ step ∈ steps, ∀ answer, step.operation ≠ .answer answer)
    (service : Fallback.Service) :
    ∃ responses, session.completeAll steps service = (session.run steps, responses, service) ∧
      List.Forall₂ Ignored steps responses := by
  induction steps generalizing session selected with
  | nil => exact ⟨[], rfl, .nil⟩
  | cons step rest ih =>
      have hbusy : session.isEvaluating = true := by simp [isEvaluating, h.evaluating]
      have hfirst := h.perform step.context (hsteps step (by simp))
      obtain ⟨responses, hrest, hignored⟩ :=
        ih hfirst fun other member => hsteps other (by simp [member])
      refine ⟨(session.perform step.context step.operation).2 :: responses, ?_, ?_⟩
      · rw [Session.completeAll, complete_of_isEvaluating hbusy]
        simp only [hrest]
        rfl
      · exact .cons (ignored_of_isEvaluating hbusy step) hignored

/-- The sessions agree on all that the end of an evaluation decides. The modes, the notification and
the voice channel are not among it. -/
structure SameEnd (first second : Session) : Prop where
  buffer : first.buffer = second.buffer
  result : first.result = second.result
  isFallbackResult : first.isFallbackResult = second.isFallbackResult
  evaluating : first.evaluating = second.evaluating
  history : first.history = second.history

/-- An outcome overwrites everything but the history, to which it adds. So sessions with the same
history have the same end, whatever else they differ in. -/
theorem commit_sameEnd {first second : Session} (hhistory : first.history = second.history)
    (input : String) (outcome : Outcome) :
    SameEnd (first.commit input outcome) (second.commit input outcome) := by
  cases outcome with
  | success text viaFallback => exact ⟨rfl, rfl, rfl, rfl, by simp [commit, hhistory]⟩
  | rejected | declined | unavailable => exact ⟨rfl, rfl, rfl, rfl, hhistory⟩

theorem InFlight.finishEvaluation {text : String} {history : History} {selected : Option Entry}
    {session : Session} (h : InFlight text history selected session) (answer : Fallback.Answer) :
    session.finishEvaluation answer =
      (session.commit text answer.outcome, some answer.outcome) := by
  simp only [Session.finishEvaluation, h.evaluating]

/-- Whatever is done between the moment when an evaluation begins to wait for the service and the
service's answer, the answer has the same end as if nothing had been done: the session is idle with
the same buffer, result, mark of the fallback and history, and the evaluation has the outcome of the
answer. Meanwhile every nested evaluation is ignored and the service is not asked again. -/
theorem commit_independent_of_interleaving {start : Context} {operation : Operation}
    {before session : Session} {text : String}
    (hstart : before.perform start operation = (session, .started (.waiting text)))
    (steps : List Step) (hsteps : ∀ step ∈ steps, ∀ answer, step.operation ≠ .answer answer)
    (service : Fallback.Service) (answer : Fallback.Answer) :
    ∃ after responses, session.completeAll steps service = (after, responses, service) ∧
      List.Forall₂ Ignored steps responses ∧
      (after.finishEvaluation answer).2 = some answer.outcome ∧
      (after.finishEvaluation answer).1.evaluating = none ∧
      SameEnd (after.finishEvaluation answer).1 (session.finishEvaluation answer).1 := by
  obtain ⟨-, hflight⟩ := inFlight_of_waiting hstart
  obtain ⟨responses, hcomplete, hignored⟩ := hflight.completeAll steps hsteps service
  have hafter := hflight.run steps hsteps
  have hfinished := hafter.finishEvaluation answer
  have hundisturbed := hflight.finishEvaluation answer
  refine ⟨session.run steps, responses, hcomplete, hignored, ?_, ?_, ?_⟩
  · rw [hfinished]
  · rw [hfinished]
    exact commit_evaluating text answer.outcome _
  · rw [hfinished, hundisturbed]
    exact commit_sameEnd hafter.history text answer.outcome

/-- A selection, nested evaluations both ways and a change of the angle mode. The selection writes
the buffer and the result that the end overwrites. -/
def disturbance : List Step :=
  [⟨answering, .selectHistory 0⟩, ⟨answering, .evaluate⟩, ⟨answering, .press "="⟩,
    ⟨answering, .toggleAngleMode⟩]

/-- A service that gives every text the same result. It is at hand during the disturbance, and is
not asked. -/
def constantSix : Fallback.Service := { answer := fun _ _ => .reply "6" }

theorem commit_independent_of_disturbance :
    composed.perform answering .evaluate = (asking, .started (.waiting "5(")) ∧
      (∀ step ∈ disturbance, ∀ answer, step.operation ≠ .answer answer) ∧
      ∃ after responses, asking.completeAll disturbance constantSix =
          (after, responses, constantSix) ∧
        List.Forall₂ Ignored disturbance responses ∧
        (after.finishEvaluation (.reply "6")).2 = some (.success "6" true) ∧
        (after.finishEvaluation (.reply "6")).1.evaluating = none ∧
        SameEnd (after.finishEvaluation (.reply "6")).1
          (asking.finishEvaluation (.reply "6")).1 := by
  have hstart : composed.perform answering .evaluate = (asking, .started (.waiting "5(")) := by
    decide +kernel
  have hsteps : ∀ step ∈ disturbance, ∀ answer, step.operation ≠ .answer answer := by
    simp [disturbance]
  exact ⟨hstart, hsteps,
    commit_independent_of_interleaving hstart disturbance hsteps constantSix (.reply "6")⟩

end Reckoner.Session
