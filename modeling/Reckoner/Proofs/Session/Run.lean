import Reckoner.Session.Operation

/-!
Runs of a session, and what the beginning of an evaluation that waits for a service does to it. The
context may change between the operations of a run, as the settings do.
-/

namespace Reckoner.Session

/-- An operation and the context that is in force when it is performed. Contexts differ from step to
step, since settings may be overridden in between. -/
structure Step where
  context : Context
  operation : Operation

/-- The context in which a service answers in time. Everything else is as in the default
settings. -/
def answering : Context := ⟨10, .open true, {}⟩

/-- The session after some operations, one after the other. What they answer is left aside here;
where it matters it is asked for step by step. -/
def run (steps : List Step) (session : Session) : Session :=
  steps.foldl (fun session step => (session.perform step.context step.operation).1) session

theorem edit_of_isEvaluating {session : Session} (h : session.isEvaluating = true)
    (change : Session → Session) : edit change session = (session, false) := by
  simp [edit, h]

theorem edit_of_idle {session : Session} (h : session.evaluating = none)
    (change : Session → Session) : edit change session = (change session, true) := by
  simp [edit, isEvaluating, h]

theorem commit_success (input text : String) (viaFallback : Bool) (session : Session) :
    (session.commit input (.success text viaFallback)).buffer = text ∧
      (session.commit input (.success text viaFallback)).result = text := ⟨rfl, rfl⟩

theorem commit_evaluating (input : String) (outcome : Outcome) (session : Session) :
    (session.commit input outcome).evaluating = none := by
  cases outcome <;> rfl

/-- What becomes of a session when an evaluation of its buffer is to begin, and what is answered. In
all cases but the first the session was not evaluating. -/
inductive Beginning (session : Session) : Session → Started → Prop where
  /-- An evaluation is under way already, or there is nothing to evaluate. -/
  | ignored : Beginning session session .ignored
  | crashed (hidle : session.evaluating = none) (cause : FormatError) :
      Beginning session { session with result := "" } (.crashed cause)
  | finished (hidle : session.evaluating = none) (outcome : Outcome) :
      Beginning session (session.commit session.buffer outcome) (.finished outcome)
  | waiting (hidle : session.evaluating = none) (hbuffer : session.buffer ≠ "") :
      Beginning session { session with result := "", evaluating := some session.buffer }
        (.waiting session.buffer)

theorem beginEvaluation_beginning (places : Int) (stage : Fallback.Stage) (session : Session) :
    Beginning session (session.beginEvaluation places stage).1
      (session.beginEvaluation places stage).2 := by
  unfold beginEvaluation
  split
  · exact .ignored
  · rename_i hready
    simp only [isEvaluating, Bool.or_eq_true, not_or, Bool.not_eq_true, Option.isSome_eq_false_iff,
      Option.isNone_iff_eq_none, String.isEmpty_iff] at hready
    obtain ⟨hidle, hbuffer⟩ := hready
    dsimp only
    cases evaluatePrimary session.angleMode places session.buffer with
    | error cause => exact .crashed hidle cause
    | ok outcome =>
        cases outcome with
        | success | declined | unavailable =>
            dsimp only
            exact .finished hidle _
        | rejected _ =>
            cases stage with
            | closed cause => exact .finished hidle (Fallback.Answer.failed cause.message).outcome
            | «open» timeAllowed => exact .waiting hidle hbuffer

/-- An evaluation that is complete at once has entered its outcome, for the text that was in the
buffer. -/
theorem beginEvaluation_finished {places : Int} {stage : Fallback.Stage}
    {before session : Session} {outcome : Outcome}
    (h : before.beginEvaluation places stage = (session, .finished outcome)) :
    session = before.commit before.buffer outcome := by
  have hbeginning := beginEvaluation_beginning places stage before
  rw [h] at hbeginning
  cases hbeginning
  rfl

/-- An evaluation that waits keeps the text that it is about, which is not empty. The buffer still
holds it, and the result is blank. -/
theorem beginEvaluation_waiting {places : Int} {stage : Fallback.Stage} {before session : Session}
    {text : String} (h : before.beginEvaluation places stage = (session, .waiting text)) :
    text ≠ "" ∧ session = { before with result := "", evaluating := some text } ∧
      before.buffer = text := by
  have hbeginning := beginEvaluation_beginning places stage before
  rw [h] at hbeginning
  cases hbeginning with
  | waiting _ hbuffer => exact ⟨hbuffer, rfl, rfl⟩

/-- Both ways to begin an evaluation go through `beginEvaluation`. So what is known of that holds of
the key as well as of the operation. -/
theorem perform_started {context : Context} {operation : Operation} {before session : Session}
    {started : Started} (h : before.perform context operation = (session, .started started)) :
    before.beginEvaluation context.places context.stage = (session, started) := by
  cases operation with
  | evaluate =>
      simp only [perform, Prod.map, id_eq, Prod.mk.injEq, Response.started.injEq] at h
      exact Prod.ext h.1 h.2
  | press key =>
      simp only [perform, press] at h
      split at h
      · simp at h
      split at h
      · simp at h
      split at h
      case h_2 =>
        simp only [Prod.mk.injEq, Response.started.injEq] at h
        exact Prod.ext h.1 h.2
      all_goals simp at h
  | _ => simp [perform, Prod.map] at h

end Reckoner.Session
