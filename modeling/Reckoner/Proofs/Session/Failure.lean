import Reckoner.Proofs.Session.Run

/-!
Evaluations that end without an outcome: at once, because the result cannot be written, or while
they wait for the service, because they are given up. In both cases the session is idle again with
the text as it was composed, but the displayed result was emptied when the evaluation began and
stays empty. That field alone is not given back, so a failed evaluation leaves a session as it was
exactly if nothing was displayed before.
-/

namespace Reckoner.Session

/-- An operation begins an evaluation that ends without an outcome, and nothing else happens in
between. -/
inductive Fails (context : Context) (operation : Operation) (before : Session) :
    Session → Prop where
  | crashed (after : Session) (cause : FormatError)
      (h : before.perform context operation = (after, .started (.crashed cause))) :
      Fails context operation before after
  | givenUp (waiting : Session) (text : String)
      (h : before.perform context operation = (waiting, .started (.waiting text))) :
      Fails context operation before waiting.giveUp

/-- An evaluation fails at once exactly for an idle session with a text whose result cannot be
written, whether there is a service or not. The service would be asked after the evaluator, and the
evaluator does not come to an end. -/
theorem beginEvaluation_crashed_iff {places : Int} {stage : Fallback.Stage} {before after : Session}
    {cause : FormatError} :
    before.beginEvaluation places stage = (after, .crashed cause) ↔
      before.evaluating = none ∧ before.buffer ≠ "" ∧
        evaluatePrimary before.angleMode places before.buffer = .error cause ∧
        after = { before with result := "" } := by
  unfold beginEvaluation
  split
  · rename_i hready
    simp only [isEvaluating, Bool.or_eq_true, Option.isSome_iff_ne_none, String.isEmpty_iff]
      at hready
    refine iff_of_false (by simp) ?_
    rintro ⟨hidle, hbuffer, -⟩
    exact hready.elim (· hidle) hbuffer
  · rename_i hready
    simp only [isEvaluating, Bool.or_eq_true, not_or, Bool.not_eq_true, Option.isSome_eq_false_iff,
      Option.isNone_iff_eq_none, String.isEmpty_iff] at hready
    dsimp only
    cases evaluatePrimary before.angleMode places before.buffer with
    | error found => simp [hready.1, hready.2, and_comm, eq_comm]
    | ok outcome =>
        cases outcome with
        | success | declined | unavailable => simp
        | rejected _ => cases stage <;> simp

/-- What is given up while it waits leaves the same session behind as what fails at once. In both
cases the beginning has emptied the result and nothing fills it. -/
theorem Fails.eq {context : Context} {operation : Operation} {before after : Session}
    (h : Fails context operation before after) :
    before.evaluating = none ∧ after = { before with result := "" } := by
  cases h with
  | crashed _ cause h =>
      obtain ⟨hidle, -, -, hafter⟩ := beginEvaluation_crashed_iff.mp (perform_started h)
      exact ⟨hidle, hafter⟩
  | givenUp waiting text h =>
      have hbeginning := beginEvaluation_beginning context.places context.stage before
      rw [perform_started h] at hbeginning
      cases hbeginning with
      | waiting hidle hbuffer =>
          refine ⟨hidle, ?_⟩
          simp only [giveUp, hidle]

/-- A failed evaluation gives back everything but the displayed result, which is empty afterwards.
The session is as it was before exactly if no result was displayed. -/
theorem failed_evaluation_restores_iff {context : Context} {operation : Operation}
    {before after : Session} (h : Fails context operation before after) :
    after = { before with result := "" } ∧ (after = before ↔ before.result = "") := by
  obtain ⟨-, rfl⟩ := h.eq
  refine ⟨rfl, ?_, ?_⟩
  · intro hsame
    rw [← hsame]
  · intro hempty
    rw [← hempty]

/-- A context with more decimal places than a number of one digit can be rounded to. The settings
accept any number of places. -/
def overprecise : Context := ⟨400, .open true, {}⟩

/-- A new session in which a digit was composed. It displays the initial result, which the
evaluation of the digit then empties. -/
def digitComposed : Session := (create {} true none).run [⟨overprecise, .append "5"⟩]

/-- The same session after an evaluation whose result cannot be written. It is idle, the digit is
still in the buffer, and the result is empty. -/
def digitFailed : Session := digitComposed.run [⟨overprecise, .evaluate⟩]

theorem failed_evaluation_of_digit :
    Fails overprecise .evaluate digitComposed digitFailed ∧
      digitFailed = { digitComposed with result := "" } ∧
      (digitFailed = digitComposed ↔ digitComposed.result = "") := by
  have hfails : Fails overprecise .evaluate digitComposed digitFailed :=
    .crashed digitFailed (.rounding .tooManyDigits) (by decide +kernel)
  exact ⟨hfails, failed_evaluation_restores_iff hfails⟩

/-- What a new session displays does not survive an evaluation whose result cannot be written,
although that begins and ends in a single operation. -/
theorem failed_evaluation_empties_display :
    digitComposed.buffer = "5" ∧ digitComposed.evaluating = none ∧ digitComposed.result = "0" ∧
      digitComposed.perform overprecise .evaluate =
        (digitFailed, .started (.crashed (.rounding .tooManyDigits))) ∧
      digitFailed.result = "" ∧ digitFailed ≠ digitComposed := by
  decide +kernel

end Reckoner.Session
