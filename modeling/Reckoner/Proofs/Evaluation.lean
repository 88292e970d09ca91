import Reckoner.Evaluation
import Reckoner.Proofs.Expression.Grammar
import Reckoner.Proofs.Outcome

/-!
Evaluation in two stages, for every input and every behaviour of the service. The first stage comes
to a result or rejects the input, and nothing else can happen in it: a value is finite, and as long
as at most 91 decimal places are kept a finite number can be rounded. Only for a rejected input is
there a second stage, which turns everything that a service can do into an outcome.
-/

namespace Reckoner

/-- An expression has a finite value or none, since every other value is refused in the end. On the
way to it values may well be infinite. -/
theorem Expression.isFinite_of_evaluate {scope : Scope} {text : String} {value : Binary64}
    (h : evaluate scope text = .ok value) : value.isFinite = true := by
  obtain ⟨read, -, -, hfinite⟩ := evaluate_eq_ok_iff.mp h
  exact hfinite

/-- A finite number has a text to as many decimal places as rounding never fails for. Neither its
digits nor its unit are out of reach then. -/
theorem exists_formatResult {x : Binary64} {places : Int} (hfinite : x.isFinite = true)
    (hlow : 0 ≤ places) (hhigh : places ≤ 91) : ∃ text, formatResult x places = .ok text := by
  cases x with
  | nan | infinity negative => cases hfinite
  | finite negative units h =>
      exact ⟨_, formatResult_of_rounded hfinite (roundDecimal_of_finite h hlow hhigh negative)⟩

/-- The first stage has a result of its own or rejects the input. It never says that a service
answered, and never fails to come to an outcome. -/
theorem evaluatePrimary_success_or_rejected (mode : AngleMode) {places : Int} (hlow : 0 ≤ places)
    (hhigh : places ≤ 91) (input : String) :
    (∃ text, evaluatePrimary mode places input = .ok (.success text false)) ∨
      ∃ cause, evaluatePrimary mode places input = .ok (.rejected cause) := by
  cases hvalue : Expression.evaluate (.standard mode) (Expression.replaceSymbols input) with
  | ok value =>
      have hfinite := Expression.isFinite_of_evaluate hvalue
      obtain ⟨text, htext⟩ := exists_formatResult hfinite hlow hhigh
      exact Or.inl ⟨text, evaluatePrimary_of_value hvalue htext⟩
  | error cause =>
      refine Or.inr ⟨cause, ?_⟩
      rw [evaluatePrimary, hvalue]

/-- What is above a number is not at most that number. What is not a number is neither, so the two
relations are not simply opposite. -/
theorem Binary64.not_atMost_of_less {x y : Binary64} (h : x < y) : ¬ y ≤ x := by
  change x.less y = true at h
  change ¬ y.atMost x = true
  unfold less at h
  unfold atMost
  cases hx : x.place? with
  | none => simp [hx] at h
  | some a =>
      cases hy : y.place? with
      | none => simp [hx, hy] at h
      | some b =>
          simp only [hx, hy, decide_eq_true_eq] at h ⊢
          omega

namespace Fallback

theorem allowsTime_of_pos {timeout : Binary64} (h : 0 < timeout) : allowsTime timeout = true := by
  simp [allowsTime, Binary64.not_atMost_of_less h]

/-- What the second stage makes of an input, and the service afterwards. A provider that there is a
connection to is asked once, and asked for the input as it was typed. -/
inductive SecondStage (connection : Except Error (Option Connection)) (input : String)
    (service : Service) : Outcome → Service → Prop where
  | replied (provider : Connection) (reply : String)
      (hconnection : connection = .ok (some provider))
      (hanswer : service.answer service.asked.length input = .reply reply)
      (hmarker : reply ≠ "Error") :
      SecondStage connection input service (.success reply true)
        { service with asked := service.asked ++ [input] }
  | declined (provider : Connection) (hconnection : connection = .ok (some provider))
      (hanswer : service.answer service.asked.length input = .reply "Error") :
      SecondStage connection input service .declined
        { service with asked := service.asked ++ [input] }
  | failed (provider : Connection) (detail : String)
      (hconnection : connection = .ok (some provider))
      (hanswer : ∀ reply, service.answer service.asked.length input ≠ .reply reply) :
      SecondStage connection input service (.unavailable detail)
        { service with asked := service.asked ++ [input] }
  /-- The provider is disabled or cannot be connected to. -/
  | unconnected (detail : String) (hconnection : ∀ provider, connection ≠ .ok (some provider)) :
      SecondStage connection input service (.unavailable detail) service

theorem Stage.ask_secondStage {timeout : Binary64} (htimeout : 0 < timeout)
    (connection : Except Error (Option Connection)) (input : String) (service : Service) :
    SecondStage connection input service
      ((Stage.ofConnection timeout connection).ask input service).1.outcome
      ((Stage.ofConnection timeout connection).ask input service).2 := by
  cases connection with
  | error cause => exact .unconnected cause.message (by simp)
  | ok provider? =>
      cases provider? with
      | none => exact .unconnected Error.disabled.message (by simp)
      | some provider =>
          simp only [ofConnection, ask, Service.ask, allowsTime_of_pos htimeout, if_true]
          cases hanswer : service.answer service.asked.length input with
          | reply reply =>
              by_cases hmarker : reply = "Error"
              · subst hmarker
                exact .declined provider rfl hanswer
              · simp only [Answer.outcome, errorMarker, hmarker, if_false]
                exact .replied provider reply rfl hanswer hmarker
          | failed detail => exact .failed provider detail rfl (by simp [hanswer])
          | timedOut => exact .failed provider "timeout" rfl (by simp [hanswer])

/-- The second stage never passes the rejection of the first on. Whatever becomes of it, the outcome
is a result, a refusal by the service, or that it was of no use. -/
theorem SecondStage.ne_rejected {connection : Except Error (Option Connection)} {input : String}
    {service after : Service} {outcome : Outcome}
    (h : SecondStage connection input service outcome after) (cause : Expression.Error) :
    outcome ≠ .rejected cause := by
  cases h <;> simp

end Fallback

open Fallback

/-- Every evaluation of an input comes to an outcome, and never to the rejection of the first stage.
A result of the first stage is the outcome, and the service is not asked; otherwise the outcome is
what the second stage makes of the input. -/
theorem evaluateInput_two_stages (mode : AngleMode) {places : Int} (hlow : 0 ≤ places)
    (hhigh : places ≤ 91) {timeout : Binary64} (htimeout : 0 < timeout)
    (connection : Except Fallback.Error (Option Connection)) (input : String) (service : Service) :
    ∃ outcome after,
      evaluateInput mode places (.ofConnection timeout connection) input service =
        .ok (outcome, after) ∧
      (∀ cause, outcome ≠ .rejected cause) ∧
      (∀ text viaFallback, evaluatePrimary mode places input = .ok (.success text viaFallback) →
        outcome = .success text viaFallback ∧ after = service) ∧
      ((∀ text viaFallback, evaluatePrimary mode places input ≠ .ok (.success text viaFallback)) →
        SecondStage connection input service outcome after) := by
  rcases evaluatePrimary_success_or_rejected mode hlow hhigh input with
    ⟨text, hprimary⟩ | ⟨cause, hprimary⟩
  · refine ⟨.success text false, service, ?_, by simp, ?_, ?_⟩
    · rw [evaluateInput, hprimary]
    · intro shown viaFallback hsuccess
      rw [hprimary] at hsuccess
      cases hsuccess
      exact ⟨rfl, rfl⟩
    · intro hfailure
      exact absurd hprimary (hfailure text false)
  · have hsecond := Stage.ask_secondStage htimeout connection input service
    refine ⟨_, _, ?_, hsecond.ne_rejected, ?_, fun _ => hsecond⟩
    · rw [evaluateInput, hprimary]
    · intro shown viaFallback hsuccess
      rw [hprimary] at hsuccess
      cases hsuccess

/-- A service that gives every text the same result, so that its answer does not depend on the
call. -/
def constantFive : Service := { answer := fun _ _ => .reply "5" }

/-- A bracket that is not closed goes to the service with the symbols of the display. Rewriting is
for the first stage only, and the service gets what was typed. -/
theorem evaluateInput_unclosed_bracket :
    (0 : Int) ≤ 10 ∧ (10 : Int) ≤ 91 ∧ (0 : Binary64) < 20 ∧
      ∃ outcome after,
        evaluateInput .radians 10 (.ofConnection 20 (.ok (some (.http "localhost")))) "2×(3"
          constantFive = .ok (outcome, after) ∧
        (∀ cause, outcome ≠ .rejected cause) ∧
        (∀ text viaFallback, evaluatePrimary .radians 10 "2×(3" = .ok (.success text viaFallback) →
          outcome = .success text viaFallback ∧ after = constantFive) ∧
        ((∀ text viaFallback,
            evaluatePrimary .radians 10 "2×(3" ≠ .ok (.success text viaFallback)) →
          SecondStage (.ok (some (.http "localhost"))) "2×(3" constantFive outcome after) := by
  have htimeout : (0 : Binary64) < 20 := by decide +kernel
  exact ⟨by decide, by decide, htimeout,
    evaluateInput_two_stages .radians (by decide) (by decide) htimeout _ "2×(3" constantFive⟩

end Reckoner
