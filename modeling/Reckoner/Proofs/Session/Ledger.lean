import Reckoner.Proofs.Session.Composition
import Reckoner.Proofs.Session.Run
import Reckoner.Session.Completion

/-!
The history against a ledger of all that a run brought to success. The ledger is kept from the
answers of the operations alone: it notes the buffer whenever an evaluation begins, and enters that
text with the result when an outcome is a success. An operation either begins an evaluation, ends
one, or leaves both the evaluation under way and the history alone, so the history is always the
newest part of the ledger, as long as its limit.
-/

namespace Reckoner

/-- What a limit has cut off a log before, it would cut off the longer log as well. So adding to a
log that was cut is as good as cutting the whole log. -/
theorem History.upTo_cons_take {α : Type} (limit : Int) (x : α) (xs : List α) :
    upTo limit (x :: xs.take limit.toNat) = (x :: xs).take limit.toNat := by
  unfold upTo
  by_cases hlimit : 0 ≤ limit
  · rw [if_pos hlimit]
    cases limit.toNat with
    | zero => simp
    | succ n => simp [List.take_take]
  · have hzero : limit.toNat = 0 := by omega
    have hcut : 1 - limit.natAbs = 0 := by omega
    rw [if_neg hlimit, hzero]
    simp [hcut]

namespace Session

/-- An operation of a run, as the ledger sees it. It does not see the history, which is what it is
compared with. -/
structure Event where
  /-- The buffer before the operation. -/
  buffer : String
  response : Response

/-- The operations of a run with their answers, in order. Each of them is performed on the session
that the ones before it have left. -/
def events : List Step → Session → List Event
  | [], _ => []
  | step :: rest, session =>
    let (after, response) := session.perform step.context step.operation
    ⟨session.buffer, response⟩ :: after.events rest

structure Ledger where
  /-- The buffer when the latest evaluation began. -/
  begun : String := ""
  /-- The evaluations that succeeded, newest first. -/
  successes : List Entry := []

/-- Does the answer say that an evaluation began? One that crashed has begun too, though it will
never be entered. -/
def Response.begins : Response → Bool
  | .started .ignored => false
  | .started _ => true
  | _ => false

def Ledger.noteBeginning (event : Event) (ledger : Ledger) : Ledger :=
  if event.response.begins then { ledger with begun := event.buffer } else ledger

def Ledger.enter (outcome : Outcome) (ledger : Ledger) : Ledger :=
  match outcome with
  | .success text _ => { ledger with successes := ⟨ledger.begun, text⟩ :: ledger.successes }
  | _ => ledger

def Ledger.record (ledger : Ledger) (event : Event) : Ledger :=
  let ledger := ledger.noteBeginning event
  match event.response.outcome? with
  | some outcome => ledger.enter outcome
  | none => ledger

/-- All evaluations of a run that succeeded, newest first, each with the buffer when it began and
its result. -/
def successes (steps : List Step) (session : Session) : List Entry :=
  ((session.events steps).foldl Ledger.record {}).successes

/-- The sessions agree on the evaluation under way and on the history. Those are the fields that the
ledger accounts for. -/
structure SameLog (session after : Session) : Prop where
  evaluating : after.evaluating = session.evaluating
  history : after.history = session.history

theorem SameLog.refl (session : Session) : SameLog session session := ⟨rfl, rfl⟩

theorem Composes.sameLog {session after : Session} (h : Composes session after) :
    SameLog session after := ⟨h.evaluating, h.history⟩

theorem clear_sameLog (session : Session) : SameLog session session.clear.1 := by
  unfold clear edit
  split <;> exact ⟨rfl, rfl⟩

theorem selectHistory_sameLog (index : Int) (session : Session) :
    SameLog session (session.selectHistory index).1 := by
  unfold selectHistory
  split <;> exact ⟨rfl, rfl⟩

/-- What an operation that gave this answer did to the evaluation under way and the history. The
cases exclude one another by the answer. -/
inductive Effect (before after : Session) : Response → Prop where
  | finished (outcome : Outcome) (hidle : before.evaluating = none)
      (hafter : after = before.commit before.buffer outcome) :
      Effect before after (.started (.finished outcome))
  | crashed (cause : FormatError) (hidle : before.evaluating = none)
      (hsame : SameLog before after) : Effect before after (.started (.crashed cause))
  | waiting (hidle : before.evaluating = none)
      (hafter : after = { before with result := "", evaluating := some before.buffer }) :
      Effect before after (.started (.waiting before.buffer))
  | answered (input : String) (outcome : Outcome) (hbusy : before.evaluating = some input)
      (hafter : after = before.commit input outcome) :
      Effect before after (.outcome (some outcome))
  | other {response : Response} (hbegins : response.begins = false)
      (hended : response.outcome? = none) (hsame : SameLog before after) :
      Effect before after response

theorem beginEvaluation_effect (places : Int) (stage : Fallback.Stage) (session : Session) :
    Effect session (session.beginEvaluation places stage).1
      (.started (session.beginEvaluation places stage).2) := by
  have hbeginning := beginEvaluation_beginning places stage session
  generalize session.beginEvaluation places stage = begun at *
  obtain ⟨after, started⟩ := begun
  cases hbeginning with
  | ignored => exact .other rfl rfl (SameLog.refl _)
  | crashed hidle cause => exact .crashed cause hidle ⟨rfl, rfl⟩
  | finished hidle outcome => exact .finished outcome hidle rfl
  | waiting hidle hbuffer => exact .waiting hidle rfl

theorem finishEvaluation_effect (answer : Fallback.Answer) (session : Session) :
    Effect session (session.finishEvaluation answer).1
      (.outcome (session.finishEvaluation answer).2) := by
  unfold finishEvaluation
  split
  · exact .other rfl rfl (SameLog.refl session)
  · rename_i input hbusy
    exact .answered input answer.outcome hbusy rfl

theorem press_effect (context : Context) (key : String) (session : Session) :
    Effect session (session.press context key).1 (session.press context key).2 := by
  unfold press
  split
  · exact .other rfl rfl (SameLog.refl session)
  split
  · exact .other rfl rfl (append_composes _ session).sameLog
  split
  · exact .other rfl rfl (clear_sameLog session)
  · exact beginEvaluation_effect context.places context.stage session
  · exact .other rfl rfl (deleteLast_composes session).sameLog
  · exact .other rfl rfl ⟨rfl, rfl⟩
  · exact .other rfl rfl ⟨rfl, rfl⟩
  · exact .other rfl rfl (toggleCapture_composes context.voice session).sameLog
  · exact .other rfl rfl (typeLiteral_composes _ session).sameLog

/-- Every operation has the effect that its answer tells. Here all operations are gone through once;
what follows goes by the effects. -/
theorem perform_effect (context : Context) (operation : Operation) (session : Session) :
    Effect session (session.perform context operation).1
      (session.perform context operation).2 := by
  cases operation with
  | press key => exact press_effect context key session
  | append text => exact .other rfl rfl (append_composes text session).sameLog
  | typeLiteral literal => exact .other rfl rfl (typeLiteral_composes literal session).sameLog
  | deleteLast => exact .other rfl rfl (deleteLast_composes session).sameLog
  | clear => exact .other rfl rfl (clear_sameLog session)
  | toggleAngleMode | toggleModifier | submit _ | setContinuous _ => exact .other rfl rfl ⟨rfl, rfl⟩
  | evaluate => exact beginEvaluation_effect context.places context.stage session
  | answer answer => exact finishEvaluation_effect answer session
  | selectHistory index => exact .other rfl rfl (selectHistory_sameLog index session)
  | dictate transcript => exact .other rfl rfl (dictate_composes transcript session).sameLog
  | startCapture => exact .other rfl rfl (startCapture_composes context.voice session).sameLog
  | stopCapture => exact .other rfl rfl (stopCapture_composes session).sameLog
  | toggleCapture => exact .other rfl rfl (toggleCapture_composes context.voice session).sameLog
  | settle => exact .other rfl rfl (settle_composes session).sameLog

theorem commit_limit (input : String) (outcome : Outcome) (session : Session) :
    (session.commit input outcome).history.limit = session.history.limit := by
  cases outcome <;> rfl

/-- Only a success is entered into the history. The other outcomes end an evaluation without leaving
a trace in it. -/
theorem commit_history_of_failure {outcome : Outcome}
    (h : ∀ text viaFallback, outcome ≠ .success text viaFallback) (input : String)
    (session : Session) : (session.commit input outcome).history = session.history := by
  cases outcome with
  | success text viaFallback => exact absurd rfl (h text viaFallback)
  | rejected | declined | unavailable => rfl

/-- An operation that brought no evaluation to success leaves the history alone. So the history
changes only with a success, and never by a selection. -/
theorem Effect.history_of_no_success {before after : Session} {response : Response}
    (h : Effect before after response)
    (hfailure : ∀ text viaFallback, response.outcome? ≠ some (.success text viaFallback)) :
    after.history = before.history := by
  have hcommit {outcome : Outcome} (hended : response.outcome? = some outcome) (input : String) :
      (before.commit input outcome).history = before.history := by
    apply commit_history_of_failure
    rintro text viaFallback rfl
    exact hfailure text viaFallback hended
  cases h with
  | finished outcome _ hafter =>
      rw [hafter]
      exact hcommit rfl before.buffer
  | answered input outcome _ hafter =>
      rw [hafter]
      exact hcommit rfl input
  | crashed _ _ hsame | other _ _ hsame => exact hsame.history
  | waiting _ hafter => rw [hafter]

/-- The ledger tells what the session is evaluating and what its history holds. A negative limit
counts as zero, since a history under it stays empty. -/
structure Ledger.Accounts (limit : Int) (ledger : Ledger) (session : Session) : Prop where
  begun : ∀ input ∈ session.evaluating, ledger.begun = input
  bound : session.history.limit = limit
  entries : session.history.entries = ledger.successes.take limit.toNat

theorem Ledger.Accounts.of_sameLog {limit : Int} {ledger : Ledger} {before after : Session}
    (h : ledger.Accounts limit before) (hsame : SameLog before after) :
    ledger.Accounts limit after where
  begun := by
    rw [hsame.evaluating]
    exact h.begun
  bound := by
    rw [hsame.history]
    exact h.bound
  entries := by
    rw [hsame.history]
    exact h.entries

/-- Beginning an evaluation replaces the text noted before; while one is under way none begins, so
the text noted is always that of the evaluation. -/
theorem Ledger.Accounts.begin {limit : Int} {ledger : Ledger} {session : Session}
    (h : ledger.Accounts limit session) (hidle : session.evaluating = none) (text : String) :
    Ledger.Accounts limit { ledger with begun := text } session where
  begun := by simp [hidle]
  bound := h.bound
  entries := h.entries

/-- The end of an evaluation enters the same success into the ledger and the history. A failure is
entered into neither. -/
theorem Ledger.Accounts.commit {limit : Int} {ledger : Ledger} {session : Session}
    (h : ledger.Accounts limit session) (outcome : Outcome) :
    (ledger.enter outcome).Accounts limit (session.commit ledger.begun outcome) where
  begun := by simp [commit_evaluating]
  bound := by rw [commit_limit, h.bound]
  entries := by
    cases outcome with
    | success text viaFallback =>
        simp only [Session.commit, History.add, h.bound, h.entries, History.upTo_cons_take]
        rfl
    | rejected | declined | unavailable => exact h.entries

/-- An operation and the record of it keep the ledger and the session in step. By induction they are
in step after any run. The cases are those of the effect, so no operation is looked at here. -/
theorem Ledger.Accounts.record {limit : Int} {ledger : Ledger} {before after : Session}
    {response : Response} (h : ledger.Accounts limit before)
    (heffect : Effect before after response) :
    (ledger.record ⟨before.buffer, response⟩).Accounts limit after := by
  cases heffect with
  | finished outcome hidle hafter =>
      have hbegun := h.begin hidle before.buffer
      rw [hafter]
      exact hbegun.commit outcome
  | crashed cause hidle hsame => exact (h.begin hidle before.buffer).of_sameLog hsame
  | waiting hidle hafter =>
      rw [hafter]
      exact ⟨by rintro input ⟨⟩; rfl, h.bound, h.entries⟩
  | answered input outcome hbusy hafter =>
      obtain rfl := h.begun input hbusy
      rw [hafter]
      exact h.commit outcome
  | other hbegins hended hsame =>
      have hrecord : ledger.record ⟨before.buffer, response⟩ = ledger := by
        simp [Ledger.record, Ledger.noteBeginning, hbegins, hended]
      rw [hrecord]
      exact h.of_sameLog hsame

theorem Ledger.Accounts.run {limit : Int} {ledger : Ledger} {session : Session}
    (h : ledger.Accounts limit session) (steps : List Step) :
    ((session.events steps).foldl Ledger.record ledger).Accounts limit (session.run steps) := by
  induction steps generalizing ledger session with
  | nil => exact h
  | cons step rest ih => exact ih (h.record (perform_effect step.context step.operation session))

theorem accounts_create (configuration : Configuration) (hasMicrophone : Bool)
    (limit : Option Int) :
    Ledger.Accounts (limit.getD configuration.settings.historyLimit) {}
      (create configuration hasMicrophone limit) :=
  ⟨by rintro input ⟨⟩, rfl, List.take_nil.symm⟩

/-- After any operations in any order the history of a session holds the newest of all evaluations
that succeeded, each with the text with which it began and its result, as many as the limit allows
and none at all below a limit of one; and an operation that brings no evaluation to success neither
adds, removes, moves nor changes an entry, whatever the session. -/
theorem history_eq_newest_successes (configuration : Configuration) (hasMicrophone : Bool)
    (limit : Option Int) (steps : List Step) :
    ((create configuration hasMicrophone limit).run steps).history.entries =
        ((create configuration hasMicrophone limit).successes steps).take
          (max 0 (limit.getD configuration.settings.historyLimit)).toNat ∧
      ∀ (session : Session) (context : Context) (operation : Operation),
        (∀ text viaFallback, (session.perform context operation).2.outcome? ≠
          some (.success text viaFallback)) →
        (session.perform context operation).1.history = session.history := by
  constructor
  · have hrun := (accounts_create configuration hasMicrophone limit).run steps
    have hbound : (max 0 (limit.getD configuration.settings.historyLimit)).toNat =
        (limit.getD configuration.settings.historyLimit).toNat := by omega
    rw [hbound]
    exact hrun.entries
  · intro session context operation hfailure
    exact (perform_effect context operation session).history_of_no_success hfailure

end Session

end Reckoner
