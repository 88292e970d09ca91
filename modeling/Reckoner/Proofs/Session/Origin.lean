import Reckoner.Proofs.Session.Ledger

/-!
Where the display comes from. A session that is not evaluating shows what the latest of a few events
put there: its creation, a clearing, the end of an evaluation, or a selection made while it was not
evaluating. An evaluation blanks the result on its beginning, and a selection may write it again
before the end; the end overwrites both fields, so neither leaves a trace.
-/

namespace Reckoner

/-- What the display shows: a text, and whether the fallback service gave it. The buffer is no part
of it, although an evaluation changes that as well. -/
structure Shown where
  text : String
  viaFallback : Bool
deriving DecidableEq

namespace Shown

/-- What a new session shows, and a cleared one. No evaluation gave it, so the service did not
either. -/
def initial : Shown := ⟨"0", false⟩

/-- What an evaluation shows at its end: the result, or one of the two markers. The cause of a
failure is not told. -/
def ofOutcome : Outcome → Shown
  | .success text viaFallback => ⟨text, viaFallback⟩
  | .declined => ⟨"Error", false⟩
  | .rejected _ | .unavailable _ => ⟨"API Error", false⟩

end Shown

namespace Session

def shown (session : Session) : Shown := ⟨session.result, session.isFallbackResult⟩

/-- Does the operation clear a session that is not evaluating? During an evaluation the clearing is
ignored like all editing. -/
def Operation.clears : Operation → Bool
  | .clear => true
  | .press key => key = "AC"
  | _ => false

/-- The entry that an operation loaded. There is none if its index was beyond the entries, and
nothing is shown for it then. -/
def Response.entry? : Response → Option Entry
  | .entry loaded => loaded
  | _ => none

/-- What an operation with this answer puts on the display: the outcome of the evaluation that it
ends, or else, if the session is not evaluating, what a clearing or a selection shows. -/
def origin? (session : Session) (operation : Operation) (response : Response) : Option Shown :=
  match response.outcome? with
  | some outcome => some (.ofOutcome outcome)
  | none =>
    if session.isEvaluating then none
    else if operation.clears then some .initial
    else response.entry?.map fun entry => ⟨entry.result, false⟩

/-- All that the operations of a run put on the display, in order. What an operation puts there is
settled when it is performed, by the session that it finds. -/
def origins : List Step → Session → List Shown
  | [], _ => []
  | step :: rest, session =>
    let (after, response) := session.perform step.context step.operation
    (session.origin? step.operation response).toList ++ origins rest after

/-- If the session is not evaluating afterwards, it shows `origin`, or what it has shown all
along. -/
def Shows (before : Session) (origin : Option Shown) (after : Session) : Prop :=
  after.evaluating = none →
    match origin with
    | some shown => after.shown = shown
    | none => before.evaluating = none ∧ after.shown = before.shown

theorem Composes.shows {before after : Session} (h : Composes before after) :
    Shows before none after := by
  intro hidle
  refine ⟨h.evaluating ▸ hidle, ?_⟩
  rw [shown, h.result, h.isFallbackResult]
  rfl

theorem commit_shows (before : Session) (input : String) (outcome : Outcome) (session : Session) :
    Shows before (some (.ofOutcome outcome)) (session.commit input outcome) := by
  intro _
  cases outcome <;> rfl

theorem clear_shows (session : Session) :
    Shows session (if session.isEvaluating then none else some .initial) session.clear.1 := by
  cases hbusy : session.isEvaluating with
  | true =>
      rw [clear, edit_of_isEvaluating hbusy]
      exact (Composes.refl session).shows
  | false =>
      intro _
      simp only [clear, edit, hbusy]
      rfl

theorem selectHistory_shows (index : Int) (session : Session) :
    Shows session
      (if session.isEvaluating then none
        else (session.selectHistory index).2.map fun entry => ⟨entry.result, false⟩)
      (session.selectHistory index).1 := by
  unfold selectHistory
  cases session.history.get? index with
  | none =>
      rw [Option.map_none, ite_self]
      exact (Composes.refl session).shows
  | some entry =>
      intro hidle
      have hsilent : session.isEvaluating = false := by
        rw [isEvaluating, show session.evaluating = none from hidle]
        rfl
      simp only [hsilent]
      rfl

theorem beginEvaluation_shows (places : Int) (stage : Fallback.Stage) (session : Session)
    (hsound : ∀ cause, (session.beginEvaluation places stage).2 ≠ .crashed cause) :
    Shows session
      ((Response.started (session.beginEvaluation places stage).2).outcome?.map .ofOutcome)
      (session.beginEvaluation places stage).1 := by
  have hbeginning := beginEvaluation_beginning places stage session
  generalize session.beginEvaluation places stage = begun at *
  obtain ⟨after, started⟩ := begun
  cases hbeginning with
  | ignored => exact (Composes.refl _).shows
  | crashed _ cause => exact absurd rfl (hsound cause)
  | finished _ outcome => exact commit_shows session _ outcome session
  | waiting => rintro ⟨⟩

theorem finishEvaluation_shows (answer : Fallback.Answer) (session : Session) :
    Shows session ((session.finishEvaluation answer).2.map .ofOutcome)
      (session.finishEvaluation answer).1 := by
  unfold finishEvaluation
  split
  · exact (Composes.refl session).shows
  · exact commit_shows session _ answer.outcome session

/-- An operation that neither ends an evaluation nor clears nor selects puts nothing on the
display. -/
theorem Composes.shows_origin {before after : Session} (h : Composes before after)
    {operation : Operation} {response : Response} (houtcome : response.outcome? = none)
    (hclears : operation.clears = false) (hentry : response.entry? = none) :
    Shows before (before.origin? operation response) after := by
  have hnone : before.origin? operation response = none := by
    simp [origin?, houtcome, hclears, hentry]
  rw [hnone]
  exact h.shows

theorem beginEvaluation_shows_origin (places : Int) (stage : Fallback.Stage) (session : Session)
    {operation : Operation} (hclears : operation.clears = false)
    (hsound : ∀ cause, (session.beginEvaluation places stage).2 ≠ .crashed cause) :
    Shows session
      (session.origin? operation (.started (session.beginEvaluation places stage).2))
      (session.beginEvaluation places stage).1 := by
  have hshows := beginEvaluation_shows places stage session hsound
  cases hended : (Response.started (session.beginEvaluation places stage).2).outcome? with
  | none => simpa [origin?, hended, hclears, Response.entry?] using hshows
  | some outcome => simpa [origin?, hended] using hshows

theorem press_shows (context : Context) (key : String) (session : Session)
    (hsound : ∀ cause, (session.press context key).2 ≠ .started (.crashed cause)) :
    Shows session (session.origin? (.press key) (session.press context key).2)
      (session.press context key).1 := by
  have hclears {key : String} (hkey : key ≠ "AC") : (Operation.press key).clears = false := by
    simp [Operation.clears, hkey]
  revert hsound
  unfold press
  split
  · rename_i hbusy
    intro _
    have hnone : session.origin? (.press key) (.accepted false) = none := by
      simp [origin?, Response.outcome?, hbusy]
    rw [hnone]
    exact (Composes.refl session).shows
  rename_i hidle
  rw [Bool.not_eq_true] at hidle
  split
  · rename_i text hinsertion
    intro _
    have hkey : key ≠ "AC" := by
      rintro rfl
      cases hinsertion
    exact (append_composes text session).shows_origin rfl (hclears hkey) rfl
  split
  · intro _
    have hcleared := clear_shows session
    rw [hidle] at hcleared
    have horigin : session.origin? (.press "AC") (.accepted session.clear.2) = some .initial := by
      simp [origin?, Response.outcome?, hidle, Operation.clears]
    rw [horigin]
    exact hcleared
  · intro hsound
    refine beginEvaluation_shows_origin context.places context.stage session
      (hclears (by decide)) ?_
    exact fun cause heq => hsound cause (congrArg Response.started heq)
  · intro _
    exact (deleteLast_composes session).shows_origin rfl (hclears (by decide)) rfl
  · intro _
    exact (toggleAngleMode_composes session).shows_origin rfl (hclears (by decide)) rfl
  · intro _
    exact (toggleModifier_composes session).shows_origin rfl (hclears (by decide)) rfl
  · intro _
    exact (toggleCapture_composes context.voice session).shows_origin rfl (hclears (by decide)) rfl
  · rename_i hkey _ _ _ _ _
    intro _
    exact (typeLiteral_composes _ session).shows_origin rfl (hclears hkey) rfl

/-- Every operation but one whose evaluation comes to grief shows what it puts on the display. Such
an evaluation leaves an empty result, which is no origin. -/
theorem perform_shows (context : Context) (operation : Operation) (session : Session)
    (hsound : ∀ cause, (session.perform context operation).2 ≠ .started (.crashed cause)) :
    Shows session (session.origin? operation (session.perform context operation).2)
      (session.perform context operation).1 := by
  cases operation with
  | press key => exact press_shows context key session hsound
  | append text => exact (append_composes text session).shows_origin rfl rfl rfl
  | typeLiteral literal => exact (typeLiteral_composes literal session).shows_origin rfl rfl rfl
  | deleteLast => exact (deleteLast_composes session).shows_origin rfl rfl rfl
  | clear => exact clear_shows session
  | toggleAngleMode => exact (toggleAngleMode_composes session).shows_origin rfl rfl rfl
  | toggleModifier => exact (toggleModifier_composes session).shows_origin rfl rfl rfl
  | evaluate =>
      refine beginEvaluation_shows_origin context.places context.stage session rfl ?_
      exact fun cause heq => hsound cause (congrArg Response.started heq)
  | answer answer =>
      have hshows := finishEvaluation_shows answer session
      cases hended : (session.finishEvaluation answer).2 with
      | none =>
          simpa [perform, origin?, hended, Response.outcome?, Operation.clears, Response.entry?]
            using hshows
      | some outcome => simpa [perform, origin?, hended, Response.outcome?] using hshows
  | selectHistory index => exact selectHistory_shows index session
  | dictate transcript => exact (dictate_composes transcript session).shows_origin rfl rfl rfl
  | startCapture => exact (startCapture_composes context.voice session).shows_origin rfl rfl rfl
  | stopCapture => exact (stopCapture_composes session).shows_origin rfl rfl rfl
  | toggleCapture => exact (toggleCapture_composes context.voice session).shows_origin rfl rfl rfl
  | submit item => exact (Composes.of_voice session _).shows_origin rfl rfl rfl
  | settle => exact (settle_composes session).shows_origin rfl rfl rfl
  | setContinuous continuous => exact (Composes.of_voice session _).shows_origin rfl rfl rfl

/-- The operations of a run pass on from each to the next what was shown last. While an evaluation
is under way nothing is claimed; its end shows an origin of its own. So the induction carries the
last origin only for the times when the session is idle. -/
theorem run_shows {steps : List Step} {session : Session}
    (hsound : ∀ event ∈ session.events steps, ∀ cause, event.response ≠ .started (.crashed cause))
    (hidle : (session.run steps).evaluating = none) (shown : Shown)
    (hshown : session.evaluating = none → session.shown = shown) :
    (session.run steps).shown = (origins steps session).getLastD shown := by
  induction steps generalizing session shown with
  | nil => exact hshown hidle
  | cons step rest ih =>
      simp only [events, List.forall_mem_cons] at hsound
      obtain ⟨hstep, hrest⟩ := hsound
      have hshows := perform_shows step.context step.operation session hstep
      cases horigin : session.origin? step.operation
          (session.perform step.context step.operation).2 with
      | some written =>
          rw [horigin] at hshows
          simp only [origins, horigin, Option.toList_some, List.singleton_append,
            List.getLastD_cons]
          exact ih hrest hidle written hshows
      | none =>
          rw [horigin] at hshows
          simp only [origins, horigin, Option.toList_none, List.nil_append]
          refine ih hrest hidle shown fun hafter => ?_
          obtain ⟨hbefore, hsame⟩ := hshows hafter
          exact hsame.trans (hshown hbefore)

/-- A failure empties the buffer at once. So what was composed for the evaluation has to be composed
again. -/
theorem Effect.buffer_of_failure {before after : Session} {response : Response}
    (h : Effect before after response) {outcome : Outcome}
    (hended : response.outcome? = some outcome)
    (hfailure : outcome.isSuccess = false) : after.buffer = "" := by
  have hcommit (input : String) : (before.commit input outcome).buffer = "" := by
    cases outcome with
    | success => cases hfailure
    | rejected | declined | unavailable => rfl
  cases h with
  | finished _ _ hafter | answered _ _ _ hafter =>
      cases hended
      rw [hafter]
      exact hcommit _
  | crashed | waiting => cases hended
  | other _ hnone _ =>
      rw [hnone] at hended
      cases hended

/-- After any operations in any order, none of which comes to grief over a result, a session that is
not evaluating shows what was put on its display last: by its creation, by a clearing, by the end of
an evaluation, or by a selection while it was not evaluating. Nothing else leaves a trace there, and
an evaluation that ends in a failure empties the buffer. -/
theorem shown_eq_last_origin (configuration : Configuration) (hasMicrophone : Bool)
    (limit : Option Int) (steps : List Step)
    (hsound : ∀ event ∈ (create configuration hasMicrophone limit).events steps,
      ∀ cause, event.response ≠ .started (.crashed cause))
    (hidle : ((create configuration hasMicrophone limit).run steps).evaluating = none) :
    ((create configuration hasMicrophone limit).run steps).shown =
        (origins steps (create configuration hasMicrophone limit)).getLastD .initial ∧
      ∀ (session : Session) (context : Context) (operation : Operation) (outcome : Outcome),
        (session.perform context operation).2.outcome? = some outcome →
        outcome.isSuccess = false → (session.perform context operation).1.buffer = "" := by
  constructor
  · exact run_shows hsound hidle .initial fun _ => rfl
  · intro session context operation outcome hended hfailure
    exact (perform_effect context operation session).buffer_of_failure hended hfailure

/-- Two evaluations that the service answers, with a selection during the second one, and then some
dictation. -/
def selectedMeanwhile : List Step :=
  [.append "(", .evaluate, .answer (.reply "5"), .append "(", .evaluate, .selectHistory 0,
    .answer (.reply "6"), .dictate "two"]
  |>.map (⟨answering, ·⟩)

theorem shown_after_selection_meanwhile :
    (∀ event ∈ (create {} true none).events selectedMeanwhile,
      ∀ cause, event.response ≠ .started (.crashed cause)) ∧
      ((create {} true none).run selectedMeanwhile).evaluating = none ∧
      ((create {} true none).run selectedMeanwhile).shown = ⟨"6", true⟩ := by
  have hresponses : ((create {} true none).events selectedMeanwhile).map (·.response) =
      [.accepted true, .started (.waiting "("), .outcome (some (.success "5" true)),
        .accepted true, .started (.waiting "5("), .entry (some ⟨"(", "5"⟩),
        .outcome (some (.success "6" true)), .appended "2"] := by decide +kernel
  have hsound : ∀ event ∈ (create {} true none).events selectedMeanwhile,
      ∀ cause, event.response ≠ .started (.crashed cause) := by
    intro event hevent cause hcrashed
    have hmem := List.mem_map_of_mem (f := Event.response) hevent
    rw [hresponses, hcrashed] at hmem
    simp at hmem
  have hidle : ((create {} true none).run selectedMeanwhile).evaluating = none := by
    decide +kernel
  obtain ⟨hshown, -⟩ := shown_eq_last_origin {} true none selectedMeanwhile hsound hidle
  refine ⟨hsound, hidle, hshown.trans ?_⟩
  decide +kernel

end Session

end Reckoner
