import Reckoner.Proofs.Registry.Run

/-!
Sessions of one registry do not disturb each other. Whatever is done to one of them, its evaluations
with their waiting and its removal included, the share of another session is made of turns of its
own capture, and of the answers to an evaluation of its own that was under way. Without such an
answer it is the same session as before, or the session after one turn.
-/

namespace Reckoner

namespace Session

/-- Any number of turns is as good as one, since the first takes all that is queued. So it does not
matter how often the other sessions wait. -/
theorem run_turns {steps : List Step} (h : ∀ step ∈ steps, step = .turn) (session : Session) :
    session.run steps = session ∨ session.run steps = session.settle := by
  induction steps generalizing session with
  | nil => exact Or.inl rfl
  | cons step rest ih =>
      obtain ⟨rfl, hrest⟩ := List.forall_mem_cons.mp h
      have hafter : session.run (.turn :: rest) = session.settle.run rest := rfl
      rw [hafter]
      rcases ih hrest session.settle with hsame | hsettled
      · exact Or.inr hsame
      · exact Or.inr (hsettled.trans session.settle_settle)

end Session

namespace Registry

open Session (Step)

/-- Is the request an operation on the session, or its removal? A cleanup concerns all sessions, and
a creation or a look none. -/
def Request.Concerns (number : Nat) : Request → Prop
  | .operate other _ | .remove _ other => other = number
  | _ => False

/-- Is the request the end of an evaluation of the session? It may come while another session is at
work, at any time. -/
def Request.Answers (number : Nat) (request : Request) : Prop :=
  ∃ context answer, request = .operate number ⟨context, .answer answer⟩

variable {registry : Registry} {a b : Nat}

theorem shareOfOperation_of_ne (hne : a ≠ b) (step : Step) (registry : Registry) :
    ∀ taken ∈ registry.shareOfOperation b a step, taken = .turn := by
  unfold shareOfOperation
  cases registry.sessions[a]? with
  | none => simp
  | some session =>
      intro taken htaken
      simp only [if_neg hne, List.nil_append] at htaken
      split at htaken
      · exact List.mem_singleton.mp htaken
      · cases htaken

/-- Whatever is done to one session gives another at most a turn, namely when something waits in the
meantime. -/
theorem share_of_concerns (hne : a ≠ b) {request : Request} (h : request.Concerns a)
    (registry : Registry) : ∀ taken ∈ registry.share b request, taken = .turn := by
  cases request with
  | operate other step =>
      obtain rfl : other = a := h
      exact shareOfOperation_of_ne hne step registry
  | remove context other =>
      obtain rfl : other = a := h
      simp only [share, shareOfRemoval]
      split
      · exact shareOfOperation_of_ne hne _ registry
      · simp
  | create | get | cleanup | settle => exact h.elim

/-- The end of an evaluation does not wait for anything. So the session that it belongs to gets the
answer and no turn with it. -/
theorem share_of_answer (context : Session.Context) (answer : Fallback.Answer)
    (registry : Registry) :
    ∀ taken ∈ registry.share b (.operate b ⟨context, .answer answer⟩),
      taken = ⟨context, .answer answer⟩ := by
  simp only [share, shareOfOperation]
  cases registry.sessions[b]? with
  | none => simp
  | some session =>
      intro taken htaken
      simpa [Session.suspends] using htaken

/-- What is taken in a run about one session by another: turns, and the answers that the run gives
to it. -/
theorem trail_of_concerns (hne : a ≠ b) {requests : List Request}
    (h : ∀ request ∈ requests, request.Concerns a ∨ request.Answers b) (registry : Registry) :
    ∀ taken ∈ trail b requests registry, taken = .turn ∨
      ∃ answer, taken.operation = .answer answer ∧ .operate b taken ∈ requests := by
  induction requests generalizing registry with
  | nil => simp [trail]
  | cons request rest ih =>
      obtain ⟨hfirst, hrest⟩ := List.forall_mem_cons.mp h
      intro taken htaken
      rw [trail, List.mem_append] at htaken
      rcases htaken with hnow | hlater
      · rcases hfirst with hconcerns | ⟨context, answer, rfl⟩
        · exact Or.inl (share_of_concerns hne hconcerns registry taken hnow)
        · obtain rfl := share_of_answer context answer registry taken hnow
          exact Or.inr ⟨answer, rfl, List.mem_cons_self⟩
      · rcases ih hrest (registry.handle request).1 taken hlater with
          hturn | ⟨answer, hanswer, hmem⟩
        · exact Or.inl hturn
        · exact Or.inr ⟨answer, hanswer, List.mem_cons_of_mem _ hmem⟩

/-- In a run about one session alone another gets turns of its capture, if anything. So it is as it
was, or as it is after a single turn. -/
theorem run_of_concerns (hne : a ≠ b) {requests : List Request}
    (h : ∀ request ∈ requests, request.Concerns a) (hb : b < registry.sessions.length) :
    (registry.run requests).sessions[b]? = registry.sessions[b]? ∨
      (registry.run requests).sessions[b]? = registry.sessions[b]?.map Session.settle := by
  have hturns : ∀ taken ∈ trail b requests registry, taken = .turn := by
    intro taken htaken
    have hcases := trail_of_concerns hne (fun request member => Or.inl (h request member)) registry
    rcases hcases taken htaken with hturn | ⟨answer, -, hmem⟩
    · exact hturn
    · exact absurd (h _ hmem).symm hne
  rw [run_sessions hb, List.getElem?_eq_getElem hb, Option.map_some, Option.map_some]
  rcases Session.run_turns hturns registry.sessions[b] with hsame | hsettled
  · exact Or.inl (congrArg some hsame)
  · exact Or.inr (congrArg some hsettled)

theorem mem_registered_of_concerns (hne : a ≠ b) {requests : List Request}
    (h : ∀ request ∈ requests, request.Concerns a ∨ request.Answers b) (registry : Registry) :
    b ∈ (registry.run requests).registered ↔ b ∈ registry.registered := by
  induction requests generalizing registry with
  | nil => rfl
  | cons request rest ih =>
      obtain ⟨hfirst, hrest⟩ := List.forall_mem_cons.mp h
      refine (ih hrest (registry.handle request).1).trans ?_
      rcases hfirst with hconcerns | ⟨context, answer, rfl⟩
      · cases request with
        | operate other step =>
            have hsame : (registry.handle (.operate other step)).1.registered =
                registry.registered := perform_registered _ _ _ registry
            rw [hsame]
        | remove context other =>
            obtain rfl : other = a := hconcerns
            simp only [handle, remove]
            split
            · simp only [Prod.map, id_eq, perform_registered]
              exact List.mem_erase_of_ne hne.symm
            · rfl
        | create | get | cleanup | settle => exact hconcerns.elim
      · have hsame : (registry.handle (.operate b ⟨context, .answer answer⟩)).1.registered =
            registry.registered := perform_registered _ _ _ registry
        rw [hsame]

/-- An operation carried to its end is one or two requests about its session: the operation itself,
and the answer if the service is asked. Both concern the session, so what is shown of runs covers
whole operations too. -/
theorem complete_eq_run (context : Session.Context) (number : Nat) (operation : Session.Operation)
    (service : Fallback.Service) (registry : Registry) :
    ∃ requests : List Request, (∀ request ∈ requests, request.Concerns number) ∧
      (registry.complete context number operation service).1 = registry.run requests := by
  have hfirst : (Request.operate number ⟨context, operation⟩).Concerns number := rfl
  unfold complete
  cases hquestion : (registry.perform context number operation).2.bind
      Session.Response.question? with
  | none =>
      refine ⟨[.operate number ⟨context, operation⟩], by simpa using hfirst, ?_⟩
      simp only [hquestion]
      rfl
  | some text =>
      have hsecond : (Request.operate number
          ⟨context, .answer (service.ask context.timeAllowed text).1⟩).Concerns number := rfl
      refine ⟨[.operate number ⟨context, operation⟩,
        .operate number ⟨context, .answer (service.ask context.timeAllowed text).1⟩], ?_, ?_⟩
      · intro request hrequest
        simp only [List.mem_cons, List.not_mem_nil, or_false] at hrequest
        rcases hrequest with rfl | rfl
        · exact hfirst
        · exact hsecond
      · simp only [hquestion]
        rfl

/-- Whatever is done to a session (operations of any kind, an evaluation with its waiting and its
end, its removal), another session of the registry stays registered or not as it was, and becomes
what its own share makes of it: turns of its capture, and the answers given meanwhile to an
evaluation of its own. Without such an answer it stays the same in every field, or is the session
after one turn; and so it is when an operation is carried to its end with the service at hand. -/
theorem others_undisturbed (registry : Registry) {a b : Nat} (hne : a ≠ b)
    (hb : b < registry.sessions.length) (requests : List Request)
    (h : ∀ request ∈ requests, request.Concerns a ∨ request.Answers b) :
    (b ∈ (registry.run requests).registered ↔ b ∈ registry.registered) ∧
      (registry.run requests).sessions[b]? =
        registry.sessions[b]?.map (·.run (trail b requests registry)) ∧
      (∀ taken ∈ trail b requests registry, taken = .turn ∨
        ∃ answer, taken.operation = .answer answer ∧ .operate b taken ∈ requests) ∧
      ((∀ request ∈ requests, request.Concerns a) →
        (registry.run requests).sessions[b]? = registry.sessions[b]? ∨
          (registry.run requests).sessions[b]? = registry.sessions[b]?.map Session.settle) ∧
      ∀ (context : Session.Context) (operation : Session.Operation) (service : Fallback.Service),
        (registry.complete context a operation service).1.sessions[b]? = registry.sessions[b]? ∨
          (registry.complete context a operation service).1.sessions[b]? =
            registry.sessions[b]?.map Session.settle := by
  refine ⟨mem_registered_of_concerns hne h registry, run_sessions hb requests,
    trail_of_concerns hne h registry, fun hconcerns => run_of_concerns hne hconcerns hb, ?_⟩
  intro context operation service
  obtain ⟨completing, hconcerns, hcomplete⟩ :=
    complete_eq_run context a operation service registry
  rw [hcomplete]
  exact run_of_concerns hne hconcerns hb

/-- Two sessions, of which the second listens and waits for the service, with an item queued. So it
has everything under way that another session might disturb. -/
def shared : Registry :=
  ({ cap := 2 } : Registry).run ([.create {}, .create {}] ++
    ([.append "(", .evaluate, .startCapture, .submit (.heard "two" true)].map
      fun operation => .operate 1 ⟨Session.answering, operation⟩))

/-- An evaluation of the first session, during which that of the second ends, and a removal of the
first once its own has ended. -/
def firstUsed : List Request :=
  [.operate 0 ⟨Session.answering, .append "("⟩, .operate 0 ⟨Session.answering, .evaluate⟩,
    .operate 1 ⟨Session.answering, .answer (.reply "6")⟩,
    .operate 0 ⟨Session.answering, .answer (.reply "5")⟩, .remove Session.answering 0]

theorem second_undisturbed :
    0 ≠ 1 ∧ 1 < shared.sessions.length ∧
      (∀ request ∈ firstUsed, request.Concerns 0 ∨ request.Answers 1) ∧
      (1 ∈ (shared.run firstUsed).registered ↔ 1 ∈ shared.registered) ∧
      (shared.run firstUsed).sessions[1]?.map (fun session => (session.buffer, session.result)) =
        some ("6", "6") := by
  have hlength : 1 < shared.sessions.length := by decide +kernel
  have hfirst : ∀ request ∈ firstUsed, request.Concerns 0 ∨ request.Answers 1 := by
    simp [firstUsed, Request.Concerns, Request.Answers]
  obtain ⟨hregistered, hsession, -⟩ :=
    others_undisturbed shared Nat.zero_ne_one hlength firstUsed hfirst
  refine ⟨Nat.zero_ne_one, hlength, hfirst, hregistered, ?_⟩
  rw [hsession]
  decide +kernel

end Registry

end Reckoner
