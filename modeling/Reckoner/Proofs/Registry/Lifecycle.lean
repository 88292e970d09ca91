import Reckoner.Proofs.Registry.Isolation
import Reckoner.Proofs.Session.Composition
import Reckoner.Proofs.Session.Dictation
import Reckoner.Proofs.Session.Freeze

/-!
The life of the sessions of a registry. Which sessions are registered is told by the creations and
removals of a run alone; the cap bounds their number and nothing else refuses a creation; and
whatever happened to a session before, its removal takes what is queued for its capture and ends
that, leaving the rest as it was.
-/

namespace Reckoner

namespace Session

open Capture

/-- The capture of the session has been closed; what was queued for it is in the buffer, unless an
evaluation is under way. -/
structure Closes (session after : Session) : Prop where
  silent : after.voice.isListening = false
  closed : after.voice.capture.isOpen = false
  buffer : after.buffer = session.buffer ++
    if session.isEvaluating then ""
    else String.join ((spoken session.voice.continuous session.voice.capture.queue).map
      Transcript.canonicalize)
  composes : Composes session after

theorem takeEvents_buffer (session : Session) (continuous : Bool) (items : List Recognition) :
    ((Capture.events continuous items).foldl takeEvent session).buffer = session.buffer ++
      if session.isEvaluating then ""
      else String.join ((spoken continuous items).map Transcript.canonicalize) := by
  cases hbusy : session.isEvaluating with
  | true => simpa using (takeEvents_of_isEvaluating hbusy (Capture.events continuous items)).buffer
  | false =>
      have hidle : session.evaluating = none := by simpa [isEvaluating] using hbusy
      rw [takeEvents_of_idle hidle]
      rfl

theorem stopCapture_of_running {session : Session} {queue : List Recognition} {isOpen : Bool}
    (h : session.voice.capture = .running queue isOpen) :
    session.stopCapture =
      { (Capture.events session.voice.continuous queue).foldl takeEvent session with
        voice := { session.voice with capture := .idle } } := by
  have hclosed := Voice.closeMicrophone_of_running h
  have hqueue : ({ session with voice := session.voice.closeMicrophone } : Session).voice.capture =
      .running queue false := by rw [hclosed]
  rw [stopCapture, settle_of_running hqueue, hclosed, takeEvents_voice]
  simp

/-- Stopping ends a capture in whatever state it is. What was queued is taken first, and where
nothing runs there is nothing to take. -/
theorem stopCapture_closes (session : Session) : Closes session session.stopCapture := by
  have hcomposes := stopCapture_composes session
  cases hcapture : session.voice.capture with
  | idle =>
      rw [stopCapture_of_idle hcapture] at hcomposes ⊢
      have hnothing : (spoken session.voice.continuous []).map Transcript.canonicalize = [] := by
        cases session.voice.continuous <;> rfl
      refine ⟨?_, ?_, ?_, hcomposes⟩
      · rw [Voice.isListening, hcapture]
        rfl
      · rw [hcapture]
        rfl
      · rw [hcapture, queue, hnothing]
        simp
  | running queue isOpen =>
      have hstopped := stopCapture_of_running hcapture
      rw [hstopped] at hcomposes ⊢
      refine ⟨rfl, rfl, ?_, hcomposes⟩
      rw [hcapture]
      exact takeEvents_buffer session session.voice.continuous queue

theorem stopCapture_capture (session : Session) : session.stopCapture.voice.capture = .idle := by
  cases hcapture : session.voice.capture with
  | idle => rw [stopCapture_of_idle hcapture, hcapture]
  | running queue isOpen => rw [stopCapture_of_running hcapture]

/-- A turn after the stop finds nothing to do, since no capture runs any more. So it does not matter
whether the other sessions wait before or after a removal. -/
theorem settle_stopCapture (session : Session) :
    session.stopCapture.settle = session.stopCapture :=
  settle_of_idle session.stopCapture_capture

/-- A turn before the stop takes what the stop would have taken. So the session is the same
afterwards, whether there was time for a turn or not. -/
theorem stopCapture_settle (session : Session) :
    session.settle.stopCapture = session.stopCapture := by
  cases hcapture : session.voice.capture with
  | idle => rw [settle_of_idle hcapture]
  | running queue isOpen =>
      have hturn := settle_of_running hcapture
      rw [stopCapture_of_running hcapture]
      rcases session.settle_capture with hidle | hwaiting
      · rw [stopCapture_of_idle hidle]
        rw [hturn] at hidle ⊢
        simp only at hidle
        rw [hidle]
      · rw [stopCapture_of_running hwaiting, hturn]
        rfl

theorem stopCapture_run_turns {steps : List Step} (h : ∀ step ∈ steps, step = .turn)
    (session : Session) : (session.run steps).stopCapture = session.stopCapture := by
  rcases run_turns h session with hsame | hsettled
  · rw [hsame]
  · rw [hsettled, stopCapture_settle]

theorem run_turns_of_stopped {steps : List Step} (h : ∀ step ∈ steps, step = .turn)
    (session : Session) : session.stopCapture.run steps = session.stopCapture := by
  rcases run_turns h session.stopCapture with hsame | hsettled
  · exact hsame
  · rw [hsettled, settle_stopCapture]

end Session

namespace Registry

open Session (Step)

/-- Does the request take the session out of the registry? A cleanup does so with every session, and
nothing else does but its own removal. -/
def Request.Discards (number : Nat) : Request → Prop
  | .remove _ other => other = number
  | .cleanup _ => True
  | _ => False

variable {registry : Registry}

theorem remove_registered (context : Session.Context) (number : Nat) (registry : Registry) :
    (registry.remove context number).1.registered = registry.registered.erase number := by
  unfold remove
  split
  · exact perform_registered context number .stopCapture
      { registry with registered := registry.registered.erase number }
  · rename_i hnot
    exact (List.erase_of_not_mem hnot).symm

theorem remove_cap (context : Session.Context) (number : Nat) (registry : Registry) :
    (registry.remove context number).1.cap = registry.cap := by
  unfold remove
  split
  · exact perform_cap context number .stopCapture
      { registry with registered := registry.registered.erase number }
  · rfl

/-- The session that is removed is stopped. It stays under its number, so that an evaluation under
way can still end in it. -/
theorem remove_sessions_self {number : Nat} (hnumber : number ∈ registry.registered)
    (context : Session.Context) :
    (registry.remove context number).1.sessions[number]? =
      registry.sessions[number]?.map Session.stopCapture := by
  rw [remove_sessions, shareOfRemoval, if_pos hnumber, shareOfOperation]
  cases hsession : registry.sessions[number]? with
  | none => rfl
  | some session =>
      simp only [if_true, Option.map_some, Option.some.injEq]
      split
      · exact session.settle_stopCapture
      · rfl

theorem shareOfRemovals_of_not_mem {number : Nat} {others : List Nat} (h : number ∉ others)
    (context : Session.Context) (registry : Registry) :
    ∀ taken ∈ shareOfRemovals number context others registry, taken = .turn := by
  induction others generalizing registry with
  | nil => simp [shareOfRemovals]
  | cons other rest ih =>
      rw [List.mem_cons, not_or] at h
      obtain ⟨hne, hrest⟩ := h
      intro taken htaken
      rw [shareOfRemovals, List.mem_append] at htaken
      have hconcerns : (Request.remove context other).Concerns other := rfl
      rcases htaken with hnow | hlater
      · exact share_of_concerns (Ne.symm hne) hconcerns registry taken hnow
      · exact ih hrest _ taken hlater

/-- Of the sessions that are removed one after the other each is stopped, whatever turns it has had
before and has afterwards. -/
theorem removals_sessions_self {numbers : List Nat} (hnodup : numbers.Nodup)
    (hregistered : ∀ number ∈ numbers, number ∈ registry.registered) (context : Session.Context)
    {number : Nat} (hnumber : number ∈ numbers) :
    (numbers.foldl (fun registry number => (registry.remove context number).1) registry).sessions[
        number]? =
      registry.sessions[number]?.map Session.stopCapture := by
  induction numbers generalizing registry with
  | nil => cases hnumber
  | cons first rest ih =>
      obtain ⟨hfirst, hrest⟩ := List.nodup_cons.mp hnodup
      rw [List.foldl_cons]
      rcases List.mem_cons.mp hnumber with rfl | hlater
      · have hturns := shareOfRemovals_of_not_mem hfirst context
          (registry.remove context number).1
        rw [removals_sessions, remove_sessions_self (hregistered number List.mem_cons_self),
          Option.map_map]
        congr 1
        funext session
        exact Session.run_turns_of_stopped hturns session
      · have hne : first ≠ number := by
          rintro rfl
          exact hfirst hlater
        have hstill : ∀ other ∈ rest, other ∈ (registry.remove context first).1.registered := by
          intro other hother
          have hdifferent : other ≠ first := by
            rintro rfl
            exact hfirst hother
          rw [remove_registered, List.mem_erase_of_ne hdifferent]
          exact hregistered other (List.mem_cons_of_mem _ hother)
        have hconcerns : (Request.remove context first).Concerns first := rfl
        have hturns := share_of_concerns hne hconcerns registry
        rw [ih hrest hstill hlater, remove_sessions, Option.map_map]
        congr 1
        funext session
        exact Session.stopCapture_run_turns hturns session

theorem foldl_erase_self (numbers : List Nat) : numbers.foldl List.erase numbers = [] := by
  induction numbers with
  | nil => rfl
  | cons number rest ih => rw [List.foldl_cons, List.erase_cons_head, ih]

theorem removals_registered (context : Session.Context) (numbers : List Nat) (registry : Registry) :
    (numbers.foldl (fun registry number => (registry.remove context number).1) registry
      ).registered = numbers.foldl List.erase registry.registered := by
  induction numbers generalizing registry with
  | nil => rfl
  | cons number rest ih => rw [List.foldl_cons, ih, remove_registered, List.foldl_cons]

theorem cleanup_registered (context : Session.Context) (registry : Registry) :
    (registry.cleanup context).registered = [] := by
  rw [cleanup, removals_registered, foldl_erase_self]

theorem cleanup_cap (context : Session.Context) (registry : Registry) :
    (registry.cleanup context).cap = registry.cap := by
  unfold cleanup
  generalize registry.registered = numbers
  induction numbers generalizing registry with
  | nil => rfl
  | cons number rest ih => rw [List.foldl_cons, ih, remove_cap]

/-- A registry under a cap: no session is registered twice, every registered one exists, and there
are no more of them than the cap allows. -/
structure Sound (limit : Int) (registry : Registry) : Prop where
  cap : registry.cap = limit
  nodup : registry.registered.Nodup
  known : ∀ number ∈ registry.registered, number < registry.sessions.length
  bounded : (registry.size : Int) ≤ max 0 limit

theorem Sound.of_sublist {limit : Int} {before after : Registry} (h : Sound limit before)
    (hcap : after.cap = before.cap) (hregistered : after.registered.Sublist before.registered)
    (hlength : before.sessions.length ≤ after.sessions.length) : Sound limit after where
  cap := hcap.trans h.cap
  nodup := h.nodup.sublist hregistered
  known := fun number hnumber =>
    Nat.lt_of_lt_of_le (h.known number (hregistered.subset hnumber)) hlength
  bounded := by
    have hsize : after.size ≤ before.size := hregistered.length_le
    have hbounded := h.bounded
    omega

theorem Sound.add {limit : Int} (h : Sound limit registry) (session : Session) :
    Sound limit (registry.add session).1 := by
  unfold Registry.add
  split
  · exact h
  · rename_i hroom
    rw [h.cap] at hroom
    refine ⟨h.cap, ?_, ?_, ?_⟩
    · refine List.nodup_append.mpr ⟨h.nodup, by simp, ?_⟩
      intro number hnumber other hother
      have hlt := h.known number hnumber
      rw [List.mem_singleton] at hother
      omega
    · intro number hnumber
      simp only [List.mem_append, List.mem_singleton, List.length_append, List.length_singleton]
        at hnumber ⊢
      rcases hnumber with hold | rfl
      · exact Nat.lt_succ_of_lt (h.known number hold)
      · exact Nat.lt_succ_self _
    · simp only [size, List.length_append, List.length_singleton] at hroom ⊢
      omega

/-- Every request keeps to the cap: only a creation adds a session, and it looks at the cap first. A
removal and a cleanup can only take sessions out. -/
theorem Sound.handle {limit : Int} (h : Sound limit registry) (request : Request) :
    Sound limit (registry.handle request).1 := by
  have hlength := length_le_handle request registry
  cases request with
  | create configuration => exact h.add _
  | get number => exact h
  | remove context number =>
      refine h.of_sublist (remove_cap context number registry) ?_ hlength
      have herased : (registry.handle (.remove context number)).1.registered =
          registry.registered.erase number := remove_registered context number registry
      rw [herased]
      exact List.erase_sublist
  | cleanup context =>
      refine h.of_sublist (cleanup_cap context registry) ?_ hlength
      have hempty : (registry.handle (.cleanup context)).1.registered = [] :=
        cleanup_registered context registry
      rw [hempty]
      exact List.nil_sublist _
  | operate number step =>
      refine h.of_sublist (perform_cap _ _ _ registry) ?_ hlength
      exact (perform_registered step.context number step.operation registry) ▸ List.Sublist.refl _
  | settle => exact h.of_sublist rfl (List.Sublist.refl _) hlength

theorem Sound.run {limit : Int} (h : Sound limit registry) (requests : List Request) :
    Sound limit (registry.run requests) := by
  induction requests generalizing registry with
  | nil => exact h
  | cons request rest ih => exact ih (h.handle request)

theorem sound_create (given : Option Int) (settings : Settings) :
    Sound (effectiveCap given settings) (create given settings) :=
  ⟨rfl, List.nodup_nil, by rintro number ⟨⟩, Int.le_max_left 0 _⟩

/-- A session is registered after a request if it was before and is not discarded, or is created. So
a single request settles its registration, whatever the session itself is like. -/
theorem Sound.mem_handle_iff {limit : Int} (h : Sound limit registry) (request : Request)
    (number : Nat) :
    number ∈ (registry.handle request).1.registered ↔
      number ∈ registry.registered ∧ ¬ request.Discards number ∨
        (registry.handle request).2 = .created (.ok number) := by
  cases request with
  | create configuration =>
      simp only [Registry.handle, Registry.add, Request.Discards]
      split
      · simp [Prod.map]
      · simp [Prod.map, eq_comm]
  | get other => simp [Registry.handle, Request.Discards]
  | remove context other =>
      simp only [Registry.handle, Prod.map, id_eq, remove_registered, h.nodup.mem_erase_iff,
        Request.Discards, reduceCtorEq, or_false]
      rw [and_comm, ne_comm]
  | cleanup context => simp [Registry.handle, cleanup_registered, Request.Discards]
  | operate other step => simp [Registry.handle, Prod.map, perform_registered, Request.Discards]
  | settle => simp [Registry.handle, settle, Request.Discards]

/-- In the run the request after `front` creates the session, and `back` is what follows. Numbers
are given once, so there is at most one such place. -/
structure Creation (start : Registry) (requests : List Request) (number : Nat)
    (configuration : Configuration) (front back : List Request) : Prop where
  split : requests = front ++ .create configuration :: back
  reply : ((start.run front).handle (.create configuration)).2 = .created (.ok number)

theorem Creation.cons {request : Request} {requests : List Request} {number : Nat}
    {configuration : Configuration} {front back : List Request}
    (h : Creation (registry.handle request).1 requests number configuration front back) :
    Creation registry (request :: requests) number configuration (request :: front) back :=
  ⟨by rw [h.split]; rfl, h.reply⟩

/-- A session is registered after a run if it was before, or is created on the way, and is not
discarded from then on. The induction is on the run; a creation by its first request has nothing in
front of it. -/
theorem Sound.mem_run_iff {limit : Int} (h : Sound limit registry) (requests : List Request)
    (number : Nat) :
    number ∈ (registry.run requests).registered ↔
      number ∈ registry.registered ∧ (∀ request ∈ requests, ¬ request.Discards number) ∨
        ∃ configuration front back, Creation registry requests number configuration front back ∧
          ∀ request ∈ back, ¬ request.Discards number := by
  induction requests generalizing registry with
  | nil =>
      constructor
      · intro hnumber
        exact Or.inl ⟨hnumber, by simp⟩
      · rintro (⟨hnumber, -⟩ | ⟨_, front, _, hcreation, -⟩)
        · exact hnumber
        · simpa using hcreation.split
  | cons request rest ih =>
      have hlater := ih (h.handle request)
      rw [h.mem_handle_iff] at hlater
      refine hlater.trans ?_
      constructor
      · rintro (⟨⟨hnumber, hkept⟩ | hcreated, hrest⟩ |
          ⟨configuration, front, back, hcreation, hback⟩)
        · exact Or.inl ⟨hnumber, List.forall_mem_cons.mpr ⟨hkept, hrest⟩⟩
        · cases request with
          | create configuration =>
              exact Or.inr ⟨configuration, [], rest, ⟨rfl, hcreated⟩, hrest⟩
          | get | remove | cleanup | operate | settle => cases hcreated
        · exact Or.inr ⟨configuration, request :: front, back, hcreation.cons, hback⟩
      · rintro (⟨hnumber, hkept⟩ | ⟨configuration, front, back, hcreation, hback⟩)
        · obtain ⟨hfirst, hrest⟩ := List.forall_mem_cons.mp hkept
          exact Or.inl ⟨Or.inl ⟨hnumber, hfirst⟩, hrest⟩
        · obtain ⟨hsplit, hreply⟩ := hcreation
          cases front with
          | nil =>
              obtain ⟨rfl, rfl⟩ := List.cons.inj hsplit
              exact Or.inl ⟨Or.inr hreply, hback⟩
          | cons first front =>
              obtain ⟨rfl, rfl⟩ := List.cons.inj hsplit
              exact Or.inr ⟨configuration, front, back, ⟨rfl, hreply⟩, hback⟩

/-- The session that a run creates is found under its number, with its share of what follows. What
came before its creation has no part in it. A session is numbered by its place, so the place of the
new one is the number of sessions so far. -/
theorem Creation.sessions {start : Registry} {requests : List Request} {number : Nat}
    {configuration : Configuration} {front back : List Request}
    (h : Creation start requests number configuration front back) :
    (start.run requests).sessions[number]? =
      some ((Session.create configuration true none).run
        (trail number back ((start.run front).handle (.create configuration)).1)) := by
  obtain ⟨rfl, hreply⟩ := h
  have hrun : start.run (front ++ .create configuration :: back) =
      (((start.run front).handle (.create configuration)).1).run back := List.foldl_append
  have hadded : ((start.run front).handle (.create configuration)).1.sessions =
        (start.run front).sessions ++ [Session.create configuration true none] ∧
      number = (start.run front).sessions.length := by
    simp only [handle, add] at hreply ⊢
    split at hreply
    · cases hreply
    · rename_i hroom
      cases hreply
      rw [if_neg hroom]
      exact ⟨rfl, rfl⟩
  have hlength : number < ((start.run front).handle (.create configuration)).1.sessions.length := by
    rw [hadded.1, hadded.2]
    simp
  rw [hrun, run_sessions hlength, hadded.1, hadded.2, List.getElem?_concat_length]
  rfl

theorem Sound.get?_eq {limit : Int} (h : Sound limit registry) {number : Nat}
    (hnumber : number ∈ registry.registered) :
    ∃ session, registry.get? number = some session ∧ registry.sessions[number]? = some session := by
  have hlength := h.known number hnumber
  refine ⟨registry.sessions[number], ?_, List.getElem?_eq_getElem hlength⟩
  rw [get?, if_pos hnumber]
  exact List.getElem?_eq_getElem hlength

theorem Sound.handle_create {limit : Int} (h : Sound limit registry)
    (configuration : Configuration) :
    ((registry.handle (.create configuration)).2 = .created (.error .full) ↔
        limit ≤ registry.size) ∧
      (limit ≤ registry.size → (registry.handle (.create configuration)).1 = registry) := by
  rw [← h.cap]
  simp only [Registry.handle, Registry.add]
  split
  · rename_i hfull
    exact ⟨⟨fun _ => hfull, fun _ => rfl⟩, fun _ => rfl⟩
  · rename_i hroom
    refine ⟨⟨fun hreply => ?_, fun hfull => absurd hfull hroom⟩, fun hfull => absurd hfull hroom⟩
    cases hreply

theorem remove_snd_iff (context : Session.Context) (number : Nat) (registry : Registry) :
    (registry.remove context number).2 = true ↔ number ∈ registry.registered := by
  unfold remove
  split
  · simpa
  · simpa

/-- From the first request on, whatever is asked in whatever order. The registered sessions are
those that were created and not discarded since, each of them once, and never more than the cap; a
creation is refused exactly if there are as many already, and changes nothing then. What is got
under a number is the session that was created under it, as its own share has made it, while it is
registered, and nothing otherwise. A removal succeeds exactly if the session is registered, and
changes nothing else; it takes the session out and closes its capture, as a cleanup does with all of
them. -/
theorem lifecycle_of_run (given : Option Int) (settings : Settings)
    (requests : List Request) :
    let start := create given settings
    let registry := start.run requests
    (∀ number, number ∈ registry.registered ↔
      ∃ configuration front back, Creation start requests number configuration front back ∧
        ∀ request ∈ back, ¬ request.Discards number) ∧
    (registry.registered.Nodup ∧ (registry.size : Int) ≤ max 0 (effectiveCap given settings)) ∧
    (∀ configuration,
      ((registry.handle (.create configuration)).2 = .created (.error .full) ↔
        effectiveCap given settings ≤ registry.size) ∧
      (effectiveCap given settings ≤ registry.size →
        (registry.handle (.create configuration)).1 = registry)) ∧
    (∀ number,
      (number ∉ registry.registered → registry.get? number = none) ∧
      (number ∈ registry.registered → ∀ configuration front back,
        Creation start requests number configuration front back →
        registry.get? number = some ((Session.create configuration true none).run
          (trail number back ((start.run front).handle (.create configuration)).1)))) ∧
    (∀ context number,
      ((registry.remove context number).2 = true ↔ number ∈ registry.registered) ∧
      (number ∉ registry.registered → (registry.remove context number).1 = registry) ∧
      (number ∈ registry.registered →
        (registry.remove context number).1.registered = registry.registered.erase number ∧
        ∃ session after, registry.get? number = some session ∧
          (registry.remove context number).1.sessions[number]? = some after ∧
          session.Closes after)) ∧
    ∀ context,
      (registry.cleanup context).registered = [] ∧
      ∀ number ∈ registry.registered,
        ∃ session after, registry.get? number = some session ∧
          (registry.cleanup context).sessions[number]? = some after ∧ session.Closes after := by
  intro start registry
  have hstart : Sound (effectiveCap given settings) start := sound_create given settings
  have hsound : Sound (effectiveCap given settings) registry := hstart.run requests
  refine ⟨fun number => ?_, ⟨hsound.nodup, hsound.bounded⟩, hsound.handle_create, ?_, ?_, ?_⟩
  · have hmem := hstart.mem_run_iff requests number
    have hnew : number ∉ start.registered := List.not_mem_nil
    simpa [hnew] using hmem
  · intro number
    refine ⟨fun hnumber => by rw [get?, if_neg hnumber], ?_⟩
    intro hnumber configuration front back hcreation
    rw [get?, if_pos hnumber]
    exact hcreation.sessions
  · intro context number
    refine ⟨remove_snd_iff context number registry, ?_, ?_⟩
    · intro hnumber
      rw [remove, if_neg hnumber]
    · intro hnumber
      obtain ⟨session, hget, hsession⟩ := hsound.get?_eq hnumber
      refine ⟨remove_registered context number registry, session, session.stopCapture, hget, ?_,
        session.stopCapture_closes⟩
      rw [remove_sessions_self hnumber, hsession, Option.map_some]
  · intro context
    refine ⟨cleanup_registered context registry, fun number hnumber => ?_⟩
    obtain ⟨session, hget, hsession⟩ := hsound.get?_eq hnumber
    refine ⟨session, session.stopCapture, hget, ?_, session.stopCapture_closes⟩
    rw [cleanup, removals_sessions_self hsound.nodup (fun _ => id) context hnumber, hsession,
      Option.map_some]

/-- A registry with room for one session, in which a creation is refused until the first session is
removed. -/
def replaced : List Request :=
  [.create {}, .create {}, .remove Session.answering 0, .create {}]

theorem replaced_lives :
    let registry := (create (some 1) {}).run replaced
    0 ∉ registry.registered ∧ 1 ∈ registry.registered ∧ registry.get? 0 = none ∧
      registry.get? 1 = some (Session.create {} true none) ∧
      (registry.handle (.create {})).2 = .created (.error .full) ∧
      (registry.remove Session.answering 1).2 = true := by
  intro registry
  obtain ⟨hregistered, -, hcreate, hget, hremove, -⟩ := lifecycle_of_run (some 1) {} replaced
  have hcreation : Creation (create (some 1) {}) replaced 1 {}
      [.create {}, .create {}, .remove Session.answering 0] [] := ⟨rfl, by rfl⟩
  have hgone : 0 ∉ registry.registered := by decide +kernel
  have hstays : 1 ∈ registry.registered := (hregistered 1).mpr ⟨_, _, _, hcreation, by simp⟩
  have hfull : effectiveCap (some 1) {} ≤ registry.size := by decide +kernel
  exact ⟨hgone, hstays, (hget 0).1 hgone, (hget 1).2 hstays _ _ _ hcreation,
    (hcreate {}).1.mpr hfull, (hremove _ 1).1.mpr hstays⟩

end Registry

end Reckoner
