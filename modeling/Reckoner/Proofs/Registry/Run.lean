import Reckoner.Proofs.Session.Capture
import Reckoner.Proofs.Session.Run
import Reckoner.Registry

/-!
Runs of a registry. What a run does to one session is told by the session's share of it: the
operations on this very session, and a turn of its capture whenever something waits. Whatever else
is asked of the registry, the session afterwards is the session run on its share.
-/

namespace Reckoner

namespace Session

/-- The turn of a capture. No context bears on it, so it is given any; turns are then all the same
step. -/
def Step.turn : Step := ⟨answering, .settle⟩

theorem run_append (front back : List Step) (session : Session) :
    session.run (front ++ back) = (session.run front).run back := List.foldl_append

theorem settle_of_waiting {session : Session} (h : session.voice.capture = .running [] true) :
    session.settle = session := by
  simp only [settle, Voice.settle, h, Capture.settle, Capture.drain, if_true, List.foldl_nil,
    Voice.with_capture h]

/-- A turn leaves a capture that has ended or that waits with nothing queued. Whatever was queued
has been taken or dropped by then. -/
theorem settle_capture (session : Session) :
    session.settle.voice.capture = .idle ∨ session.settle.voice.capture = .running [] true := by
  cases hcapture : session.voice.capture with
  | idle =>
      rw [settle_of_idle hcapture]
      exact Or.inl hcapture
  | running queue isOpen =>
      rw [settle_of_running hcapture]
      dsimp only
      split
      · exact Or.inl rfl
      · exact Or.inr rfl

/-- A second turn finds nothing that the first has left. So turns may be counted as one, however
often something waits. -/
theorem settle_settle (session : Session) : session.settle.settle = session.settle := by
  rcases session.settle_capture with hidle | hwaiting
  · exact settle_of_idle hidle
  · exact settle_of_waiting hwaiting

end Session

namespace Registry

open Session (Step)

/-- What is asked of a registry. Sessions are named by their numbers, and an operation brings the
context it is made in. -/
inductive Request where
  | create (configuration : Configuration)
  | get (number : Nat)
  | remove (context : Session.Context) (number : Nat)
  | cleanup (context : Session.Context)
  /-- An operation on a session that was got before. It may have been removed since. -/
  | operate (number : Nat) (step : Step)
  /-- The captures of all sessions get their turn. -/
  | settle

inductive Reply where
  | created (number : Except LimitError Nat)
  | got (session : Option Session)
  | removed (wasRegistered : Bool)
  | performed (response : Option Session.Response)
  | done

def handle (request : Request) (registry : Registry) : Registry × Reply :=
  match request with
  | .create configuration =>
    (registry.add (Session.create configuration true none)).map id .created
  | .get number => (registry, .got (registry.get? number))
  | .remove context number => (registry.remove context number).map id .removed
  | .cleanup context => (registry.cleanup context, .done)
  | .operate number step =>
    (registry.perform step.context number step.operation).map id .performed
  | .settle => (registry.settle, .done)

/-- The registry after some requests, one after the other. The replies are left aside; they are told
by the registry before each request. -/
def run (requests : List Request) (registry : Registry) : Registry :=
  requests.foldl (fun registry request => (registry.handle request).1) registry

/-- The share of a session in an operation on this or another session: the operation itself if it is
its own, and a turn if the operation waits. -/
def shareOfOperation (number other : Nat) (step : Step) (registry : Registry) : List Step :=
  match registry.sessions[other]? with
  | none => []
  | some session =>
    (if other = number then [step] else []) ++
      if session.suspends step.context step.operation then [.turn] else []

def shareOfRemoval (number : Nat) (context : Session.Context) (other : Nat) (registry : Registry) :
    List Step :=
  if other ∈ registry.registered then
    registry.shareOfOperation number other ⟨context, .stopCapture⟩
  else []

/-- The share of a session in the removal of several sessions one after the other. Each removal
finds the registry as the one before has left it. -/
def shareOfRemovals (number : Nat) (context : Session.Context) :
    List Nat → Registry → List Step
  | [], _ => []
  | other :: rest, registry =>
    registry.shareOfRemoval number context other ++
      shareOfRemovals number context rest (registry.remove context other).1

def share (number : Nat) (request : Request) (registry : Registry) : List Step :=
  match request with
  | .create _ | .get _ => []
  | .remove context other => registry.shareOfRemoval number context other
  | .cleanup context => registry.shareOfRemovals number context registry.registered
  | .operate other step => registry.shareOfOperation number other step
  | .settle => [.turn]

/-- The share of a session in a run. Of the other sessions it shows only when they wait, as
turns. -/
def trail (number : Nat) : List Request → Registry → List Step
  | [], _ => []
  | request :: rest, registry =>
    registry.share number request ++ trail number rest (registry.handle request).1

variable {registry : Registry}

theorem perform_registered (context : Session.Context) (number : Nat)
    (operation : Session.Operation) (registry : Registry) :
    (registry.perform context number operation).1.registered = registry.registered := by
  unfold perform
  cases registry.sessions[number]? with
  | none => rfl
  | some session =>
      dsimp only
      split <;> rfl

theorem perform_cap (context : Session.Context) (number : Nat)
    (operation : Session.Operation) (registry : Registry) :
    (registry.perform context number operation).1.cap = registry.cap := by
  unfold perform
  cases registry.sessions[number]? with
  | none => rfl
  | some session =>
      dsimp only
      split <;> rfl

/-- After an operation on any session, a session is what its share makes of it. The turns come after
the operation, when it waits. Setting a session at its place leaves what stands at the other
places. -/
theorem perform_sessions (number other : Nat) (step : Step) (registry : Registry) :
    (registry.perform step.context other step.operation).1.sessions[number]? =
      registry.sessions[number]?.map (·.run (registry.shareOfOperation number other step)) := by
  unfold perform shareOfOperation
  cases hother : registry.sessions[other]? with
  | none => exact Option.map_id'.symm
  | some session =>
      have hset : (registry.sessions.set other
          (session.perform step.context step.operation).1)[number]? =
          registry.sessions[number]?.map
            (·.run (if other = number then [step] else [])) := by
        by_cases hsame : other = number
        · subst hsame
          have hlength : other < registry.sessions.length :=
            (List.getElem?_eq_some_iff.mp hother).1
          rw [List.getElem?_set_self hlength, hother, if_pos rfl]
          rfl
        · rw [List.getElem?_set_ne hsame, if_neg hsame]
          exact Option.map_id'.symm
      cases hsuspends : session.suspends step.context step.operation with
      | true =>
          simp only [hsuspends, settle, List.getElem?_map, hset, Option.map_map, if_true]
          congr 1
          funext before
          exact (Session.run_append _ [.turn] before).symm
      | false =>
          simp only [hsuspends, Bool.false_eq_true, if_false, List.append_nil]
          exact hset

theorem remove_sessions (number : Nat) (context : Session.Context) (other : Nat)
    (registry : Registry) :
    (registry.remove context other).1.sessions[number]? =
      registry.sessions[number]?.map (·.run (registry.shareOfRemoval number context other)) := by
  unfold remove shareOfRemoval
  split
  · exact perform_sessions number other ⟨context, .stopCapture⟩
      { registry with registered := registry.registered.erase other }
  · exact Option.map_id'.symm

theorem removals_sessions (number : Nat) (context : Session.Context) (others : List Nat)
    (registry : Registry) :
    (others.foldl (fun registry other => (registry.remove context other).1) registry).sessions[
        number]? =
      registry.sessions[number]?.map (·.run (shareOfRemovals number context others registry)) := by
  induction others generalizing registry with
  | nil => exact Option.map_id'.symm
  | cons other rest ih =>
      rw [List.foldl_cons, ih, remove_sessions, Option.map_map]
      congr 1
      funext before
      exact (Session.run_append _ _ before).symm

/-- A request makes of a session that exists what the session's share makes of it. For the session
that a creation adds there is nothing before it, hence the condition. -/
theorem handle_sessions {number : Nat} (hnumber : number < registry.sessions.length)
    (request : Request) :
    (registry.handle request).1.sessions[number]? =
      registry.sessions[number]?.map (·.run (registry.share number request)) := by
  cases request with
  | create configuration =>
      have hsame : registry.sessions[number]?.map (·.run []) = registry.sessions[number]? :=
        Option.map_id'
      simp only [handle, add, share, hsame]
      split
      · rfl
      · exact List.getElem?_append_left hnumber
  | get other => exact Option.map_id'.symm
  | remove context other => exact remove_sessions number context other registry
  | cleanup context => exact removals_sessions number context registry.registered registry
  | operate other step => exact perform_sessions number other step registry
  | settle => exact List.getElem?_map

theorem perform_length (context : Session.Context) (number : Nat) (operation : Session.Operation)
    (registry : Registry) :
    (registry.perform context number operation).1.sessions.length = registry.sessions.length := by
  unfold perform
  cases registry.sessions[number]? with
  | none => rfl
  | some session =>
      dsimp only
      split <;> simp [settle]

theorem remove_length (context : Session.Context) (number : Nat) (registry : Registry) :
    (registry.remove context number).1.sessions.length = registry.sessions.length := by
  unfold remove
  split
  · exact perform_length context number .stopCapture
      { registry with registered := registry.registered.erase number }
  · rfl

theorem removals_length (context : Session.Context) (numbers : List Nat) (registry : Registry) :
    (numbers.foldl (fun registry number => (registry.remove context number).1) registry
      ).sessions.length = registry.sessions.length := by
  induction numbers generalizing registry with
  | nil => rfl
  | cons number rest ih => rw [List.foldl_cons, ih, remove_length]

/-- Sessions are never forgotten: a removal takes them out of the registration, but not from under
their numbers. -/
theorem length_le_handle (request : Request) (registry : Registry) :
    registry.sessions.length ≤ (registry.handle request).1.sessions.length := by
  cases request with
  | create configuration =>
      simp only [handle, add]
      split
      · exact Nat.le_refl _
      · simp
  | get number => exact Nat.le_refl _
  | remove context number => exact Nat.le_of_eq (remove_length context number registry).symm
  | cleanup context =>
      exact Nat.le_of_eq (removals_length context registry.registered registry).symm
  | operate number step =>
      exact Nat.le_of_eq (perform_length step.context number step.operation registry).symm
  | settle => exact Nat.le_of_eq (List.length_map _).symm

/-- A run makes of a session that exists what the session's share of the run makes of it. So what is
known of runs of a single session holds of it in the registry as well. -/
theorem run_sessions {number : Nat} (hnumber : number < registry.sessions.length)
    (requests : List Request) :
    (registry.run requests).sessions[number]? =
      registry.sessions[number]?.map (·.run (trail number requests registry)) := by
  induction requests generalizing registry with
  | nil => exact Option.map_id'.symm
  | cons request rest ih =>
      have hafter : number < (registry.handle request).1.sessions.length :=
        Nat.lt_of_lt_of_le hnumber (length_le_handle request registry)
      have hrest := ih hafter
      rw [handle_sessions hnumber, Option.map_map] at hrest
      refine hrest.trans ?_
      congr 1
      funext before
      exact (Session.run_append _ _ before).symm

end Registry

end Reckoner
