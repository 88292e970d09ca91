import Reckoner.Proofs.Session.Capture

/-!
The recognizer and the tasks beneath a capture. A recognizer is open or closed, a task that listens
to it is alive or done, and each can end by itself: a task that ends closes the recognizer, and a
recognizer that is closed tells the task so through its queue. A capture of a session stands for
both of them, and whatever is done to it keeps to what they do.
-/

namespace Reckoner

open Recognition

/-- What stands in the queue of a task: what the recognizer has heard, in order, and behind it that
it has been closed. -/
inductive Signal where
  | item (item : Recognition)
  /-- The recognizer has been closed. -/
  | closed

structure Task where
  queue : List Signal
  isAlive : Bool

namespace Task

/-- What a task makes known that takes signals until there are no more or one ends it, and how it is
left. -/
def take (continuous : Bool) : List Signal → List VoiceEvent × Task
  | [] => ([], ⟨[], true⟩)
  | .closed :: rest => ([], ⟨rest, false⟩)
  | .item item :: rest =>
    if item.ends continuous then (item.known, ⟨rest, false⟩)
    else
      let (events, task) := take continuous rest
      (item.known ++ events, task)

/-- The turn of a task. One that is done has none any more, so its queue stays as it was left. -/
def turn (continuous : Bool) (task : Task) : List VoiceEvent × Task :=
  if task.isAlive then take continuous task.queue else ([], task)

/-- Does the task end with this turn? A task that was done before does not end again, and so does
not close the recognizer again. -/
def endsTurn (continuous : Bool) (task : Task) : Bool :=
  task.isAlive && !(task.turn continuous).2.isAlive

theorem turn_of_done (continuous : Bool) {task : Task} (h : task.isAlive = false) :
    task.turn continuous = ([], task) ∧ task.endsTurn continuous = false := by
  simp [turn, endsTurn, h]

/-- A task that one of the items ends makes known what a capture does with them. What stands behind
that item is left in its queue and is lost. -/
theorem take_of_ends {continuous : Bool} {items : List Recognition}
    (h : items.any (ends continuous) = true) (signals : List Signal) :
    (take continuous (items.map .item ++ signals)).1 = Capture.events continuous items ∧
      (take continuous (items.map .item ++ signals)).2.isAlive = false := by
  induction items with
  | nil => cases h
  | cons item rest ih =>
      rw [Capture.events_cons]
      cases hitem : item.ends continuous with
      | true => simp [take, hitem]
      | false =>
          have hrest := ih (by simpa [hitem] using h)
          simp [take, hitem, hrest]

/-- A task that none of the items ends goes on to what stands behind them, be that a closing or
nothing yet. -/
theorem take_of_goes {continuous : Bool} {items : List Recognition}
    (h : items.any (ends continuous) = false) (signals : List Signal) :
    take continuous (items.map .item ++ signals) =
      (Capture.events continuous items ++ (take continuous signals).1,
        (take continuous signals).2) := by
  induction items with
  | nil => rfl
  | cons item rest ih =>
      rw [List.any_cons, Bool.or_eq_false_iff] at h
      have hrest := ih h.2
      simp only [List.map_cons, List.cons_append, take, h.1, Bool.false_eq_true, if_false, hrest,
        Capture.events_cons, List.append_assoc]

end Task

/-- A recognizer, and the tasks that were started to listen to it, the newest first. Opening the
recognizer makes a new queue, and this is the queue of the task that is started with it. -/
structure Channel where
  isOpen : Bool := false
  tasks : List Task := []

namespace Channel

/-- Is the newest task alive? The older ones are not asked, since a new task is only started when
the newest is done. -/
def isListening (channel : Channel) : Bool := channel.tasks.head?.any (·.isAlive)

def start (channel : Channel) : Channel :=
  if channel.isListening then channel
  else { isOpen := true, tasks := ⟨[], true⟩ :: channel.tasks }

/-- Put a signal into the queue of the newest task. It is the only queue that the recognizer still
knows. -/
def put (signal : Signal) (channel : Channel) : Channel :=
  { channel with
    tasks := channel.tasks.modifyHead fun task =>
      { task with queue := task.queue ++ [signal] } }

/-- Put an item into the queue of an open recognizer; the answer is whether it was open. A closed
one leaves the queues as they are. -/
def submit (item : Recognition) (channel : Channel) : Channel × Bool :=
  if channel.isOpen then (channel.put (.item item), true) else (channel, false)

def close (channel : Channel) : Channel :=
  if channel.isOpen then { channel.put .closed with isOpen := false } else channel

/-- All tasks get their turn, and one that ends closes the recognizer. So the recognizer does not
stay open with nobody to listen to it. -/
def turn (continuous : Bool) (channel : Channel) : List VoiceEvent × Channel :=
  let after := { channel with tasks := channel.tasks.map fun task => (task.turn continuous).2 }
  (channel.tasks.flatMap fun task => (task.turn continuous).1,
    if channel.tasks.any (·.endsTurn continuous) then after.close else after)

/-- Close the recognizer and wait for the task. It takes what is queued, and then finds the closing
behind it. -/
def stop (continuous : Bool) (channel : Channel) : Channel := (channel.close.turn continuous).2

/-- The signals of a queue with these items. The closing comes last, since nothing is put into the
queue of a closed recognizer. -/
def signals (queue : List Recognition) (isOpen : Bool) : List Signal :=
  queue.map .item ++ if isOpen then [] else [.closed]

/-- The channel is in the state of the capture: only its newest task may be alive, and the queue of
that task is the capture's. -/
inductive Represents : Channel → Capture → Prop where
  | idle (tasks : List Task) (hdone : ∀ task ∈ tasks, task.isAlive = false) :
      Represents ⟨false, tasks⟩ .idle
  | running (queue : List Recognition) (isOpen : Bool) (older : List Task)
      (hdone : ∀ task ∈ older, task.isAlive = false) :
      Represents ⟨isOpen, ⟨signals queue isOpen, true⟩ :: older⟩ (.running queue isOpen)

variable {channel : Channel} {capture : Capture}

theorem Represents.isOpen (h : Represents channel capture) : channel.isOpen = capture.isOpen := by
  cases h <;> rfl

theorem isListening_of_done {tasks : List Task} (isOpen : Bool)
    (h : ∀ task ∈ tasks, task.isAlive = false) :
    isListening ⟨isOpen, tasks⟩ = false := by
  cases tasks with
  | nil => rfl
  | cons task older => exact h task List.mem_cons_self

theorem Represents.isListening (h : Represents channel capture) :
    channel.isListening = capture.isListening := by
  cases h with
  | idle tasks hdone => exact isListening_of_done false hdone
  | running => rfl

/-- No two tasks are alive at once. So whatever the recognizer hears is taken by one task at
most. -/
theorem Represents.countP_isAlive_le (h : Represents channel capture) :
    channel.tasks.countP (·.isAlive) ≤ 1 := by
  have hnone {tasks : List Task} (hdone : ∀ task ∈ tasks, task.isAlive = false) :
      tasks.countP (·.isAlive) = 0 := by
    rw [List.countP_eq_zero]
    intro task htask
    simp [hdone task htask]
  cases h with
  | idle tasks hdone => simp [hnone hdone]
  | running queue isOpen older hdone => simp [hnone hdone]

theorem start_of_isListening (h : channel.isListening = true) : channel.start = channel := by
  rw [start, if_pos h]

theorem Represents.start (h : Represents channel .idle) :
    Represents channel.start (.running [] true) := by
  cases h with
  | idle tasks hdone =>
      rw [Channel.start, if_neg (by simp [isListening_of_done false hdone])]
      exact .running [] true tasks hdone

theorem Represents.submit (h : Represents channel capture) (item : Recognition) :
    (channel.submit item).2 = (capture.submit item).2 ∧
      Represents (channel.submit item).1 (capture.submit item).1 := by
  cases h with
  | idle tasks hdone => exact ⟨rfl, .idle tasks hdone⟩
  | running queue isOpen older hdone =>
      cases isOpen with
      | false => exact ⟨rfl, .running queue false older hdone⟩
      | true =>
          have hqueue : signals (queue ++ [item]) true = signals queue true ++ [.item item] := by
            simp [signals]
          refine ⟨rfl, ?_⟩
          have hafter := Represents.running (queue ++ [item]) true older hdone
          rw [hqueue] at hafter
          exact hafter

theorem Represents.close (h : Represents channel capture) :
    Represents channel.close capture.closeMicrophone := by
  cases h with
  | idle tasks hdone => exact .idle tasks hdone
  | running queue isOpen older hdone =>
      cases isOpen with
      | false => exact .running queue false older hdone
      | true =>
          have hqueue : signals queue false = signals queue true ++ [.closed] := by simp [signals]
          have hafter := Represents.running queue false older hdone
          rw [hqueue] at hafter
          exact hafter

/-- Tasks that are done make no use of their turns: they stay as they are, make nothing known and do
not end. -/
theorem turn_of_done {tasks : List Task} (continuous : Bool)
    (h : ∀ task ∈ tasks, task.isAlive = false) :
    (tasks.map fun task => (task.turn continuous).2) = tasks ∧
      (tasks.flatMap fun task => (task.turn continuous).1) = [] ∧
      tasks.any (·.endsTurn continuous) = false := by
  refine ⟨?_, ?_, ?_⟩
  · rw [List.map_congr_left fun task htask => by
      rw [(Task.turn_of_done continuous (h task htask)).1]]
    exact List.map_id' tasks
  · rw [List.flatMap_eq_nil_iff]
    intro task htask
    rw [(Task.turn_of_done continuous (h task htask)).1]
  · rw [List.any_eq_false]
    intro task htask
    simp [(Task.turn_of_done continuous (h task htask)).2]

theorem turn_of_newest (continuous isOpen : Bool) (queue : List Signal) {older : List Task}
    (hdone : ∀ task ∈ older, task.isAlive = false) :
    turn continuous ⟨isOpen, ⟨queue, true⟩ :: older⟩ =
      ((Task.take continuous queue).1,
        if (Task.take continuous queue).2.isAlive then
          ⟨isOpen, (Task.take continuous queue).2 :: older⟩
        else close ⟨isOpen, (Task.take continuous queue).2 :: older⟩) := by
  obtain ⟨hsame, hsilent, hnone⟩ := turn_of_done continuous hdone
  have hturn : Task.turn continuous ⟨queue, true⟩ = Task.take continuous queue := rfl
  have hends : Task.endsTurn continuous ⟨queue, true⟩ =
      !(Task.take continuous queue).2.isAlive := rfl
  simp only [turn, List.map_cons, List.flatMap_cons, List.any_cons, hsame, hsilent, hnone, hturn,
    hends, List.append_nil, Bool.or_false]
  cases (Task.take continuous queue).2.isAlive <;> rfl

theorem Represents.close_of_ended {isOpen : Bool} {task : Task} {older : List Task}
    (htask : task.isAlive = false) (hdone : ∀ task ∈ older, task.isAlive = false) :
    Represents (Channel.close ⟨isOpen, task :: older⟩) .idle := by
  cases isOpen with
  | false => exact .idle (task :: older) (List.forall_mem_cons.mpr ⟨htask, hdone⟩)
  | true =>
      exact .idle ({ task with queue := task.queue ++ [.closed] } :: older)
        (List.forall_mem_cons.mpr ⟨htask, hdone⟩)

/-- In its turn the channel makes known what the capture makes known, and ends when it ends. This
holds whether the task ends by an item, by a closing, or goes on. Only the newest task can have
anything to do, since the older ones are done. -/
theorem Represents.turn (h : Represents channel capture) (continuous : Bool) :
    (channel.turn continuous).1 = (capture.settle continuous).1 ∧
      Represents (channel.turn continuous).2 (capture.settle continuous).2 := by
  cases h with
  | idle tasks hdone =>
      obtain ⟨hsame, hsilent, hnone⟩ := turn_of_done continuous hdone
      simp only [Channel.turn, hsame, hsilent, hnone, Capture.settle]
      exact ⟨trivial, .idle tasks hdone⟩
  | running queue isOpen older hdone =>
      rw [turn_of_newest continuous isOpen _ hdone, Capture.settle, Capture.drain_eq]
      cases hends : queue.any (ends continuous) with
      | true =>
          obtain ⟨hevents, hended⟩ :=
            Task.take_of_ends hends (if isOpen then [] else [.closed])
          simp only [signals, hevents, hended]
          exact ⟨trivial, .close_of_ended hended hdone⟩
      | false =>
          have htake := Task.take_of_goes hends (if isOpen then [] else [.closed])
          simp only [signals, htake]
          cases isOpen with
          | true => exact ⟨List.append_nil _, .running [] true older hdone⟩
          | false =>
              have hended : Represents (Channel.close ⟨false, ⟨[], false⟩ :: older⟩) .idle :=
                .close_of_ended rfl hdone
              exact ⟨List.append_nil _, hended⟩

/-- Stopping where nothing listens changes nothing, so a stop may be asked for at any time. -/
theorem Represents.stop_of_idle (h : Represents channel .idle) (continuous : Bool) :
    channel.stop continuous = channel := by
  cases h with
  | idle tasks hdone =>
      obtain ⟨hsame, -, hnone⟩ := turn_of_done continuous hdone
      have hclosed : Channel.close ⟨false, tasks⟩ = ⟨false, tasks⟩ := rfl
      simp only [stop, hclosed, Channel.turn, hsame, hnone, Bool.false_eq_true, if_false]

end Channel

end Reckoner
