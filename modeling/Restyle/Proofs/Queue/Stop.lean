import Restyle.Proofs.Queue.History

/-!
# Stopping a queue

To stop a queue a marker is put behind the accepted tasks. From then on tasks are refused until the
worker has met the marker, which it does with nothing left behind, and ended. Main statement: after
every interleaving of callers and workers there is one worker and one marker at most, and what waits
has a worker as soon as every submitter has started one (`run_stops`).
-/
namespace Restyle

variable {τ β : Type}

/-- Whether a place is the marker. -/
def Slot.isStop : Slot τ → Bool
  | .stop => true
  | .task _ _ => false

/-- Whether a worker took the marker and has yet to end at it. -/
def Worker.isLeaving : Worker τ → Bool
  | .holding .stop => true
  | _ => false

namespace ChangeQueue

variable {queue : ChangeQueue τ β} {history : History τ β}

/-- The number of markers, in the line and at the worker. -/
def markers (queue : ChangeQueue τ β) : Nat :=
  queue.line.countP Slot.isStop + if queue.worker.isLeaving then 1 else 0

/-- A line without the marker counts none. -/
theorem countP_isStop {line : List (Slot τ)} (plain : .stop ∉ line) :
    line.countP Slot.isStop = 0 := by
  rw [List.countP_eq_zero]
  intro slot listed
  cases slot with
  | stop => exact absurd listed plain
  | task ticket task => simp [Slot.isStop]

/-- A worker is leaving exactly when it took the marker. -/
theorem isLeaving_iff (worker : Worker τ) :
    worker.isLeaving = true ↔ worker = .holding .stop := by
  cases worker with
  | holding slot => cases slot <;> simp [Worker.isLeaving]
  | absent | idle | busy _ _ | resting | dead => simp [Worker.isLeaving]

/-- A queue refuses tasks exactly while it has its one marker. -/
theorem Regular.markers_eq (regular : Regular queue) :
    queue.markers = if queue.stopping then 1 else 0 := by
  have free : queue.worker ≠ .holding .stop → queue.worker.isLeaving = false := by
    intro free
    rw [Bool.eq_false_iff, Ne, isLeaving_iff]
    exact free
  cases regular.phase with
  | going accepting plain away =>
    simp [markers, countP_isStop plain, free away, accepting]
  | marked tasks refusing last plain _ away =>
    simp [markers, last, countP_isStop plain, free away, refusing, Slot.isStop]
  | leaving refusing nothing held =>
    simp [markers, nothing, held, refusing, Worker.isLeaving]

/-- Nothing stands behind the marker. -/
theorem Regular.eq_nil_of_stop (regular : Regular queue) {front back : List (Slot τ)}
    (parted : queue.line = front ++ .stop :: back) : back = [] := by
  cases regular.phase with
  | going _ plain _ => simp [parted] at plain
  | marked tasks _ last plain _ _ =>
    rw [parted] at last
    rcases List.append_eq_append_iff.1 last with ⟨more, rfl, after⟩ | ⟨more, rfl, after⟩
    · cases more with
      | nil => exact (List.cons.inj after).2
      | cons slot more =>
        obtain ⟨rfl, _⟩ := List.cons.inj after
        simp at plain
    · cases more with
      | nil => exact (List.cons.inj after).2.symm
      | cons slot more =>
        have sizes := congrArg List.length after
        simp at sizes
  | leaving _ nothing _ => simp [nothing] at parted

/-- A worker that took the marker leaves an empty line behind, and tasks are refused as long as it
stays. -/
theorem Regular.of_leaving (regular : Regular queue) (held : queue.worker = .holding .stop) :
    queue.line = [] ∧ queue.stopping = true := by
  cases regular.phase with
  | going _ _ free => exact absurd held free
  | marked _ _ _ _ _ free => exact absurd held free
  | leaving refusing nothing _ => exact ⟨nothing, refusing⟩

/-- There is one marker while the queue is stopping, and none before. -/
theorem Regular.markers_iff (regular : Regular queue) :
    (queue.markers = 1 ↔ queue.stopping = true) ∧
      (queue.markers = 0 ↔ queue.stopping = false) := by
  rw [regular.markers_eq]
  cases queue.stopping <;> simp

/-- At most one worker goes on: the former ones are gone. -/
theorem Orderly.single (orderly : Orderly history) :
    (history.queue.worker :: history.former).countP Worker.isLive ≤ 1 := by
  have gone : history.former.countP Worker.isLive = 0 := by
    rw [List.countP_eq_zero]
    intro worker listed
    rw [orderly.former worker listed]
    simp
  rw [List.countP_cons, gone]
  split <;> omega

/-- When the worker has taken the marker, every task that was accepted was executed or had been
cancelled. -/
theorem Orderly.past_of_leaving (orderly : Orderly history)
    (held : history.queue.worker = .holding .stop) {ticket : Nat}
    (given : ticket < history.accepted.length) :
    (∃ outcome, (ticket, outcome) ∈ history.ended) ∨
      history.queue.fate? ticket = some .cancelled := by
  have nothing := (orderly.regular.of_leaving held).1
  obtain ⟨settled, parted, past⟩ := orderly.regular.parted
  have sizes := congrArg List.length parted
  simp only [waiting, held, nothing, Worker.ticket?, Slot.ticket?, List.filterMap_nil,
    Option.toList_none, List.append_nil, List.length_range, orderly.counted] at sizes
  obtain ⟨fate, known, rfl | ⟨outcome, rfl⟩⟩ := past ticket (sizes ▸ given)
  · exact .inr known
  · exact .inl ⟨outcome, (orderly.ended ticket outcome).2 known⟩

/-- Once every submitter has started the worker, what waits has one. -/
theorem Orderly.live_of_waits (orderly : Orderly history) (none : history.owed = [])
    (waits : history.queue.line ≠ []) : history.queue.worker.isLive = true := by
  by_contra still
  have gone : history.queue.worker.isLive = false := by simpa using still
  cases orderly.regular.phase with
  | going accepting plain _ =>
    obtain ⟨slot, line, first⟩ := List.exists_cons_of_ne_nil waits
    cases slot with
    | stop => simp [first] at plain
    | task ticket task =>
      have owed := orderly.owed gone ticket (by simp [waiting, first, Slot.ticket?])
      simp [none] at owed
  | marked _ _ _ _ live _ => simp [gone] at live
  | leaving _ nothing _ => exact waits nothing

/-- What happens leaves a live worker alive and a stopping queue stopping, unless it is the last
step of the worker, at the marker. -/
theorem Orderly.stays (orderly : Orderly history) (action : Action τ β) :
    ((history.queue.worker.isLive = true → (history.after action).queue.worker.isLive = true) ∧
      (history.queue.stopping = true → (history.after action).queue.stopping = true)) ∨
    history.queue.worker = .holding .stop ∧ (∃ outcome now, action = .work outcome now) ∧
      (history.after action).queue =
        { history.queue with worker := .absent, stopping := false } := by
  have started : history.started.queue.worker.isLive = true ∧
      history.started.queue.stopping = history.queue.stopping := by
    simp only [History.started, ChangeQueue.start]
    split
    · exact ⟨‹_›, rfl⟩
    · exact ⟨rfl, rfl⟩
  cases action with
  | accept task =>
    refine .inl ?_
    rw [History.after, ChangeQueue.accept]
    split
    · exact ⟨id, id⟩
    · rename_i ticket queue accepted
      split at accepted
      · contradiction
      · obtain ⟨_, rfl⟩ := Prod.mk.inj (Option.some.inj accepted)
        exact ⟨id, id⟩
  | startFor ticket =>
    refine .inl ?_
    rw [History.after]
    split
    · exact ⟨fun _ => started.1, fun refusing => started.2.trans refusing⟩
    · exact ⟨id, id⟩
  | start => exact .inl ⟨fun _ => started.1, fun refusing => started.2.trans refusing⟩
  | stop =>
    refine .inl ?_
    rw [History.after]
    rcases requestStop_cases history.queue with same | shape
    · rw [same]
      exact ⟨id, id⟩
    · rw [shape]
      exact ⟨id, fun _ => rfl⟩
  | cancel ticket =>
    refine .inl ?_
    rw [History.after]
    rcases cancel_cases history.queue ticket with same | ⟨_, shape⟩
    · rw [same]
      exact ⟨id, id⟩
    · rw [shape]
      exact ⟨id, id⟩
  | work outcome now =>
    have step := works (fun (_ : Unit) (_ : τ) => (outcome, ())) (orderly.steady now) ()
    rw [History.after, History.worked]
    generalize history.queue.step (fun _ _ => (outcome, ())) now () = next at step ⊢
    cases step with
    | stood => exact .inl ⟨id, id⟩
    | took | passed | began | ended | rested => exact .inl ⟨fun _ => rfl, id⟩
    | left held => exact .inr ⟨held, ⟨outcome, now, rfl⟩, rfl⟩
  | workFormer index outcome now =>
    rw [History.after, orderly.workedFormer_eq]
    exact .inl ⟨id, id⟩

/-- How a queue stops. -/
structure Stops (history : History τ β) : Prop where
  /-- At most one worker goes on. -/
  single : (history.queue.worker :: history.former).countP Worker.isLive ≤ 1
  /-- There is at most one marker. -/
  marked : history.queue.markers ≤ 1
  /-- No task stands behind the marker, in the line or at the worker. -/
  last : (∀ front back, history.queue.line = front ++ .stop :: back → back = []) ∧
    (history.queue.worker = .holding .stop → history.queue.line = [])
  /-- Asking for a stop marks the queue, unless there is no worker; then it does nothing. -/
  asked : (history.after .stop).queue.markers = 1 ∨
    history.queue.worker = .absent ∧ history.after .stop = history
  /-- While there is a marker a task is refused, which changes nothing. -/
  refused : history.queue.markers = 1 → ∀ task,
    history.queue.accept task = none ∧ history.after (.accept task) = history
  /-- The marker stays until the worker ends. -/
  stays : history.queue.markers = 1 → ∀ action, (history.after action).queue.markers = 1 ∨
    history.queue.worker.isLive = true ∧ (history.after action).queue.worker = .absent
  /-- When the worker ends, nothing waits, no marker is left, and every task that was accepted was
  executed or had been cancelled. -/
  left : ∀ action, history.queue.worker.isLive = true →
    (history.after action).queue.worker.isLive = false →
    (history.after action).queue.line = [] ∧ (history.after action).queue.markers = 0 ∧
      ∀ ticket < history.accepted.length, (∃ outcome, (ticket, outcome) ∈ history.ended) ∨
        history.queue.fate? ticket = some .cancelled
  /-- While there is no marker a task is accepted as the last one. -/
  accepts : history.queue.markers = 0 → ∀ task,
    (history.after (.accept task)).accepted = history.accepted ++ [task] ∧
      (history.after (.accept task)).queue.line =
        history.queue.line ++ [.task history.accepted.length task]
  /-- Once every submitter has started the worker, what waits has one. -/
  served : history.owed = [] → history.queue.line ≠ [] → history.queue.worker.isLive = true

/-- An orderly history stops. -/
theorem Orderly.stops (orderly : Orderly history) : Stops history := by
  have regular := orderly.regular
  refine ⟨orderly.single, ?_,
    ⟨fun _ _ => regular.eq_nil_of_stop, fun held => (regular.of_leaving held).1⟩,
    ?_, ?_, ?_, ?_, ?_, orderly.live_of_waits⟩
  · rw [regular.markers_eq]
    split <;> omega
  · rw [(orderly.after .stop).regular.markers_iff.1]
    simp only [History.after, requestStop]
    split
    · exact .inr ⟨‹_›, rfl⟩
    · split
      · exact .inl ‹_›
      · exact .inl rfl
  · intro marked task
    have none : history.queue.accept task = none := by
      simp [ChangeQueue.accept, regular.markers_iff.1.1 marked]
    exact ⟨none, by simp only [History.after, none]⟩
  · intro marked action
    rw [(orderly.after action).regular.markers_iff.1]
    rcases orderly.stays action with ⟨_, refusing⟩ | ⟨held, _, after⟩
    · exact .inl (refusing (regular.markers_iff.1.1 marked))
    · exact .inr ⟨by rw [held]; rfl, by rw [after]⟩
  · intro action live ended
    rw [(orderly.after action).regular.markers_iff.2]
    rcases orderly.stays action with ⟨alive, _⟩ | ⟨held, _, after⟩
    · simp [alive live] at ended
    · rw [after]
      exact ⟨(regular.of_leaving held).1, rfl, fun ticket => orderly.past_of_leaving held⟩
  · intro unmarked task
    have accepted := Regular.accept_eq (regular.markers_iff.2.1 unmarked) task
    simp only [History.after, accepted, orderly.counted, and_self]

/-- After every interleaving at most one worker goes on and at most one marker stands, with nothing
behind it; tasks are refused while it does, none is lost when the worker ends at it, and once every
submitter has started the worker, what waits has one. -/
theorem run_stops (actions : List (Action τ β)) : Stops (({} : History τ β).run actions) :=
  (Orderly.new.run actions).stops

end ChangeQueue

end Restyle
