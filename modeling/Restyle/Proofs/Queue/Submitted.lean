import Restyle.Proofs.Queue.Pause
import Restyle.Proofs.Queue.Sequential

/-!
# A task that is submitted and waited for

A queue is orderly when it is regular but for a worker that ended at a pause (`Ordered`). It is so
when it is new, and stays so when a task is submitted, a stop is asked for or the worker makes a
step. Such a queue takes a new task, and its worker is left alone. Main statements: the task is done
after all that was due before (`Ordered.served`), unless the worker ends at a pause before it, and
then it still waits (`Ordered.waits_of_fails`).
-/
namespace Restyle

variable {τ β σ : Type}

/-- A worker, idle again if it ended without taking its leave. -/
def Worker.revived : Worker τ → Worker τ
  | .dead => .idle
  | worker => worker

/-- A worker that did not end is as it was. -/
theorem Worker.revived_of_ne {worker : Worker τ} (alive : worker ≠ .dead) :
    worker.revived = worker := by
  cases worker <;> simp_all [revived]

namespace ChangeQueue

variable {queue : ChangeQueue τ β} {ticket now : Nat} {task : τ}

/-- A queue with a worker that ended at a pause taken back. -/
def revived (queue : ChangeQueue τ β) : ChangeQueue τ β :=
  { queue with worker := queue.worker.revived }

/-- A queue whose worker goes through the tickets in order, as far as its pauses let it. -/
def Ordered (queue : ChangeQueue τ β) : Prop := Regular queue.revived

/-- A queue whose worker did not end is as it was. -/
theorem revived_of_ne (alive : queue.worker ≠ .dead) : queue.revived = queue := by
  rw [revived, Worker.revived_of_ne alive]

/-- Starting a worker takes one back that ended. -/
theorem revived_start (queue : ChangeQueue τ β) : queue.start.revived = queue.revived.start := by
  cases stands : queue.worker <;>
    simp [start, revived, isRunning, Worker.revived, Worker.isLive, stands]

/-- Asking for a stop does not depend on whether a worker ended. -/
theorem revived_requestStop (queue : ChangeQueue τ β) :
    queue.requestStop.revived = queue.revived.requestStop := by
  cases stands : queue.worker <;> cases refusing : queue.stopping <;>
    simp [requestStop, revived, Worker.revived, stands, refusing]

namespace Ordered

/-- A new queue is orderly. -/
theorem new (pause : Pause) : Ordered ({ pause } : ChangeQueue τ β) := Regular.new pause

/-- Accepting a task leaves a queue orderly. -/
theorem accept (ordered : queue.Ordered) {next : ChangeQueue τ β}
    (accepted : queue.accept task = some (ticket, next)) : next.Ordered := by
  have back : queue.revived.accept task = some (ticket, next.revived) := by
    rw [ChangeQueue.accept] at accepted ⊢
    split at accepted
    · simp at accepted
    · rename_i accepting
      obtain ⟨rfl, rfl⟩ := Prod.mk.inj (Option.some.inj accepted)
      exact if_neg accepting
  exact Regular.accept ordered back

/-- Starting a worker leaves a queue orderly. -/
theorem start (ordered : queue.Ordered) : queue.start.Ordered := by
  rw [Ordered, revived_start]
  exact Regular.start ordered

/-- Submitting a task leaves a queue orderly. -/
theorem submit (ordered : queue.Ordered) {next : ChangeQueue τ β}
    (submitted : queue.submit task = some (ticket, next)) : next.Ordered := by
  rw [ChangeQueue.submit] at submitted
  obtain ⟨⟨_, accepted⟩, done, same⟩ := Option.map_eq_some_iff.1 submitted
  obtain ⟨rfl, rfl⟩ := Prod.mk.inj same
  exact (ordered.accept done).start

/-- Asking for a stop leaves a queue orderly. -/
theorem requestStop (ordered : queue.Ordered) : queue.requestStop.Ordered := by
  rw [Ordered, revived_requestStop]
  exact Regular.requestStop ordered

/-- A queue with a worker that did not end at a pause is regular. -/
theorem regular (ordered : queue.Ordered) (alive : queue.worker ≠ .dead) : Regular queue := by
  rw [Ordered, revived_of_ne alive] at ordered
  exact ordered

/-- A step of the worker leaves a queue orderly. -/
theorem step (ordered : queue.Ordered) (act : σ → τ → Except Text β × σ) (now : Nat) (state : σ) :
    (queue.step act now state).1.Ordered := by
  by_cases dead : queue.worker = .dead
  · have still : (queue.step act now state).1 = queue := by
      simp only [ChangeQueue.step, take, dead]
    rw [still]
    exact ordered
  · have regular := ordered.regular dead
    rcases works_or_ends act now queue state with works | ⟨resting, _, ends⟩
    · have next := regular.works works
      rw [Ordered, revived_of_ne next.alive]
      exact next
    · rw [ends]
      exact regular.rested resting

/-- A worker that is left alone leaves its queue orderly. -/
theorem settle (ordered : queue.Ordered) (act : σ → τ → Except Text β × σ) (now : Nat)
    (state : σ) : (queue.settle act now state).1.Ordered := by
  rw [ChangeQueue.settle]
  generalize 4 * queue.line.length + 3 = fuel
  induction fuel generalizing queue state with
  | zero => exact ordered
  | succ fuel ih =>
    rw [settleFor_succ]
    exact ih (ordered.step act now state) _

/-- Every task of an orderly queue was accepted. -/
theorem lt_of_slot (ordered : queue.Ordered) {slot : Slot τ}
    (here : slot ∈ queue.line ∨ queue.worker = .holding slot) :
    ∀ ticket ∈ slot.ticket?, ticket < queue.fates.length := by
  intro ticket named
  have known : ∃ fate, queue.revived.fate? ticket = some fate ∧ fate.IsFresh := by
    rcases here with waits | held
    · exact ordered.fresh ticket (List.mem_filterMap.2 ⟨slot, waits, named⟩)
    · cases slot with
      | stop => simp [Slot.ticket?] at named
      | task other task =>
        obtain rfl := Option.some.inj named
        exact ordered.handed _ task (by rw [revived, held]; rfl)
  obtain ⟨fate, found, _⟩ := known
  exact (List.getElem?_eq_some_iff.1 found).1

end Ordered

/-- A task that was just accepted takes nothing of what is due. -/
theorem due?_append (fates : List (Fate β)) :
    (due? (fates ++ [.waiting]) : Slot τ → Option (Nat × τ)) = due? fates := by
  funext slot
  cases slot with
  | stop => rfl
  | task ticket task =>
    simp only [due?]
    by_cases known : ticket < fates.length
    · rw [List.getElem?_append_left known]
    · rw [List.getElem?_append_right (by omega), List.getElem?_eq_none (l := fates) (by omega)]
      cases ticket - fates.length <;> rfl

/-- A queue with one task more. -/
def adding (queue : ChangeQueue τ β) (task : τ) : ChangeQueue τ β :=
  { queue with
    line := queue.line ++ [.task queue.fates.length task]
    fates := queue.fates ++ [.waiting] }

/-- A queue that took one task more and has a worker. -/
def joined (queue : ChangeQueue τ β) (task : τ) : ChangeQueue τ β := (queue.adding task).start

/-- A queue that accepts tasks takes one more and starts its worker. -/
theorem submit_eq (accepting : queue.stopping = false) (task : τ) :
    queue.submit task = some (queue.fates.length, queue.joined task) := by
  rw [submit, Regular.accept_eq accepting]
  rfl

/-- A queue that is stopping takes no task. -/
theorem submit_eq_none (refusing : queue.stopping = true) (task : τ) :
    queue.submit task = none := by
  rw [submit, accept, if_pos refusing]
  rfl

/-- A new task waits as the last one. -/
@[simp] theorem line_joined (queue : ChangeQueue τ β) (task : τ) :
    (queue.joined task).line = queue.line ++ [.task queue.fates.length task] := by
  rw [joined, start]
  split <;> rfl

/-- A new task has the last fate. -/
@[simp] theorem fates_joined (queue : ChangeQueue τ β) (task : τ) :
    (queue.joined task).fates = queue.fates ++ [.waiting] := fates_start _

/-- A new task leaves the pause. -/
@[simp] theorem pause_joined (queue : ChangeQueue τ β) (task : τ) :
    (queue.joined task).pause = queue.pause := pause_start _

/-- A new task waits. -/
@[simp] theorem fate?_joined (queue : ChangeQueue τ β) (task : τ) :
    (queue.joined task).fate? queue.fates.length = some .waiting := by
  simp [fate?]

/-- A worker that goes on goes on when there is a new task. -/
theorem joined_of_live (live : queue.worker.isLive = true) (task : τ) :
    queue.joined task = queue.adding task := by
  rw [joined, start, isRunning, if_pos (by exact live)]

/-- Where there was no worker, or an idle one, an idle one takes the new task. -/
theorem worker_joined (free : queue.worker.isLive = false ∨ queue.worker = .idle) (task : τ) :
    (queue.joined task).worker = .idle := by
  rcases free with gone | idle
  · rw [joined, start, isRunning, if_neg (by simp [adding, gone])]
  · rw [joined_of_live (by rw [idle]; rfl), adding, idle]

/-- A new task leaves a queue orderly that accepts it. -/
theorem Ordered.joined (ordered : queue.Ordered) (accepting : queue.stopping = false) (task : τ) :
    (queue.joined task).Ordered := ordered.submit (submit_eq accepting task)

/-- A new task is due after all that was due before. -/
theorem due_joined (queue : ChangeQueue τ β) (task : τ) :
    (queue.joined task).due = queue.due ++ [(queue.fates.length, task)] := by
  have last : due? queue.fates (.task queue.fates.length task) =
      some (queue.fates.length, task) := by
    simp [due?]
  rw [ChangeQueue.joined, due_start]
  cases stands : queue.worker with
  | holding slot =>
    simp only [due, adding, stands, due?_append, ← List.cons_append, List.filterMap_append,
      List.filterMap_cons_some last, List.filterMap_nil]
  | busy _ _ | resting | absent | idle | dead =>
    simp only [due, adding, stands, due?_append, List.filterMap_append,
      List.filterMap_cons_some last, List.filterMap_nil, List.cons_append]

/-- Tasks are carried out one part after the other. -/
theorem carryOut_append (act : σ → τ → Except Text β × σ) (front back : List (Nat × τ))
    (state : σ) :
    carryOut act (front ++ back) state =
      ((carryOut act front state).1 ++ (carryOut act back (carryOut act front state).2).1,
        (carryOut act back (carryOut act front state).2).2) := by
  induction front generalizing state with
  | nil => rfl
  | cons call later ih =>
    obtain ⟨ticket, task⟩ := call
    simp only [List.cons_append, carryOut, ih]

/-- Nothing waits, and the worker is at nothing. -/
def IsClear (queue : ChangeQueue τ β) : Prop := queue.line = [] ∧ queue.IsStill

/-- Nothing is due where nothing waits and the worker is at nothing. -/
theorem IsClear.due_eq (clear : queue.IsClear) : queue.due = [] := by
  obtain ⟨nothing, gone | ⟨idle, _⟩⟩ := clear
  · cases stands : queue.worker <;> simp_all [due, Worker.isLive]
  · simp [due, idle, nothing]

/-- What a task comes to that is submitted to a queue and waited for. -/
structure Served (act : σ → τ → Except Text β × σ) (queue : ChangeQueue τ β) (state : σ)
    (task : τ) (last : ChangeQueue τ β × σ) : Prop where
  /-- It is done with its own outcome, from the state that all that was due before leaves. -/
  done : last.1.fate? queue.fates.length =
    some (.done (act (carryOut act queue.due state).2 task).1)
  /-- It leaves the state that it makes of that one. -/
  shared : last.2 = (act (carryOut act queue.due state).2 task).2

/-- A task is done after all that was due before, where the worker does not fail at its pause. -/
theorem Ordered.served_of_steady (ordered : queue.Ordered) (accepting : queue.stopping = false)
    (steady : queue.pause.fails now = false) (task : τ) (act : σ → τ → Except Text β × σ)
    (state : σ) : Served act queue state task ((queue.joined task).settle act now state) := by
  have live : (queue.joined task).worker.isLive = true := isLive_start _
  have alive : (queue.joined task).worker ≠ .dead := by
    intro dead
    rw [dead] at live
    simp [Worker.isLive] at live
  have pause : (queue.joined task).pause.fails now = false := by
    rw [pause_joined]
    exact steady
  have regular := (ordered.joined accepting task).regular alive
  have settled := regular.settle pause (.inl live) act state
  have answered := settled.answered
  have shared := settled.shared
  rw [due_joined, carryOut_append] at answered shared
  exact ⟨answered (_, _) (List.mem_append_right _ (List.mem_singleton.2 rfl)), shared⟩

/-- A task is done where nothing waits and the worker is at nothing, even if it fails at its
pause: it has none to make. -/
theorem IsClear.served (clear : queue.IsClear) (fails : queue.pause.fails now = true) (task : τ)
    (act : σ → τ → Except Text β × σ) (state : σ) :
    Served act queue state task ((queue.joined task).settle act now state) := by
  have idle := worker_joined (clear.2.imp_right And.left) task
  have line : (queue.joined task).line = [.task queue.fates.length task] := by
    rw [line_joined, clear.1, List.nil_append]
  have bound : ∀ ticket ∈ (Slot.task queue.fates.length task).ticket?,
      ticket < (queue.joined task).fates.length := by
    simp [Slot.ticket?]
  have pause : (queue.joined task).pause.fails now = true := by
    rw [pause_joined]
    exact fails
  have stranded := settle_of_fails pause idle line bound act state
  have due : due? (queue.joined task).fates (.task queue.fates.length task) =
      some (queue.fates.length, task) := by
    simp [due?]
  have answered := stranded.answered
  have shared := stranded.shared
  rw [due] at answered shared
  constructor
  · rw [clear.due_eq]
    exact answered (_, _) (List.mem_singleton.2 rfl)
  · rw [clear.due_eq]
    exact shared

/-- A task is done after all that was due before, unless the worker may end at a pause before it. -/
theorem Ordered.served (ordered : queue.Ordered) (accepting : queue.stopping = false)
    (free : queue.pause.fails now = false ∨ queue.IsClear) (task : τ)
    (act : σ → τ → Except Text β × σ) (state : σ) :
    Served act queue state task ((queue.joined task).settle act now state) := by
  cases fails : queue.pause.fails now with
  | true => exact (free.resolve_left (by simp [fails])).served fails task act state
  | false => exact ordered.served_of_steady accepting fails task act state

/-- Where the pause ends the worker, one that is at a task and is left alone changes what became of
no other task. -/
theorem fate?_settle_of_busy (fails : queue.pause.fails now = true)
    (busy : queue.worker = .busy ticket task) (act : σ → τ → Except Text β × σ) (state : σ)
    {other : Nat} (apart : ticket ≠ other) :
    (queue.settle act now state).1.fate? other = queue.fate? other := by
  let done : ChangeQueue τ β := { queue with
    worker := .resting, fates := queue.fates.set ticket (.done (act state task).1) }
  have ended : queue.step act now state = (done, (act state task).2) := by
    simp only [step, finish, busy, done]
  rw [settle, settleFor_succ, ended, done.settleFor_of_resting rfl fails]
  exact List.getElem?_set_ne apart

/-- Where the worker fails at its pause and is at something, or something waits, a new task still
waits when the worker has ended. -/
theorem Ordered.waits_of_fails (ordered : queue.Ordered) (fails : queue.pause.fails now = true)
    (occupied : ¬ queue.IsClear) (task : τ) (act : σ → τ → Except Text β × σ) (state : σ) :
    ((queue.joined task).settle act now state).1.fate? queue.fates.length = some .waiting := by
  have pause : (queue.joined task).pause.fails now = true := by
    rw [pause_joined]
    exact fails
  have waits := fate?_joined queue task
  have known : ∀ slot, slot ∈ queue.line ∨ queue.worker = .holding slot →
      ∀ ticket ∈ slot.ticket?, ticket < (queue.joined task).fates.length := by
    intro slot here ticket named
    have := ordered.lt_of_slot here ticket named
    rw [fates_joined, List.length_append]
    omega
  have other : ∀ slot, slot ∈ queue.line ∨ queue.worker = .holding slot →
      slot.ticket? ≠ some queue.fates.length := by
    intro slot here named
    have := ordered.lt_of_slot here _ named
    omega
  by_cases free : queue.worker.isLive = false ∨ queue.worker = .idle
  · have idle := worker_joined free task
    cases first : queue.line with
    | nil => exact absurd ⟨first, free.imp_right fun idle => ⟨idle, first⟩⟩ occupied
    | cons slot rest =>
      have here : slot ∈ queue.line := by simp [first]
      have line : (queue.joined task).line =
          slot :: (rest ++ [.task queue.fates.length task]) := by
        rw [line_joined, first, List.cons_append]
      have stranded := settle_of_fails pause idle line (known slot (.inl here)) act state
      exact (stranded.kept _ (other slot (.inl here))).trans waits
  · have joined : queue.joined task = queue.adding task := joined_of_live (by simp_all) task
    cases stands : queue.worker with
    | absent | idle | dead => simp [stands, Worker.isLive] at free
    | holding slot =>
      have held : (queue.joined task).worker = .holding slot := by
        rw [joined, adding, stands]
      have stranded := settleFor_of_holding _ pause held (known slot (.inr stands)) act state
        (4 * (queue.joined task).line.length)
      exact (stranded.kept _ (other slot (.inr stands))).trans waits
    | busy ticket running =>
      have busy : (queue.joined task).worker = .busy ticket running := by
        rw [joined, adding, stands]
      have runs := ordered.runs ticket running (by rw [revived, stands]; rfl)
      have apart : ticket ≠ queue.fates.length :=
        Nat.ne_of_lt (List.getElem?_eq_some_iff.1 runs).1
      exact (fate?_settle_of_busy pause busy act state apart).trans waits
    | resting =>
      have resting : (queue.joined task).worker = .resting := by
        rw [joined, adding, stands]
      rw [ChangeQueue.settle, settleFor_of_resting resting pause]
      exact waits

end ChangeQueue

end Restyle
