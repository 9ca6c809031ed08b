import Restyle.Proofs.Queue.Settle

/-!
# Histories of a queue

Callers submit tasks, start and stop the worker and cancel tasks, and workers make steps, all
interleaved in any way. A history holds a queue without a delay together with the workers that it
had before and with what happened so far: the tasks that were accepted, the calls that were begun
and those that ended. Main statement: through every interleaving a history stays orderly
(`Orderly.run`).
-/
namespace Restyle

namespace ChangeQueue

variable {τ β : Type}

/-- A queue and what happened to it. -/
structure History (τ β : Type) where
  /-- The queue. -/
  queue : ChangeQueue τ β := { pause := Pause.ofDelay 0 }
  /-- The workers that it had before the one that it has now, last one first. -/
  former : List (Worker τ) := []
  /-- The tickets of the tasks whose submitters have yet to start the worker. -/
  owed : List Nat := []
  /-- The tasks that were accepted, in order. -/
  accepted : List τ := []
  /-- The calls that were begun, in order: tickets and tasks. -/
  begun : List (Nat × τ) := []
  /-- The calls that ended, in order: tickets and what the calls came to. -/
  ended : List (Nat × Except Text β) := []

/-- What can happen to a queue. -/
inductive Action (τ β : Type) where
  /-- A submitter puts a task. -/
  | accept (task : τ)
  /-- The submitter of a task starts the worker. -/
  | startFor (ticket : Nat)
  /-- Someone starts the worker. -/
  | start
  /-- Someone stops the worker, and waits for it or not. -/
  | stop
  /-- Someone cancels a task. -/
  | cancel (ticket : Nat)
  /-- The worker makes a step; a call that it is at comes to the outcome, and the clock that it
  reads for a pause reads `now`. -/
  | work (outcome : Except Text β) (now : Nat)
  /-- A former worker makes such a step. -/
  | workFormer (index : Nat) (outcome : Except Text β) (now : Nat)

namespace History

variable {history : History τ β}

/-- The history after someone started a worker. -/
def started (history : History τ β) : History τ β :=
  { history with
    queue := history.queue.start
    former :=
      if history.queue.isRunning then history.former
      else history.queue.worker :: history.former }

/-- The history after a step of the worker. -/
def worked (history : History τ β) (outcome : Except Text β) (now : Nat) : History τ β :=
  let next := (history.queue.step (fun _ _ => (outcome, ())) now ()).1
  { history with
    queue := next
    begun := history.begun ++ match history.queue.worker, next.worker with
      | .holding _, .busy ticket task => [(ticket, task)]
      | _, _ => []
    ended := history.ended ++ match history.queue.worker with
      | .busy ticket _ => [(ticket, outcome)]
      | _ => [] }

/-- The history after a step of a former worker. If that one ended at the marker, the queue would
have no worker any more. -/
def workedFormer (history : History τ β) (index : Nat) (outcome : Except Text β) (now : Nat) :
    History τ β :=
  match history.former[index]? with
  | none => history
  | some worker =>
    let next := { history with queue := { history.queue with worker } }.worked outcome now
    { next with
      former := history.former.set index next.queue.worker
      queue := { next.queue with
        worker :=
          if worker.isLive && !next.queue.worker.isLive then .absent
          else history.queue.worker } }

/-- What an action makes of a history. A submitter starts the worker for a task that it put, and
once only. -/
def after (history : History τ β) : Action τ β → History τ β
  | .accept task =>
    match history.queue.accept task with
    | none => history
    | some (ticket, queue) =>
      { history with
        queue, owed := history.owed ++ [ticket], accepted := history.accepted ++ [task] }
  | .startFor ticket =>
    if ticket ∈ history.owed then
      { history.started with owed := history.owed.filter (· != ticket) }
    else history
  | .start => history.started
  | .stop => { history with queue := history.queue.requestStop }
  | .cancel ticket => { history with queue := (history.queue.cancel ticket).2 }
  | .work outcome now => history.worked outcome now
  | .workFormer index outcome now => history.workedFormer index outcome now

/-- What actions make of a history, one after the other. -/
def run (history : History τ β) (actions : List (Action τ β)) : History τ β :=
  actions.foldl after history

/-- Submitting a task is putting it and then starting the worker for it. -/
theorem queue_after_submit {task : τ} {ticket : Nat} {queue : ChangeQueue τ β}
    (submitted : history.queue.submit task = some (ticket, queue)) :
    ((history.after (.accept task)).after (.startFor ticket)).queue = queue := by
  rw [submit, Option.map_eq_some_iff] at submitted
  obtain ⟨⟨_, accepted⟩, put, same⟩ := submitted
  obtain ⟨rfl, rfl⟩ := Prod.mk.inj same
  simp only [after, put, List.mem_append, List.mem_singleton, or_true, if_true, started]

/-- Former workers that ended do nothing. -/
theorem workedFormer_of_gone (history : History τ β)
    (gone : ∀ worker ∈ history.former, worker.isLive = false) (index : Nat)
    (outcome : Except Text β) (now : Nat) :
    history.workedFormer index outcome now = history := by
  rw [workedFormer]
  split
  · rfl
  · rename_i worker found
    have ended := gone worker (List.mem_of_getElem? found)
    have same : history.former.set index worker = history.former := by
      obtain ⟨bound, rfl⟩ := List.getElem?_eq_some_iff.1 found
      exact List.set_getElem_self bound
    cases worker with
    | absent | dead =>
      simp [worked, step, take, Worker.isLive, same]
    | idle | holding _ | busy _ _ | resting => simp [Worker.isLive] at ended

end History

/-- A history in which calls follow one another in the order in which their tasks were accepted. -/
structure Orderly (history : History τ β) : Prop where
  /-- The queue is regular. -/
  regular : Regular history.queue
  /-- The worker makes no pauses. -/
  prompt : history.queue.pause = .none
  /-- The former workers ended. -/
  former : ∀ worker ∈ history.former, worker.isLive = false
  /-- Each accepted task has a fate. -/
  counted : history.queue.fates.length = history.accepted.length
  /-- What waits are accepted tasks under their tickets. -/
  lined : ∀ ticket task, .task ticket task ∈ history.queue.line →
    history.accepted[ticket]? = some task
  /-- What the worker took is an accepted task under its ticket. -/
  handed : ∀ ticket task, history.queue.worker = .holding (.task ticket task) →
    history.accepted[ticket]? = some task
  /-- Where no worker goes on, someone has yet to start one for each task that waits. -/
  owed : history.queue.worker.isLive = false → ∀ ticket ∈ history.queue.waiting,
    ticket ∈ history.owed
  /-- The calls are those of accepted tasks. -/
  begun : ∀ call ∈ history.begun, history.accepted[call.1]? = some call.2
  /-- The calls that were begun are those that ended and the one that the worker is at. -/
  alone : history.begun.map Prod.fst =
    history.ended.map Prod.fst ++ history.queue.worker.running?.toList
  /-- The calls were begun in the order of the tickets. -/
  ordered : (history.begun.map Prod.fst).Pairwise (· < ·)
  /-- A task is done with an outcome exactly when its call ended with it. -/
  ended : ∀ ticket outcome, (ticket, outcome) ∈ history.ended ↔
    history.queue.fate? ticket = some (.done outcome)

namespace Orderly

variable {history : History τ β}

/-- A history in which nothing happened is orderly. -/
theorem new : Orderly ({} : History τ β) where
  regular := .new _
  prompt := rfl
  former := by simp
  counted := rfl
  lined := by simp
  handed := by simp
  owed := by simp [waiting]
  begun := by simp
  alone := rfl
  ordered := by simp
  ended := by simp [fate?]

/-- Putting a task keeps a history orderly. -/
theorem accept (orderly : Orderly history) (task : τ) :
    Orderly (history.after (.accept task)) := by
  rw [History.after]
  split
  · exact orderly
  · rename_i ticket queue accepted
    have regular := orderly.regular.accept accepted
    cases refusing : history.queue.stopping with
    | true => simp [ChangeQueue.accept, refusing] at accepted
    | false =>
      rw [Regular.accept_eq refusing, Option.some.injEq, Prod.mk.injEq] at accepted
      obtain ⟨rfl, rfl⟩ := accepted
      have kept : ∀ {other : Nat} {known}, history.accepted[other]? = some known →
          (history.accepted ++ [task])[other]? = some known := by
        intro other known found
        rw [List.getElem?_append_left (List.getElem?_eq_some_iff.1 found).1]
        exact found
      refine ⟨regular, orderly.prompt, orderly.former, ?_, ?_, ?_, ?_, ?_, orderly.alone,
        orderly.ordered, ?_⟩
      · simp [orderly.counted]
      · intro other known listed
        rcases List.mem_append.1 listed with old | new
        · exact kept (orderly.lined other known old)
        · obtain ⟨rfl, rfl⟩ := Slot.task.inj (List.mem_singleton.1 new)
          simp [orderly.counted]
      · exact fun other known held => kept (orderly.handed other known held)
      · intro gone other waits
        simp only [waiting, List.filterMap_append, List.mem_append] at waits
        rcases waits with old | new
        · exact List.mem_append_left _ (orderly.owed gone other old)
        · exact List.mem_append_right _ (by simpa [Slot.ticket?] using new)
      · exact fun call listed => kept (orderly.begun call listed)
      · intro other outcome
        rw [orderly.ended, fate?, fate?]
        rcases Nat.lt_trichotomy other history.queue.fates.length with old | rfl | far
        · rw [List.getElem?_append_left old]
        · simp
        · rw [List.getElem?_eq_none (by omega), List.getElem?_eq_none (by simp; omega)]

/-- Starting a worker keeps a history orderly. -/
theorem started (orderly : Orderly history) : Orderly history.started := by
  have regular := orderly.regular.start
  rw [History.started]
  cases running : history.queue.isRunning with
  | true =>
    have same : history.queue.start = history.queue := by simp [ChangeQueue.start, running]
    simp only [same, if_true]
    exact orderly
  | false =>
    have shape : history.queue.start = { history.queue with worker := .idle } := by
      simp [ChangeQueue.start, running]
    have none : history.queue.worker.running? = none := by
      cases stands : history.queue.worker <;>
        simp_all [isRunning, Worker.isLive, Worker.running?]
    rw [shape] at regular ⊢
    refine ⟨regular, orderly.prompt, ?_, orderly.counted, orderly.lined, by simp,
      by simp [Worker.isLive], orderly.begun, ?_, orderly.ordered, orderly.ended⟩
    · intro worker listed
      rcases List.mem_cons.1 listed with rfl | old
      · exact running
      · exact orderly.former worker old
    · rw [orderly.alone, none]
      rfl

/-- When a submitter started the worker, a history stays orderly: there is one now. -/
theorem startFor (orderly : Orderly history) (ticket : Nat) :
    Orderly (history.after (.startFor ticket)) := by
  rw [History.after]
  split
  · have live := isLive_start history.queue
    exact { orderly.started with owed := fun gone => absurd live (by simp_all [History.started]) }
  · exact orderly

/-- Asking for a stop keeps a history orderly. -/
theorem stop (orderly : Orderly history) : Orderly (history.after .stop) := by
  have regular := orderly.regular.requestStop
  rw [History.after]
  rcases requestStop_cases history.queue with same | shape
  · rw [same]
    exact orderly
  · rw [shape] at regular ⊢
    refine { orderly with regular, lined := ?_, owed := ?_ }
    · intro ticket task listed
      exact orderly.lined ticket task (by simpa using listed)
    · intro gone ticket waits
      exact orderly.owed gone ticket (by simpa [waiting, Slot.ticket?] using waits)

/-- Cancelling a task keeps a history orderly. -/
theorem cancel (orderly : Orderly history) (ticket : Nat) :
    Orderly (history.after (.cancel ticket)) := by
  have regular := orderly.regular.cancel ticket
  rw [History.after]
  rcases cancel_cases history.queue ticket with same | ⟨known, shape⟩
  · rw [same]
    exact orderly
  · rw [shape] at regular ⊢
    refine { orderly with regular, counted := ?_, ended := ?_ }
    · rw [List.length_set]
      exact orderly.counted
    · intro other outcome
      refine (orderly.ended other outcome).trans ?_
      change _ ↔ (history.queue.fates.set ticket .cancelled)[other]? = _
      rw [getElem?_set_fate known]
      split
      · subst other
        simp [known]
      · rfl

/-- The worker can make its pauses. -/
theorem steady (orderly : Orderly history) (now : Nat) :
    history.queue.pause.fails now = false := by
  rw [orderly.prompt]
  rfl

/-- Taking the first place keeps a history orderly. -/
theorem took (orderly : Orderly history) {slot : Slot τ} {line : List (Slot τ)}
    (idle : history.queue.worker = .idle) (first : history.queue.line = slot :: line) :
    Orderly { history with queue := { history.queue with line, worker := .holding slot } } := by
  have alone := orderly.alone
  rw [idle] at alone
  have inside : ∀ ticket task, .task ticket task ∈ slot :: line →
      history.accepted[ticket]? = some task := fun ticket task listed =>
    orderly.lined ticket task (first ▸ listed)
  refine ⟨orderly.regular.took idle first, orderly.prompt, orderly.former, orderly.counted, ?_, ?_,
    by simp [Worker.isLive], orderly.begun, alone, orderly.ordered, orderly.ended⟩
  · exact fun ticket task listed => inside ticket task (List.mem_cons_of_mem _ listed)
  · intro ticket task held
    exact inside ticket task (by rw [Worker.holding.inj held]; exact List.mem_cons_self)

/-- Ending at the marker keeps a history orderly: nothing waits. -/
theorem left (orderly : Orderly history) (held : history.queue.worker = .holding .stop) :
    Orderly { history with
      queue := { history.queue with worker := .absent, stopping := false } } := by
  have alone := orderly.alone
  rw [held] at alone
  refine ⟨orderly.regular.left held, orderly.prompt, orderly.former, orderly.counted,
    orderly.lined, by simp, ?_, orderly.begun, alone, orderly.ordered, orderly.ended⟩
  cases orderly.regular.phase with
  | going _ _ free => exact absurd held free
  | marked _ _ _ _ _ free => exact absurd held free
  | leaving _ nothing _ => simp [waiting, nothing]

/-- A worker that goes on without a task keeps a history orderly. -/
theorem free (orderly : Orderly history) {worker : Worker τ}
    (regular : Regular { history.queue with worker }) (live : worker.isLive = true)
    (empty : ∀ slot, worker ≠ .holding slot)
    (before : history.queue.worker.running? = none) (after : worker.running? = none) :
    Orderly { history with queue := { history.queue with worker } } := by
  have alone := orderly.alone
  rw [before, ← after] at alone
  exact ⟨regular, orderly.prompt, orderly.former, orderly.counted, orderly.lined,
    fun _ _ held => absurd held (empty _), by simp [live], orderly.begun, alone, orderly.ordered,
    orderly.ended⟩

/-- Beginning the call of a task keeps a history orderly. -/
theorem began (orderly : Orderly history) {ticket : Nat} {task : τ}
    (held : history.queue.worker = .holding (.task ticket task)) :
    Orderly { history with
      queue := { history.queue with
        worker := .busy ticket task, fates := history.queue.fates.set ticket .running }
      begun := history.begun ++ [(ticket, task)] } := by
  have given := orderly.handed ticket task held
  obtain ⟨fate, known, fresh⟩ := orderly.regular.handed ticket task held
  have alone := orderly.alone
  rw [held] at alone
  have above : ∀ other ∈ history.begun.map Prod.fst, other < ticket := by
    intro other listed
    rw [alone] at listed
    obtain ⟨result, answered⟩ : ∃ result, (other, result) ∈ history.ended := by
      simpa [Worker.running?] using listed
    exact orderly.regular.lt_of_done held ((orderly.ended other result).1 answered)
  refine ⟨orderly.regular.began held, orderly.prompt, orderly.former, ?_, orderly.lined, by simp,
    by simp [Worker.isLive], ?_, ?_, ?_, ?_⟩
  · rw [List.length_set]
    exact orderly.counted
  · intro call listed
    rcases List.mem_append.1 listed with old | new
    · exact orderly.begun call old
    · rw [List.mem_singleton.1 new]
      exact given
  · rw [List.map_append, alone]
    simp [Worker.running?]
  · rw [List.map_append, List.pairwise_append]
    refine ⟨orderly.ordered, by simp, ?_⟩
    intro other listed last new
    rw [List.map_singleton, List.mem_singleton] at new
    exact new ▸ above other listed
  · intro other result
    refine (orderly.ended other result).trans ?_
    change _ ↔ (history.queue.fates.set ticket .running)[other]? = _
    rw [getElem?_set_fate known]
    split
    · subst other
      rcases fresh with rfl | rfl <;> simp [known]
    · rfl

/-- Ending the call of a task keeps a history orderly. -/
theorem done (orderly : Orderly history) {ticket : Nat} {task : τ}
    (busy : history.queue.worker = .busy ticket task) (outcome : Except Text β) :
    Orderly { history with
      queue := { history.queue with
        worker := .resting, fates := history.queue.fates.set ticket (.done outcome) }
      ended := history.ended ++ [(ticket, outcome)] } := by
  have known := orderly.regular.runs ticket task busy
  have alone := orderly.alone
  rw [busy] at alone
  refine ⟨orderly.regular.ended busy outcome, orderly.prompt, orderly.former, ?_, orderly.lined,
    by simp, by simp [Worker.isLive], orderly.begun, ?_, orderly.ordered, ?_⟩
  · rw [List.length_set]
    exact orderly.counted
  · rw [alone]
    simp [Worker.running?]
  · intro other result
    rw [List.mem_append, orderly.ended, List.mem_singleton, Prod.mk.injEq]
    change _ ↔ (history.queue.fates.set ticket (.done outcome))[other]? = _
    rw [getElem?_set_fate known]
    split
    · subst other
      simp [known, eq_comm]
    · rename_i apart
      simp [apart]

/-- A step of the worker keeps a history orderly. -/
theorem worked (orderly : Orderly history) (outcome : Except Text β) (now : Nat) :
    Orderly (history.worked outcome now) := by
  have step := works (fun (_ : Unit) (_ : τ) => (outcome, ())) (orderly.steady now) ()
  have regular := orderly.regular.works step
  rw [History.worked]
  generalize history.queue.step (fun _ _ => (outcome, ())) now () = next at step regular ⊢
  cases step with
  | stood still =>
    rcases still with gone | ⟨idle, _⟩
    · cases stands : history.queue.worker with
      | absent | dead => simpa [stands] using orderly
      | idle | holding _ | busy _ _ | resting => simp [stands, Worker.isLive] at gone
    · simpa [idle] using orderly
  | took slot line idle first => simpa [idle] using orderly.took idle first
  | left held => simpa [held] using orderly.left held
  | passed ticket task held cancelled =>
    simpa [held] using orderly.free regular rfl (by simp) (by rw [held]; rfl) rfl
  | began ticket task held wanted => simpa [held] using orderly.began held
  | ended ticket task busy => simpa [busy] using orderly.done busy outcome
  | rested resting =>
    simpa [resting] using orderly.free regular rfl (by simp) (by rw [resting]; rfl) rfl

/-- Former workers that ended do nothing. -/
theorem workedFormer_eq (orderly : Orderly history) (index : Nat) (outcome : Except Text β)
    (now : Nat) : history.workedFormer index outcome now = history :=
  History.workedFormer_of_gone history orderly.former index outcome now

/-- Whatever happens keeps a history orderly. -/
theorem after (orderly : Orderly history) (action : Action τ β) :
    Orderly (history.after action) := by
  cases action with
  | accept task => exact orderly.accept task
  | startFor ticket => exact orderly.startFor ticket
  | start => exact orderly.started
  | stop => exact orderly.stop
  | cancel ticket => exact orderly.cancel ticket
  | work outcome now => exact orderly.worked outcome now
  | workFormer index outcome now =>
    rw [History.after, orderly.workedFormer_eq]
    exact orderly

/-- Through every interleaving a history stays orderly. -/
theorem run (orderly : Orderly history) (actions : List (Action τ β)) :
    Orderly (history.run actions) := by
  induction actions generalizing history with
  | nil => exact orderly
  | cons action rest ih => exact ih (orderly.after action)

end Orderly

end ChangeQueue

end Restyle
