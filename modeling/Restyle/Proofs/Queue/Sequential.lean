import Restyle.Proofs.Queue.History

/-!
# The queue as a sequential executor

Whatever callers and workers do in between, tasks are called one at a time and in the order in which
they were accepted, each at most once and with its own outcome, and a worker that is left alone
calls all that are not cancelled, whatever the calls before them came to. Main statement: so it is
after every interleaving (`run_sequential`).
-/
namespace Restyle

namespace ChangeQueue

variable {τ β σ : Type} {queue : ChangeQueue τ β} {history : History τ β}

/-- Every task that is carried out comes to an outcome. -/
theorem map_fst_carryOut (act : σ → τ → Except Text β × σ) (tasks : List (Nat × τ)) (state : σ) :
    (carryOut act tasks state).1.map Prod.fst = tasks.map Prod.fst := by
  induction tasks generalizing state with
  | nil => rfl
  | cons call later ih =>
    rw [carryOut, List.map_cons, List.map_cons, ih]

/-- Starting a worker leaves what is due. -/
theorem due_start (queue : ChangeQueue τ β) : queue.start.due = queue.due := by
  rw [start]
  split
  · rfl
  · rename_i still
    cases stands : queue.worker with
    | absent | dead => simp only [due, stands]
    | idle | holding _ | busy _ _ | resting => simp [isRunning, stands, Worker.isLive] at still

/-- A task that waits is due. -/
theorem Regular.mem_due (regular : Regular queue) {ticket : Nat}
    (waits : queue.fate? ticket = some .waiting) : ticket ∈ queue.due.map Prod.fst := by
  obtain ⟨settled, parted, past⟩ := regular.parted
  have given : ticket ∈ List.range queue.fates.length :=
    List.mem_range.2 (List.getElem?_eq_some_iff.1 waits).1
  have wanted : ∀ task : τ, due? queue.fates (.task ticket task) = some (ticket, task) := by
    intro task
    rw [fate?] at waits
    simp only [due?, waits]
  have inside : ∀ slots : List (Slot τ), ticket ∈ slots.filterMap Slot.ticket? →
      ticket ∈ (slots.filterMap (due? queue.fates)).map Prod.fst := by
    intro slots listed
    obtain ⟨slot, member, named⟩ := List.mem_filterMap.1 listed
    cases slot with
    | stop => simp [Slot.ticket?] at named
    | task other task =>
      obtain rfl := Option.some.inj named
      exact List.mem_map.2 ⟨_, List.mem_filterMap.2 ⟨_, member, wanted task⟩, rfl⟩
  rw [parted, List.mem_append, List.mem_range] at given
  rcases given with below | listed
  · obtain ⟨fate, known, done⟩ := past ticket below
    rw [waits, Option.some.injEq] at known
    subst known
    rcases done with same | ⟨_, same⟩ <;> simp at same
  · rw [due]
    cases stands : queue.worker with
    | busy other task =>
      rw [stands] at listed
      rcases List.mem_cons.1 (by simpa [Worker.ticket?] using listed) with rfl | later
      · simp
      · exact List.mem_cons_of_mem _ (inside queue.line later)
    | holding slot =>
      rw [stands] at listed
      refine inside (slot :: queue.line) ?_
      rw [List.filterMap_cons]
      cases held : slot.ticket? with
      | none => simpa [waiting, Worker.ticket?, held] using listed
      | some other => simpa [waiting, Worker.ticket?, held] using listed
    | absent | idle | resting | dead =>
      rw [stands] at listed
      exact inside queue.line (by simpa [waiting, Worker.ticket?] using listed)

/-- Tasks are called one at a time and in order, each at most once. -/
structure Sequential (history : History τ β) : Prop where
  /-- In the order of acceptance the tasks are those that were done or passed over as cancelled, the
  one at the worker, if there is one, and those that wait, first one first. -/
  parted : ∃ settled, List.range history.accepted.length =
      List.range settled ++ (history.queue.worker.ticket?.toList ++ history.queue.waiting) ∧
    ∀ ticket < settled, (∃ outcome, (ticket, outcome) ∈ history.ended) ∨
      history.queue.fate? ticket = some .cancelled
  /-- Calls are begun in the order of acceptance, and none twice. -/
  ordered : (history.begun.map Prod.fst).Pairwise (· < ·)
  /-- A call is that of the task that was accepted under its ticket. -/
  own : ∀ call ∈ history.begun, history.accepted[call.1]? = some call.2
  /-- All calls that were begun ended, in the same order, but for the last one while the worker is
  at it. -/
  alone : history.begun.map Prod.fst =
    history.ended.map Prod.fst ++ history.queue.worker.running?.toList
  /-- What a task is done with is what its own call came to. -/
  answered : ∀ ticket outcome, history.queue.fate? ticket = some (.done outcome) ↔
    (ticket, outcome) ∈ history.ended
  /-- A task that was cancelled is not called. -/
  spared : ∀ ticket, history.queue.fate? ticket = some .cancelled →
    ticket ∉ history.begun.map Prod.fst
  /-- A worker that is left alone calls all tasks that wait, one after the other and whatever each
  of them comes to. -/
  carriedOut : ∀ {σ : Type} (act : σ → τ → Except Text β × σ) (now : Nat) (state : σ),
    let last := history.queue.start.settle act now state
    let carried := carryOut act history.queue.due state
    last.1.line = [] ∧ last.2 = carried.2 ∧
      (∀ answer ∈ carried.1, last.1.fate? answer.1 = some (.done answer.2)) ∧
      (∀ ticket, history.queue.fate? ticket = some .waiting → ticket ∈ carried.1.map Prod.fst) ∧
      ∀ ticket < history.accepted.length, ∃ fate, last.1.fate? ticket = some fate ∧ fate.IsOver

/-- An orderly history is sequential. -/
theorem Orderly.sequential (orderly : Orderly history) : Sequential history := by
  have regular := orderly.regular
  refine ⟨?_, orderly.ordered, orderly.begun, orderly.alone,
    fun ticket outcome => (orderly.ended ticket outcome).symm, ?_, ?_⟩
  · obtain ⟨settled, parted, past⟩ := regular.parted
    refine ⟨settled, orderly.counted ▸ parted, fun ticket below => ?_⟩
    obtain ⟨fate, known, rfl | ⟨outcome, rfl⟩⟩ := past ticket below
    · exact .inr known
    · exact .inl ⟨outcome, (orderly.ended ticket outcome).2 known⟩
  · intro ticket cancelled called
    rw [orderly.alone, List.mem_append] at called
    rcases called with ended | running
    · obtain ⟨⟨_, outcome⟩, listed, rfl⟩ := List.mem_map.1 ended
      rw [(orderly.ended _ outcome).1 listed] at cancelled
      simp at cancelled
    · cases stands : history.queue.worker with
      | busy other task =>
        obtain rfl : ticket = other := by simpa [stands, Worker.running?] using running
        rw [regular.runs ticket task stands] at cancelled
        simp at cancelled
      | absent | idle | holding _ | resting | dead => simp [stands, Worker.running?] at running
  · intro σ act now state last carried
    have steady : history.queue.start.pause.fails now = false := by
      rw [pause_start]
      exact orderly.steady now
    have settled := regular.start.settle steady (.inl (isLive_start _)) act state
    refine ⟨settled.nothing.1, ?_, ?_, ?_, ?_⟩
    · exact settled.shared.trans (by rw [due_start])
    · have answered := settled.answered
      rw [due_start] at answered
      exact answered
    · intro ticket waits
      rw [map_fst_carryOut]
      exact regular.mem_due waits
    · intro ticket given
      refine settled.isOver ?_
      rw [fates_start, orderly.counted]
      exact given

/-- After every interleaving the tasks of a queue were called one at a time, in the order in which
they were accepted, each at most once and with its own outcome, and those that wait will be. -/
theorem run_sequential (actions : List (Action τ β)) :
    Sequential (({} : History τ β).run actions) :=
  (Orderly.new.run actions).sequential

end ChangeQueue

end Restyle
