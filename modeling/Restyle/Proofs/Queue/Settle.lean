import Restyle.Proofs.Queue.Step

/-!
# Settling a queue

A worker that is left alone does the tasks that are due one after the other, whatever each of them
comes to, and ends at a queue in which every task is over (`Regular.settle`).
-/
namespace Restyle

namespace ChangeQueue

variable {τ β σ : Type} {queue : ChangeQueue τ β} {act : σ → τ → Except Text β × σ} {state : σ}
  {now : Nat}

/-- The task of a place, unless it was cancelled. -/
def due? (fates : List (Fate β)) : Slot τ → Option (Nat × τ)
  | .task ticket task =>
    match fates[ticket]? with
    | some .cancelled => none
    | _ => some (ticket, task)
  | .stop => none

/-- The tasks that the worker has yet to be done with, first one first. -/
def due (queue : ChangeQueue τ β) : List (Nat × τ) :=
  match queue.worker with
  | .busy ticket task => (ticket, task) :: queue.line.filterMap (due? queue.fates)
  | .holding slot => (slot :: queue.line).filterMap (due? queue.fates)
  | _ => queue.line.filterMap (due? queue.fates)

/-- Do tasks one after the other; what each comes to, and what they leave of the state that they
share. -/
def carryOut (act : σ → τ → Except Text β × σ) :
    List (Nat × τ) → σ → List (Nat × Except Text β) × σ
  | [], state => ([], state)
  | (ticket, task) :: later, state =>
    let (outcome, state) := act state task
    let (outcomes, state) := carryOut act later state
    ((ticket, outcome) :: outcomes, state)

/-- The number of steps that the worker has to make at most. -/
def remaining (queue : ChangeQueue τ β) : Nat :=
  4 * queue.line.length + match queue.worker with
    | .holding _ => 3
    | .busy _ _ => 2
    | .resting => 1
    | _ => 0

/-- A fate other than that of a cancelled task leaves what is due. -/
theorem due?_set {fates : List (Fate β)} {ticket : Nat} (wanted : fates[ticket]? ≠ some .cancelled)
    (fate : Fate β) (kept : fate ≠ .cancelled) :
    (due? (fates.set ticket fate) : Slot τ → Option (Nat × τ)) = due? fates := by
  have alike : ∀ other : Nat, (fates.set ticket fate)[other]? = some Fate.cancelled ↔
      fates[other]? = some Fate.cancelled := by
    intro other
    by_cases here : other = ticket
    · subst here
      refine iff_of_false (fun held => ?_) wanted
      obtain ⟨bound, same⟩ := List.getElem?_eq_some_iff.1 held
      rw [List.getElem_set_self] at same
      exact kept same
    · rw [List.getElem?_set_ne (Ne.symm here)]
  funext slot
  cases slot with
  | stop => rfl
  | task other task =>
    simp only [due?]
    by_cases cancelled : fates[other]? = some Fate.cancelled
    · rw [cancelled, (alike other).2 cancelled]
    · have still := fun held => cancelled ((alike other).1 held)
      split
      · exact absurd ‹_› still
      · rfl

/-- A step of the worker does nothing of what is due, or it does the first task. -/
theorem Works.due_cases {next : ChangeQueue τ β × σ} (regular : Regular queue)
    (step : Works act queue state next) :
    next.1.due = queue.due ∧ next.2 = state ∨
      ∃ ticket task, queue.due = (ticket, task) :: next.1.due ∧
        next.2 = (act state task).2 ∧
        next.1.fate? ticket = some (.done (act state task).1) := by
  cases step with
  | stood => exact .inl ⟨rfl, rfl⟩
  | took slot line idle first => exact .inl ⟨by simp only [due, idle, first], rfl⟩
  | left held => exact .inl ⟨by simp only [due, held, List.filterMap_cons, due?], rfl⟩
  | passed ticket task held cancelled =>
    rw [fate?] at cancelled
    exact .inl ⟨by simp only [due, held, List.filterMap_cons, due?, cancelled], rfl⟩
  | began ticket task held wanted =>
    have first : due? queue.fates (.task ticket task) = some (ticket, task) := by
      rw [due?]
      split
      · contradiction
      · rfl
    refine .inl ⟨?_, rfl⟩
    simp only [due, held, List.filterMap_cons, first, due?_set wanted .running (by simp)]
  | ended ticket task busy =>
    have known := regular.runs ticket task busy
    have wanted : queue.fate? ticket ≠ some .cancelled := by simp [known]
    refine .inr ⟨ticket, task, ?_, rfl, fate?_set_self known _⟩
    simp only [due, busy, due?_set wanted (.done (act state task).1) (by simp)]
  | rested resting => exact .inl ⟨by simp only [due, resting], rfl⟩

/-- A step of the worker leaves every task over that is. -/
theorem Works.fate?_eq {next : ChangeQueue τ β × σ} (regular : Regular queue)
    (step : Works act queue state next) {ticket : Nat} {fate : Fate β}
    (known : queue.fate? ticket = some fate) (past : fate.IsOver) :
    next.1.fate? ticket = some fate := by
  cases step with
  | stood | took | left | passed | rested => exact known
  | began other task held wanted =>
    have apart : ticket ≠ other := by
      rintro rfl
      obtain ⟨fresh, found, new⟩ := regular.handed ticket task held
      rw [known, Option.some.injEq] at found
      subst found
      rcases past with rfl | ⟨_, rfl⟩
      · exact wanted known
      · rcases new with same | same <;> simp at same
    exact (fate?_set_of_ne apart queue .running).trans known
  | ended other task busy =>
    have apart : ticket ≠ other := by
      rintro rfl
      rw [regular.runs ticket task busy, Option.some.injEq] at known
      subst known
      rcases past with same | ⟨_, same⟩ <;> simp at same
    exact (fate?_set_of_ne apart queue _).trans known

/-- A step of the worker brings it nearer to its end, or there is nothing left to do. -/
theorem Works.remaining_lt {next : ChangeQueue τ β × σ} (step : Works act queue state next)
    (served : queue.worker.isLive = true ∨ queue.line = []) :
    next.1.remaining < queue.remaining ∨ next = (queue, state) ∧ queue.remaining = 0 := by
  cases step with
  | stood still =>
    refine .inr ⟨rfl, ?_⟩
    rcases still with gone | ⟨idle, nothing⟩
    · have nothing : queue.line = [] := served.resolve_left (by simp [gone])
      rw [remaining, nothing]
      cases stands : queue.worker <;> simp_all [Worker.isLive]
    · simp [remaining, idle, nothing]
  | took slot line idle first =>
    simp only [remaining, idle, first, List.length_cons]
    omega
  | left held | passed _ _ held _ | began _ _ held _ | ended _ _ held | rested held =>
    simp only [remaining, held]
    omega

/-- A step of the worker leaves it at work, or it leaves nothing behind. -/
theorem Works.served {next : ChangeQueue τ β × σ} (regular : Regular queue)
    (step : Works act queue state next)
    (served : queue.worker.isLive = true ∨ queue.line = []) :
    next.1.worker.isLive = true ∨ next.1.line = [] := by
  cases step with
  | stood => exact served
  | took | passed | began | ended | rested => exact .inl rfl
  | left held =>
    cases regular.phase with
    | going _ _ free => exact absurd held free
    | marked _ _ _ _ _ free => exact absurd held free
    | leaving _ nothing _ => exact .inr nothing

/-- The end of a worker that is left alone: nothing waits, the tasks that were due have come to what
doing them in order comes to, and the tasks that were over are as they were. -/
structure Settled (act : σ → τ → Except Text β × σ) (queue : ChangeQueue τ β) (state : σ)
    (last : ChangeQueue τ β × σ) : Prop where
  /-- The queue is still regular. -/
  regular : Regular last.1
  /-- Nothing waits, and the worker is at no task. -/
  nothing : last.1.line = [] ∧ last.1.worker.ticket? = none
  /-- As many tasks were accepted as before. -/
  counted : last.1.fates.length = queue.fates.length
  /-- The shared state is that after the tasks in order. -/
  shared : last.2 = (carryOut act queue.due state).2
  /-- Each task that was due came to its own outcome. -/
  answered : ∀ answer ∈ (carryOut act queue.due state).1,
    last.1.fate? answer.1 = some (.done answer.2)
  /-- What was over is as it was. -/
  kept : ∀ ticket fate, queue.fate? ticket = some fate → fate.IsOver →
    last.1.fate? ticket = some fate

/-- Every task of a settled queue is over. -/
theorem Settled.isOver {last : ChangeQueue τ β × σ} (settled : Settled act queue state last)
    {ticket : Nat} (given : ticket < queue.fates.length) :
    ∃ fate, last.1.fate? ticket = some fate ∧ fate.IsOver := by
  obtain ⟨bound, parted, past⟩ := settled.regular.parted
  have sizes := congrArg List.length parted
  simp only [waiting, settled.nothing.1, settled.nothing.2, List.filterMap_nil, List.append_nil,
    Option.toList_none, List.length_range] at sizes
  exact past ticket (by rw [← sizes, settled.counted]; exact given)

/-- A step of the worker accepts no task. -/
theorem Works.length_fates {next : ChangeQueue τ β × σ} (step : Works act queue state next) :
    next.1.fates.length = queue.fates.length := by
  cases step with
  | stood | took | left | passed | rested => rfl
  | began | ended => exact List.length_set

/-- What is settled after a step of the worker was settled from before it. -/
theorem Settled.of_works {next last : ChangeQueue τ β × σ} (regular : Regular queue)
    (step : Works act queue state next) (settled : Settled act next.1 next.2 last) :
    Settled act queue state last := by
  have kept : ∀ ticket fate, queue.fate? ticket = some fate → fate.IsOver →
      last.1.fate? ticket = some fate := fun ticket fate known past =>
    settled.kept ticket fate (step.fate?_eq regular known past) past
  have counted := settled.counted.trans step.length_fates
  rcases step.due_cases regular with ⟨due, same⟩ | ⟨ticket, task, due, after, done⟩
  · refine ⟨settled.regular, settled.nothing, counted, ?_, ?_, kept⟩
    · rw [settled.shared, due, same]
    · rw [← due, ← same]
      exact settled.answered
  · refine ⟨settled.regular, settled.nothing, counted, ?_, ?_, kept⟩
    · rw [settled.shared, due, after]
      rfl
    · rw [due]
      intro answer listed
      rcases List.mem_cons.1 listed with rfl | later
      · exact settled.kept ticket _ done (.inr ⟨_, rfl⟩)
      · exact settled.answered answer (by rw [after]; exact later)

/-- A worker that makes as many steps as it has to, and its pauses, settles its queue. -/
theorem Regular.settleFor (regular : Regular queue) (steady : queue.pause.fails now = false)
    (served : queue.worker.isLive = true ∨ queue.line = []) (act : σ → τ → Except Text β × σ)
    (state : σ) {fuel : Nat} (enough : queue.remaining ≤ fuel) :
    Settled act queue state (queue.settleFor act now state fuel) := by
  induction fuel generalizing queue state with
  | zero =>
    have nothing : queue.line = [] := by
      rw [remaining] at enough
      exact List.eq_nil_of_length_eq_zero (by omega)
    have free : queue.worker.ticket? = none ∧ queue.due = [] := by
      cases stands : queue.worker <;>
        simp_all [remaining, Worker.ticket?, due]
    refine ⟨regular, ⟨nothing, free.1⟩, rfl, ?_, ?_, fun _ _ known _ => known⟩
    · rw [free.2]
      rfl
    · rw [free.2]
      simp [carryOut]
  | succ fuel ih =>
    have step := ChangeQueue.works act steady state
    have next := regular.works step
    refine .of_works regular step
      (ih next (step.pause ▸ steady) (step.served regular served) _ ?_)
    rcases step.remaining_lt served with less | ⟨same, none⟩
    · omega
    · rw [same]
      exact none ▸ Nat.zero_le fuel

/-- Settling a queue that has a worker, or in which nothing waits, does all that is due when the
pauses can be made. -/
theorem Regular.settle (regular : Regular queue) (steady : queue.pause.fails now = false)
    (served : queue.worker.isLive = true ∨ queue.line = []) (act : σ → τ → Except Text β × σ)
    (state : σ) : Settled act queue state (queue.settle act now state) := by
  refine regular.settleFor steady served act state ?_
  rw [remaining]
  split <;> omega

end ChangeQueue

end Restyle
