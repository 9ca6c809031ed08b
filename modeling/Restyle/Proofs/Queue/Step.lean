import Restyle.Queue
import Mathlib.Data.List.Range

/-!
# Steps of the change queue

A queue is regular when its worker is at the marker only with nothing behind it, refuses tasks from
the marker on and until it left, and goes through the tickets in order: those that are over, then
the one it is at, then those that wait. What one step of a worker can do that does not end at a
pause is said once (`works`), and everything that is done to a queue leaves it regular
(`Regular.accept`, `Regular.start`, `Regular.requestStop`, `Regular.cancel`, `Regular.step`).
-/
namespace Restyle

variable {τ β σ : Type}

/-- The ticket of a place, if it is that of a task. -/
def Slot.ticket? : Slot τ → Option Nat
  | .task ticket _ => some ticket
  | .stop => none

/-- The ticket of the task that a worker is at. -/
def Worker.running? : Worker τ → Option Nat
  | .busy ticket _ => some ticket
  | _ => none

/-- The ticket of the task that a worker took or is at. -/
def Worker.ticket? : Worker τ → Option Nat
  | .holding slot => slot.ticket?
  | .busy ticket _ => some ticket
  | _ => none

/-- Whether a task is over: it is done or was cancelled. -/
def Fate.IsOver (fate : Fate β) : Prop := fate = .cancelled ∨ ∃ outcome, fate = .done outcome

/-- Whether a task has not been begun. -/
def Fate.IsFresh (fate : Fate β) : Prop := fate = .waiting ∨ fate = .cancelled

namespace ChangeQueue

variable {queue : ChangeQueue τ β} {ticket now : Nat} {task : τ}

/-- The tickets of the tasks that wait, first one first. -/
def waiting (queue : ChangeQueue τ β) : List Nat := queue.line.filterMap Slot.ticket?

/-- What one step of a worker that does not end at a pause can do to a queue and to what tasks
share. -/
inductive Works (act : σ → τ → Except Text β × σ) (queue : ChangeQueue τ β) (state : σ) :
    ChangeQueue τ β × σ → Prop where
  /-- There is nothing to do, or no one to do it. -/
  | stood (still : queue.worker.isLive = false ∨ queue.worker = .idle ∧ queue.line = []) :
    Works act queue state (queue, state)
  /-- It takes the first place. -/
  | took (slot : Slot τ) (line : List (Slot τ)) (idle : queue.worker = .idle)
    (first : queue.line = slot :: line) :
    Works act queue state ({ queue with line, worker := .holding slot }, state)
  /-- It ends at the marker. -/
  | left (held : queue.worker = .holding .stop) :
    Works act queue state ({ queue with worker := .absent, stopping := false }, state)
  /-- It passes over a cancelled task. -/
  | passed (ticket : Nat) (task : τ) (held : queue.worker = .holding (.task ticket task))
    (cancelled : queue.fate? ticket = some .cancelled) :
    Works act queue state ({ queue with worker := .resting }, state)
  /-- It begins a task. -/
  | began (ticket : Nat) (task : τ) (held : queue.worker = .holding (.task ticket task))
    (wanted : queue.fate? ticket ≠ some .cancelled) :
    Works act queue state
      ({ queue with worker := .busy ticket task, fates := queue.fates.set ticket .running }, state)
  /-- It is done with a task. -/
  | ended (ticket : Nat) (task : τ) (busy : queue.worker = .busy ticket task) :
    Works act queue state
      ({ queue with
          worker := .resting, fates := queue.fates.set ticket (.done (act state task).1) },
        (act state task).2)
  /-- It goes on from its pause. -/
  | rested (resting : queue.worker = .resting) :
    Works act queue state ({ queue with worker := .idle }, state)

/-- One step of the worker is one of these, or the worker ends at a pause that cannot be made. -/
theorem works_or_ends (act : σ → τ → Except Text β × σ) (now : Nat) (queue : ChangeQueue τ β)
    (state : σ) : Works act queue state (queue.step act now state) ∨
      queue.worker = .resting ∧ queue.pause.fails now = true ∧
        queue.step act now state = ({ queue with worker := .dead }, state) := by
  rw [step]
  cases stands : queue.worker with
  | absent | dead =>
    have same : queue.take = queue := by simp only [take, stands]
    simp only [same]
    exact .inl (.stood (.inl (by rw [stands]; rfl)))
  | idle =>
    cases line : queue.line with
    | nil =>
      have same : queue.take = queue := by simp only [take, stands, line]
      simp only [same]
      exact .inl (.stood (.inr ⟨stands, line⟩))
    | cons slot rest =>
      have took : queue.take = { queue with line := rest, worker := .holding slot } := by
        simp only [take, stands, line]
      simp only [took]
      exact .inl (.took slot rest stands line)
  | holding slot =>
    simp only [attend, stands]
    cases slot with
    | stop => exact .inl (.left stands)
    | task ticket task =>
      simp only
      split
      · rename_i cancelled
        exact .inl (.passed ticket task stands cancelled)
      · rename_i wanted
        exact .inl (.began ticket task stands wanted)
  | busy ticket task =>
    simp only [finish, stands]
    exact .inl (.ended ticket task stands)
  | resting =>
    simp only [rest, stands]
    split
    · rename_i ends
      exact .inr ⟨trivial, (Bool.and_eq_true_iff.1 ends).1, rfl⟩
    · exact .inl (.rested stands)

/-- What one step of the worker does when its pause can be made. -/
theorem works (act : σ → τ → Except Text β × σ) (steady : queue.pause.fails now = false)
    (state : σ) : Works act queue state (queue.step act now state) :=
  (works_or_ends act now queue state).resolve_right fun ⟨_, fails, _⟩ =>
    Bool.false_ne_true (steady.symm.trans fails)

/-- A step of the worker leaves the pause. -/
theorem Works.pause {act : σ → τ → Except Text β × σ} {state : σ} {next : ChangeQueue τ β × σ}
    (step : Works act queue state next) : next.1.pause = queue.pause := by
  cases step <;> rfl

/-- Where the marker of a queue is. -/
inductive Phase (queue : ChangeQueue τ β) : Prop where
  /-- There is none, and tasks are accepted. -/
  | going (accepting : queue.stopping = false) (plain : .stop ∉ queue.line)
    (free : queue.worker ≠ .holding .stop)
  /-- It is the last place, and tasks are refused. -/
  | marked (tasks : List (Slot τ)) (refusing : queue.stopping = true)
    (last : queue.line = tasks ++ [.stop]) (plain : .stop ∉ tasks)
    (live : queue.worker.isLive = true) (free : queue.worker ≠ .holding .stop)
  /-- The worker took it, nothing waits, and tasks are still refused. -/
  | leaving (refusing : queue.stopping = true) (nothing : queue.line = [])
    (held : queue.worker = .holding .stop)

/-- The marker stays where it is while the worker goes from one task to the next. -/
theorem Phase.of_worker {next : ChangeQueue τ β} (phase : Phase queue)
    (line : next.line = queue.line) (stopping : next.stopping = queue.stopping)
    (free : queue.worker ≠ .holding .stop) (live : next.worker.isLive = true)
    (away : next.worker ≠ .holding .stop) : Phase next := by
  cases phase with
  | going accepting plain _ => exact .going (stopping.trans accepting) (line ▸ plain) away
  | marked tasks refusing last plain _ _ =>
    exact .marked tasks (stopping.trans refusing) (line.trans last) plain live away
  | leaving _ _ held => exact absurd held free

/-- A queue whose worker goes through the tickets in order and to the marker last. -/
structure Regular (queue : ChangeQueue τ β) : Prop where
  /-- The worker did not end without taking its leave. -/
  alive : queue.worker ≠ .dead
  /-- The marker is where it can be. -/
  phase : Phase queue
  /-- The tickets are those that are over, the one at the worker and those that wait. -/
  parted : ∃ settled, List.range queue.fates.length =
      List.range settled ++ (queue.worker.ticket?.toList ++ queue.waiting) ∧
    ∀ ticket < settled, ∃ fate, queue.fate? ticket = some fate ∧ fate.IsOver
  /-- A task that waits has not been begun. -/
  fresh : ∀ ticket ∈ queue.waiting, ∃ fate, queue.fate? ticket = some fate ∧ fate.IsFresh
  /-- A task that was taken has not been begun. -/
  handed : ∀ ticket task, queue.worker = .holding (.task ticket task) →
    ∃ fate, queue.fate? ticket = some fate ∧ fate.IsFresh
  /-- The task that the worker is at runs. -/
  runs : ∀ ticket task, queue.worker = .busy ticket task → queue.fate? ticket = some .running

/-- The first ticket that is not over follows those that are, and is none of the later ones. -/
theorem parted_cons {total settled : Nat} {later : List Nat}
    (parted : List.range total = List.range settled ++ ([ticket] ++ later)) :
    ticket = settled ∧ ticket ∉ later ∧
      List.range total = List.range (settled + 1) ++ later := by
  have same : ticket = settled := by
    have here := congrArg (·[settled]?) parted
    rw [List.getElem?_append_right (by simp)] at here
    have sizes := congrArg List.length parted
    simp only [List.length_range, List.length_append, List.length_singleton] at sizes
    simp only [List.length_range, Nat.sub_self, List.singleton_append, List.getElem?_cons_zero,
      List.getElem?_range (show settled < total by omega), Option.some.injEq] at here
    exact here.symm
  have distinct : (List.range settled ++ ([ticket] ++ later)).Nodup := parted ▸ List.nodup_range
  refine ⟨same, (List.nodup_cons.1 (List.nodup_append.1 distinct).2.1).1, ?_⟩
  rw [parted, List.range_succ, same, List.append_assoc]

/-- A new fate of one task leaves those of the others. -/
theorem fate?_set_of_ne {other : Nat} (apart : other ≠ ticket) (queue : ChangeQueue τ β)
    (fate : Fate β) :
    ({ queue with fates := queue.fates.set ticket fate }).fate? other = queue.fate? other := by
  simp only [fate?, List.getElem?_set_ne (Ne.symm apart)]

/-- The new fate of a task that was accepted is its fate. -/
theorem fate?_set_self {known : Fate β} (given : queue.fate? ticket = some known)
    (fate : Fate β) :
    ({ queue with fates := queue.fates.set ticket fate }).fate? ticket = some fate := by
  obtain ⟨bound, _⟩ := List.getElem?_eq_some_iff.1 given
  simp only [fate?, List.getElem?_set_self bound]

/-- The fates after one task got a new one. -/
theorem getElem?_set_fate {known : Fate β} (given : queue.fate? ticket = some known)
    (fate : Fate β) (other : Nat) :
    (queue.fates.set ticket fate)[other]? =
      if other = ticket then some fate else queue.fate? other := by
  split
  · subst other
    exact fate?_set_self given fate
  · exact fate?_set_of_ne ‹_› queue fate

/-- Starting a worker leaves what became of the tasks. -/
theorem fates_start (queue : ChangeQueue τ β) : queue.start.fates = queue.fates := by
  rw [start]
  split <;> rfl

/-- Starting a worker leaves the pause. -/
theorem pause_start (queue : ChangeQueue τ β) : queue.start.pause = queue.pause := by
  rw [start]
  split <;> rfl

/-- A started queue has a worker. -/
theorem isLive_start (queue : ChangeQueue τ β) : queue.start.worker.isLive = true := by
  rw [start]
  split
  · assumption
  · rfl

/-- Asking for a stop leaves a queue as it is, or puts the marker and has it refuse tasks. -/
theorem requestStop_cases (queue : ChangeQueue τ β) :
    queue.requestStop = queue ∨
      queue.requestStop = { queue with stopping := true, line := queue.line ++ [.stop] } := by
  rw [requestStop]
  split
  · exact .inl rfl
  · split
    · exact .inl rfl
    · exact .inr rfl

/-- Cancelling leaves a queue as it is, or gives a task that waits its new fate. -/
theorem cancel_cases (queue : ChangeQueue τ β) (ticket : Nat) :
    (queue.cancel ticket).2 = queue ∨ queue.fate? ticket = some .waiting ∧
      (queue.cancel ticket).2 = { queue with fates := queue.fates.set ticket .cancelled } := by
  rw [cancel]
  split
  · exact .inr ⟨‹_›, rfl⟩
  · exact .inl rfl
  · exact .inl rfl

namespace Regular

/-- A new queue is regular. -/
theorem new (pause : Pause) : Regular ({ pause } : ChangeQueue τ β) where
  alive := by simp
  phase := .going rfl (by simp) (by simp)
  parted := ⟨0, rfl, by simp⟩
  fresh := by simp [waiting]
  handed := by simp
  runs := by simp

/-- Where nothing is refused, an accepted task gets the next ticket and waits as the last one. -/
theorem accept_eq (accepting : queue.stopping = false) (task : τ) :
    queue.accept task = some (queue.fates.length,
      { queue with
        line := queue.line ++ [.task queue.fates.length task]
        fates := queue.fates ++ [.waiting] }) := by
  simp [accept, accepting]

/-- Accepting a task leaves a queue regular. -/
theorem accept (regular : Regular queue) {next : ChangeQueue τ β}
    (accepted : queue.accept task = some (ticket, next)) : Regular next := by
  cases refusing : queue.stopping with
  | true => simp [ChangeQueue.accept, refusing] at accepted
  | false =>
    rw [accept_eq refusing, Option.some.injEq, Prod.mk.injEq] at accepted
    obtain ⟨rfl, rfl⟩ := accepted
    have kept : ∀ {other fate}, queue.fate? other = some fate →
        (queue.fates ++ [.waiting])[other]? = some fate := by
      intro other fate known
      rw [List.getElem?_append_left (List.getElem?_eq_some_iff.1 known).1]
      exact known
    have more : List.filterMap Slot.ticket? (queue.line ++ [.task queue.fates.length task]) =
        queue.waiting ++ [queue.fates.length] := by
      simp [waiting, Slot.ticket?]
    refine ⟨regular.alive, ?_, ?_, ?_, ?_, ?_⟩
    · cases regular.phase with
      | going accepting plain free => exact .going accepting (by simpa using plain) free
      | marked _ marked => rw [refusing] at marked; contradiction
      | leaving marked => rw [refusing] at marked; contradiction
    · obtain ⟨settled, parted, past⟩ := regular.parted
      refine ⟨settled, ?_, ?_⟩
      · simp only [waiting, more, List.length_append, List.length_singleton, List.range_succ]
        rw [parted]
        simp [List.append_assoc, waiting]
      · intro other below
        obtain ⟨fate, known, done⟩ := past other below
        exact ⟨fate, kept known, done⟩
    · intro other waits
      rw [waiting, more, List.mem_append, List.mem_singleton] at waits
      rcases waits with old | rfl
      · obtain ⟨fate, known, fresh⟩ := regular.fresh other old
        exact ⟨fate, kept known, fresh⟩
      · exact ⟨.waiting, by simp [fate?], .inl rfl⟩
    · intro other task held
      obtain ⟨fate, known, fresh⟩ := regular.handed other task held
      exact ⟨fate, kept known, fresh⟩
    · intro other task busy
      exact kept (regular.runs other task busy)

/-- Starting a worker leaves a queue regular. -/
theorem start (regular : Regular queue) : Regular queue.start := by
  rw [ChangeQueue.start]
  split
  · exact regular
  · rename_i still
    have absent : queue.worker = .absent := by
      have alive := regular.alive
      cases stands : queue.worker <;> simp_all [isRunning, Worker.isLive]
    refine ⟨by simp, ?_, ?_, regular.fresh, by simp, by simp⟩
    · cases regular.phase with
      | going accepting plain free => exact .going accepting plain (by simp)
      | marked _ _ _ _ live => exact absurd live still
      | leaving _ _ held => simp [absent] at held
    · have parted := regular.parted
      rw [absent] at parted
      exact parted

/-- Asking for a stop leaves a queue regular. -/
theorem requestStop (regular : Regular queue) : Regular queue.requestStop := by
  rw [ChangeQueue.requestStop]
  split
  · exact regular
  · rename_i present
    split
    · exact regular
    · rename_i accepting
      have live : queue.worker.isLive = true := by
        have alive := regular.alive
        cases stands : queue.worker <;> simp_all [Worker.isLive]
      have same : List.filterMap Slot.ticket? (queue.line ++ [.stop]) = queue.waiting := by
        simp [waiting, Slot.ticket?]
      refine ⟨regular.alive, ?_, ?_, ?_, regular.handed, regular.runs⟩
      · cases regular.phase with
        | going _ plain free => exact .marked queue.line rfl rfl plain live free
        | marked _ refusing => exact absurd refusing accepting
        | leaving refusing => exact absurd refusing accepting
      · simp only [waiting, same]
        exact regular.parted
      · simp only [waiting, same]
        exact regular.fresh

/-- Cancelling a task leaves a queue regular. -/
theorem cancel (regular : Regular queue) (ticket : Nat) : Regular (queue.cancel ticket).2 := by
  rcases cancel_cases queue ticket with same | ⟨known, shape⟩
  · rw [same]
    exact regular
  · rw [shape]
    have fresh : ∀ {other fate}, queue.fate? other = some fate → fate.IsFresh →
        ∃ fate, ({ queue with fates := queue.fates.set ticket .cancelled }).fate? other =
          some fate ∧ fate.IsFresh := by
      intro other fate found fresh
      by_cases here : other = ticket
      · subst here
        exact ⟨_, fate?_set_self known _, .inr rfl⟩
      · exact ⟨fate, by rw [fate?_set_of_ne here, found], fresh⟩
    refine ⟨regular.alive, ?_, ?_, ?_, ?_, ?_⟩
    · cases regular.phase with
      | going accepting plain free => exact .going accepting plain free
      | marked tasks refusing last plain live free =>
        exact .marked tasks refusing last plain live free
      | leaving refusing nothing held => exact .leaving refusing nothing held
    · obtain ⟨settled, parted, past⟩ := regular.parted
      refine ⟨settled, by simpa [waiting] using parted, ?_⟩
      intro other below
      obtain ⟨fate, found, done⟩ := past other below
      by_cases here : other = ticket
      · subst here
        exact ⟨_, fate?_set_self known _, .inl rfl⟩
      · exact ⟨fate, by rw [fate?_set_of_ne here, found], done⟩
    · intro other waits
      obtain ⟨fate, found, new⟩ := regular.fresh other waits
      exact fresh found new
    · intro other task held
      obtain ⟨fate, found, new⟩ := regular.handed other task held
      exact fresh found new
    · intro other task busy
      have running := regular.runs other task busy
      have apart : other ≠ ticket := by
        rintro rfl
        rw [known] at running
        simp at running
      rw [fate?_set_of_ne apart, running]

/-- Taking the first place leaves a queue regular: the worker comes to the marker last. -/
theorem took (regular : Regular queue) {slot : Slot τ} {line : List (Slot τ)}
    (idle : queue.worker = .idle) (first : queue.line = slot :: line) :
    Regular { queue with line, worker := .holding slot } := by
  obtain ⟨settled, parted, past⟩ := regular.parted
  have waits : queue.waiting = slot.ticket?.toList ++ List.filterMap Slot.ticket? line := by
    rw [waiting, first, List.filterMap_cons]
    cases slot.ticket? <;> rfl
  refine ⟨by simp, ?_, ⟨settled, ?_, past⟩, ?_, ?_, by simp⟩
  · cases regular.phase with
    | going accepting plain _ =>
      rw [first, List.mem_cons, not_or] at plain
      exact .going accepting plain.2 fun same => plain.1 (Worker.holding.inj same).symm
    | marked tasks refusing last plain _ _ =>
      rw [first] at last
      cases tasks with
      | nil =>
        obtain ⟨rfl, rfl⟩ := List.cons.inj last
        exact .leaving refusing rfl rfl
      | cons task tasks =>
        obtain ⟨rfl, rfl⟩ := List.cons.inj last
        rw [List.mem_cons, not_or] at plain
        exact .marked tasks refusing rfl plain.2 rfl fun same =>
          plain.1 (Worker.holding.inj same).symm
    | leaving _ nothing _ => simp [first] at nothing
  · rw [idle, waits] at parted
    exact parted
  · intro ticket listed
    exact regular.fresh ticket (waits ▸ List.mem_append_right _ listed)
  · intro ticket task held
    obtain rfl := Worker.holding.inj held
    exact regular.fresh ticket (waits ▸ List.mem_append_left _ (by simp [Slot.ticket?]))

/-- Ending at the marker leaves a queue regular: nothing waits behind it. -/
theorem left (regular : Regular queue) (held : queue.worker = .holding .stop) :
    Regular { queue with worker := .absent, stopping := false } := by
  obtain ⟨settled, parted, past⟩ := regular.parted
  refine ⟨by simp, ?_, ⟨settled, ?_, past⟩, regular.fresh, by simp, by simp⟩
  · cases regular.phase with
    | going _ _ free => exact absurd held free
    | marked _ _ _ _ _ free => exact absurd held free
    | leaving _ nothing _ => exact .going rfl (by simp [nothing]) (by simp)
  · rw [held] at parted
    exact parted

/-- Passing over a cancelled task leaves a queue regular. -/
theorem passed (regular : Regular queue) (held : queue.worker = .holding (.task ticket task))
    (cancelled : queue.fate? ticket = some .cancelled) :
    Regular { queue with worker := .resting } := by
  obtain ⟨settled, parted, past⟩ := regular.parted
  rw [held] at parted
  obtain ⟨same, _, parted⟩ := parted_cons parted
  refine ⟨by simp, ?_, ⟨settled + 1, parted, ?_⟩, regular.fresh, by simp, by simp⟩
  · exact regular.phase.of_worker rfl rfl (by simp [held]) rfl (by simp)
  · intro other below
    by_cases here : other = ticket
    · exact ⟨_, here ▸ cancelled, .inl rfl⟩
    · exact past other (by omega)

/-- Beginning a task leaves a queue regular. -/
theorem began (regular : Regular queue) (held : queue.worker = .holding (.task ticket task)) :
    Regular { queue with
      worker := .busy ticket task, fates := queue.fates.set ticket .running } := by
  obtain ⟨settled, parted, past⟩ := regular.parted
  rw [held] at parted
  obtain ⟨same, apart, _⟩ := parted_cons parted
  obtain ⟨fate, known, _⟩ := regular.handed ticket task held
  refine ⟨by simp, ?_, ⟨settled, ?_, ?_⟩, ?_, by simp, ?_⟩
  · exact regular.phase.of_worker rfl rfl (by simp [held]) rfl (by simp)
  · rw [List.length_set]
    exact parted
  · intro other below
    obtain ⟨fate, found, done⟩ := past other below
    exact ⟨fate, (fate?_set_of_ne (by omega) queue .running).trans found, done⟩
  · intro other waits
    obtain ⟨fate, found, new⟩ := regular.fresh other waits
    have other_ne : other ≠ ticket := fun equal => apart (equal ▸ waits)
    exact ⟨fate, (fate?_set_of_ne other_ne queue .running).trans found, new⟩
  · intro other task busy
    obtain ⟨rfl, _⟩ := Worker.busy.inj busy
    exact fate?_set_self known .running

/-- Being done with a task leaves a queue regular. -/
theorem ended (regular : Regular queue) (busy : queue.worker = .busy ticket task)
    (outcome : Except Text β) :
    Regular { queue with
      worker := .resting, fates := queue.fates.set ticket (.done outcome) } := by
  obtain ⟨settled, parted, past⟩ := regular.parted
  rw [busy] at parted
  obtain ⟨same, apart, parted⟩ := parted_cons parted
  have known := regular.runs ticket task busy
  refine ⟨by simp, ?_, ⟨settled + 1, ?_, ?_⟩, ?_, by simp, by simp⟩
  · exact regular.phase.of_worker rfl rfl (by simp [busy]) rfl (by simp)
  · rw [List.length_set]
    exact parted
  · intro other below
    by_cases here : other = ticket
    · subst here
      exact ⟨_, fate?_set_self known _, .inr ⟨_, rfl⟩⟩
    · obtain ⟨fate, found, done⟩ := past other (by omega)
      exact ⟨fate, (fate?_set_of_ne here queue _).trans found, done⟩
  · intro other waits
    obtain ⟨fate, found, new⟩ := regular.fresh other waits
    have other_ne : other ≠ ticket := fun equal => apart (equal ▸ waits)
    exact ⟨fate, (fate?_set_of_ne other_ne queue _).trans found, new⟩

/-- Going on from a pause leaves a queue regular. -/
theorem rested (regular : Regular queue) (resting : queue.worker = .resting) :
    Regular { queue with worker := .idle } := by
  obtain ⟨settled, parted, past⟩ := regular.parted
  rw [resting] at parted
  refine ⟨by simp, ?_, ⟨settled, parted, past⟩, regular.fresh, by simp, by simp⟩
  exact regular.phase.of_worker rfl rfl (by simp [resting]) rfl (by simp)

/-- A step of a worker that does not end at a pause leaves a queue regular. -/
theorem works {act : σ → τ → Except Text β × σ} {state : σ} {next : ChangeQueue τ β × σ}
    (regular : Regular queue) (step : Works act queue state next) : Regular next.1 := by
  cases step with
  | stood => exact regular
  | took _ _ idle first => exact regular.took idle first
  | left held => exact regular.left held
  | passed _ _ held cancelled => exact regular.passed held cancelled
  | began _ _ held _ => exact regular.began held
  | ended _ _ busy => exact regular.ended busy _
  | rested resting => exact regular.rested resting

/-- A task that is done has a lower ticket than the one that the worker took. -/
theorem lt_of_done (regular : Regular queue) (held : queue.worker = .holding (.task ticket task))
    {other : Nat} {outcome : Except Text β} (done : queue.fate? other = some (.done outcome)) :
    other < ticket := by
  obtain ⟨settled, parted, _⟩ := regular.parted
  have given : other ∈ List.range queue.fates.length :=
    List.mem_range.2 (List.getElem?_eq_some_iff.1 done).1
  have unfresh : ∀ fate : Fate β, queue.fate? other = some fate → ¬ fate.IsFresh := by
    intro fate known fresh
    rw [done, Option.some.injEq] at known
    subst known
    rcases fresh with same | same <;> simp at same
  rw [parted, held, List.mem_append, List.mem_range] at given
  rw [held] at parted
  obtain ⟨same, _, _⟩ := parted_cons parted
  rcases given with below | later
  · omega
  · rcases List.mem_append.1 later with here | waits
    · obtain rfl : other = ticket := by simpa [Worker.ticket?, Slot.ticket?] using here
      obtain ⟨fate, known, fresh⟩ := regular.handed other task held
      exact absurd fresh (unfresh fate known)
    · obtain ⟨fate, known, fresh⟩ := regular.fresh other waits
      exact absurd fresh (unfresh fate known)

/-- A step of the worker leaves a queue regular, when its pause can be made. -/
theorem step (regular : Regular queue) (steady : queue.pause.fails now = false)
    (act : σ → τ → Except Text β × σ) (state : σ) : Regular (queue.step act now state).1 :=
  regular.works (ChangeQueue.works act steady state)

end Regular

end ChangeQueue

end Restyle
