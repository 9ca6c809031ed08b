import Restyle.Number.Binary
import Restyle.Text.Basic

/-!
# The change queue

Work that touches stylesheets goes through one queue and is done by one worker, one task at a
time, in the order in which it was accepted. A task that fails leaves the worker as it is. To
stop, a marker is put behind the accepted tasks; from then on tasks are refused until the worker
has met the marker and ended.

The queue is a state with small steps, each of which runs under the queue's lock or on its
worker: accepting a task and starting the worker are two steps, and so are taking a place from the
queue and going to it, or being done with a task and looking for another before a pause, as other
callers may come in between. `settle` runs the worker until nothing is left to do.

A pause is made up to a moment of a clock that counts nanoseconds, and the moment has to be one that
the clock has. So the step that comes to a pause is given what the clock reads.
-/
namespace Restyle

/-- The last moment of the clock. -/
def lastMoment : Nat := Number.twoTo 63 - 1

/-- The whole number at or above `mantissa * 2 ^ exponent`. -/
def Number.ceiling (mantissa : Nat) (exponent : Int) : Nat :=
  let unit := twoTo exponent.natAbs
  if exponent < 0 then (mantissa + (unit - 1)) / unit else mantissa * unit

/-- The nanoseconds of a time in seconds, rounded up, if it comes to any. -/
def nanoseconds? (time : Float) : Option Nat :=
  match Number.parts (time * 1e9) with
  | .finite false mantissa exponent => some (Number.ceiling mantissa exponent)
  | _ => none

/-- What the worker does between two tasks while others wait. -/
inductive Pause where
  /-- It goes on at once. -/
  | none
  /-- It waits for some nanoseconds. -/
  | wait (time : Nat)
  /-- It is asked to wait for a time that is none, and ends. -/
  | fault
deriving DecidableEq, Repr

namespace Pause

/-- The pause of a delay in seconds. -/
def ofDelay (delay : Float) : Pause :=
  if delay == 0 then .none
  else if 0 < delay then (nanoseconds? delay).elim .fault .wait
  else .fault

/-- Whether a pause cannot be made when the clock reads `now`: the clock has no such moment. -/
def fails (now : Nat) : Pause → Bool
  | .none => false
  | .wait time => lastMoment - now < time
  | .fault => true

end Pause

/-- What became of a task. -/
inductive Fate (β : Type) where
  /-- It waits. -/
  | waiting
  /-- It was cancelled before it was begun. -/
  | cancelled
  /-- The worker is at it. -/
  | running
  /-- It is done, with a value or a failure. -/
  | done (outcome : Except Text β)

/-- A place in the queue: a task under its ticket, or the marker to stop at. -/
inductive Slot (τ : Type) where
  /-- A task. -/
  | task (ticket : Nat) (task : τ)
  /-- The marker. -/
  | stop

/-- The worker of a queue. -/
inductive Worker (τ : Type) where
  /-- There is none. -/
  | absent
  /-- It is between two tasks. -/
  | idle
  /-- It took a place from the queue and has yet to go to it. -/
  | holding (slot : Slot τ)
  /-- It is at a task. -/
  | busy (ticket : Nat) (task : τ)
  /-- It is done with a task and has yet to come to its pause. -/
  | resting
  /-- It ended without taking its leave. -/
  | dead

/-- Whether a worker goes on. -/
def Worker.isLive {τ : Type} : Worker τ → Bool
  | .idle | .holding _ | .busy _ _ | .resting => true
  | .absent | .dead => false

/-- A queue of tasks `τ` that come to values `β`. -/
structure ChangeQueue (τ β : Type) where
  /-- What is waiting, first one first. -/
  line : List (Slot τ) := []
  /-- What became of each accepted task, by its ticket. -/
  fates : List (Fate β) := []
  /-- The worker. -/
  worker : Worker τ := .absent
  /-- Whether tasks are refused. -/
  stopping : Bool := false
  /-- What the worker does between tasks. -/
  pause : Pause := .none

namespace ChangeQueue

variable {τ β σ : Type}

/-- The wording for a task that is refused. -/
def refusedMessage : String := "Change queue is stopping"

/-- The number of waiting places. -/
def pending (queue : ChangeQueue τ β) : Nat := queue.line.length

/-- Whether there is a worker that goes on. -/
def isRunning (queue : ChangeQueue τ β) : Bool := queue.worker.isLive

/-- What became of the task with a ticket. -/
def fate? (queue : ChangeQueue τ β) (ticket : Nat) : Option (Fate β) := queue.fates[ticket]?

/-- Start a worker, unless one goes on. -/
def start (queue : ChangeQueue τ β) : ChangeQueue τ β :=
  if queue.isRunning then queue else { queue with worker := .idle }

/-- Accept a task at the end of the queue; its ticket is the number of tasks accepted before. A
queue that is stopping refuses. -/
def accept (queue : ChangeQueue τ β) (task : τ) : Option (Nat × ChangeQueue τ β) :=
  if queue.stopping then none
  else
    let ticket := queue.fates.length
    some (ticket, { queue with
      line := queue.line ++ [.task ticket task], fates := queue.fates ++ [.waiting] })

/-- Accept a task and start the worker. -/
def submit (queue : ChangeQueue τ β) (task : τ) : Option (Nat × ChangeQueue τ β) :=
  (queue.accept task).map fun (ticket, queue) => (ticket, queue.start)

/-- Ask the worker to stop: put the marker, unless it is put or there is no worker. -/
def requestStop (queue : ChangeQueue τ β) : ChangeQueue τ β :=
  match queue.worker with
  | .absent => queue
  | _ =>
    if queue.stopping then queue
    else { queue with stopping := true, line := queue.line ++ [.stop] }

/-- Cancel a task; whether it is cancelled. A task that was begun cannot be. -/
def cancel (queue : ChangeQueue τ β) (ticket : Nat) : Bool × ChangeQueue τ β :=
  match queue.fate? ticket with
  | some .waiting => (true, { queue with fates := queue.fates.set ticket .cancelled })
  | some .cancelled => (true, queue)
  | _ => (false, queue)

/-- An idle worker takes the first place. -/
def take (queue : ChangeQueue τ β) : ChangeQueue τ β :=
  match queue.worker, queue.line with
  | .idle, slot :: line => { queue with line, worker := .holding slot }
  | _, _ => queue

/-- The worker goes to the place it took: it ends at the marker, passes over a cancelled task and
begins any other. -/
def attend (queue : ChangeQueue τ β) : ChangeQueue τ β :=
  match queue.worker with
  | .holding .stop => { queue with worker := .absent, stopping := false }
  | .holding (.task ticket task) =>
    match queue.fate? ticket with
    | some .cancelled => { queue with worker := .resting }
    | _ => { queue with worker := .busy ticket task, fates := queue.fates.set ticket .running }
  | _ => queue

/-- The worker is done with its task. -/
def finish (queue : ChangeQueue τ β) (outcome : Except Text β) : ChangeQueue τ β :=
  match queue.worker with
  | .busy ticket _ =>
    { queue with worker := .resting, fates := queue.fates.set ticket (.done outcome) }
  | _ => queue

/-- The worker between two tasks: it pauses only while something waits. -/
def rest (queue : ChangeQueue τ β) (now : Nat) : ChangeQueue τ β :=
  match queue.worker with
  | .resting =>
    { queue with
      worker := if queue.pause.fails now && !queue.line.isEmpty then .dead else .idle }
  | _ => queue

/-- One step of the worker when the clock reads `now`. A task is done by `act`, which also changes
the state that tasks share. -/
def step (act : σ → τ → Except Text β × σ) (now : Nat) (queue : ChangeQueue τ β) (state : σ) :
    ChangeQueue τ β × σ :=
  match queue.worker with
  | .busy _ task =>
    let (outcome, state) := act state task
    (queue.finish outcome, state)
  | .holding _ => (queue.attend, state)
  | .resting => (queue.rest now, state)
  | _ => (queue.take, state)

/-- Let the worker go on until it is at a task or nothing waits, at most `fuel` steps. -/
def advanceFor (now : Nat) (queue : ChangeQueue τ β) : Nat → ChangeQueue τ β
  | 0 => queue
  | fuel + 1 =>
    match queue.worker with
    | .idle => advanceFor now queue.take fuel
    | .holding _ => advanceFor now queue.attend fuel
    | .resting => advanceFor now (queue.rest now) fuel
    | _ => queue

/-- Let the worker go on until it is at a task or nothing waits. Each place takes three steps at
most, and one that was taken before takes two. -/
def advance (now : Nat) (queue : ChangeQueue τ β) : ChangeQueue τ β :=
  queue.advanceFor now (3 * queue.line.length + 2)

/-- Let the worker make steps, `fuel` of them. -/
def settleFor (act : σ → τ → Except Text β × σ) (now : Nat) (queue : ChangeQueue τ β) (state : σ) :
    Nat → ChangeQueue τ β × σ
  | 0 => (queue, state)
  | fuel + 1 =>
    let (queue, state) := queue.step act now state
    settleFor act now queue state fuel

/-- Let the worker go on until nothing is left to do. Each place takes four steps at most, and one
that was taken before takes three. -/
def settle (act : σ → τ → Except Text β × σ) (now : Nat) (queue : ChangeQueue τ β) (state : σ) :
    ChangeQueue τ β × σ :=
  settleFor act now queue state (4 * queue.line.length + 3)

end ChangeQueue

end Restyle
