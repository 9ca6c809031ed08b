import Restyle.Activity
import Restyle.Http.Message
import Restyle.Queue
import Restyle.Service

/-!
# The agent

An agent puts a service behind its change queue and keeps the activity log of its notices.
Whatever touches stylesheets is a job of the queue. A job that something else holds up is not
done in time; it stays accepted and is done later. Nothing else takes time: the clock stands still
while jobs are done and pauses made.
-/
namespace Restyle

/-- A job of the queue. -/
inductive Job where
  /-- Configure a project. -/
  | configure (path : Json) (mappings : List (Text × Json))
  /-- Apply the event that a value states. -/
  | apply (value : Json)
  /-- Keep the worker from other jobs. -/
  | hold

/-- What a job comes to. -/
inductive JobResult where
  /-- A project is configured, or its paths are not accepted. -/
  | configured (answer : Except Fault Nat)
  /-- A change was applied or failed. -/
  | applied (result : PatchResult)
  /-- The worker is free again. -/
  | released

/-- What the jobs of an agent share. -/
structure Shared where
  /-- The service. -/
  service : Service
  /-- The disk. -/
  disk : Disk
  /-- The activity log. -/
  log : ActivityLog := .standard

/-- An agent. -/
structure Agent where
  /-- What its jobs share. -/
  shared : Shared
  /-- Its queue. -/
  queue : ChangeQueue Job JobResult := {}
  /-- What the clock reads. -/
  now : Nat := 0

/-- What became of a job that was submitted. -/
inductive Submitted where
  /-- It is done. -/
  | done (result : JobResult)
  /-- It is not done in time. -/
  | late
  /-- The queue refused it. -/
  | refused

namespace Shared

/-- The state after an effect of the service. -/
def after {α : Type} (shared : Shared) (effect : Effect α) : Shared :=
  { service := effect.service, disk := effect.disk, log := shared.log.addAll effect.notices }

/-- Do a job. -/
def perform (shared : Shared) (job : Job) : Except Text JobResult × Shared :=
  match job with
  | .configure path mappings =>
    let effect := shared.service.configure shared.disk path mappings
    (.ok (.configured effect.answer), shared.after effect)
  | .apply value =>
    let effect := shared.service.applyJson shared.disk value
    (.ok (.applied effect.answer), shared.after effect)
  | .hold => (.ok .released, shared)

end Shared

namespace Agent

/-- An agent with a service and the settings of that service. -/
def new (service : Service) (disk : Disk) : Agent :=
  { shared := { service, disk }, queue := { pause := Pause.ofDelay service.config.delay } }

/-- Whether the worker is held up. -/
def isHeld (agent : Agent) : Bool :=
  match agent.queue.worker with
  | .busy _ .hold => true
  | _ => false

/-- Do all jobs that wait. -/
def settle (agent : Agent) : Agent :=
  let (queue, shared) := agent.queue.settle Shared.perform agent.now agent.shared
  { agent with shared, queue }

/-- Submit a job and wait for it, as long as nothing holds it up. -/
def submit (agent : Agent) (job : Job) : Submitted × Agent :=
  match agent.queue.submit job with
  | none => (.refused, agent)
  | some (ticket, queue) =>
    let accepted := { agent with queue }
    let agent := if accepted.isHeld then accepted else accepted.settle
    match agent.queue.fate? ticket with
    | some (.done (.ok result)) => (.done result, agent)
    | _ => (.late, agent)

/-- Hold the worker up. -/
def hold (agent : Agent) : Agent :=
  match agent.queue.submit .hold with
  | none => agent
  | some (_, queue) => { agent with queue := queue.advance agent.now }

/-- Let the worker go on, and do all jobs that wait. -/
def release (agent : Agent) : Agent := agent.settle

end Agent

end Restyle
