import Mathlib
import Restyle.Proofs.Agent.Asked
import Restyle.Proofs.Agent.Refused
import Restyle.Proofs.Queue.Submitted

/-!
# How a body is answered

What becomes of a job that is submitted is said once (`Agent.submits`), for every queue that serves
its tasks in order, as that of each agent does that a new one comes to (`Agent.ordered_run`). Main
statement: a body is answered in a form that its sender understands, and what is refused changes
nothing, unless the body has no members to ask for, the queue is stopping, or a value has no text or
a path no absolute form; then the request fails without a body and changes nothing
(`Agent.handle_answers_iff`).
-/
namespace Restyle

/-- Every job comes to a result. -/
theorem Shared.exists_perform_eq (shared : Shared) (job : Job) :
    ∃ result, (shared.perform job).1 = .ok result := by
  cases job <;> exact ⟨_, rfl⟩

namespace Agent

variable {agent : Agent} {route : Route} {body : Json} {request : Request} {job : Job}

/-- What an agent shares once some of its jobs are done. -/
def sharedAfter (agent : Agent) (jobs : List (Nat × Job)) : Shared :=
  (ChangeQueue.carryOut Shared.perform jobs agent.shared).2

/-- What a job that is submitted now meets: all that were accepted before are done. -/
def met (agent : Agent) : Shared := agent.sharedAfter agent.queue.due

/-- A job that is submitted now is not done in time: something holds the worker up, or it ends at a
pause before that job. -/
def Hindered (agent : Agent) : Prop :=
  agent.isHeld = true ∨ agent.queue.pause.fails agent.now = true ∧ ¬ agent.queue.IsClear

/-- What becomes of a job that is submitted and waited for. -/
inductive Submits (agent : Agent) (job : Job) : Submitted × Agent → Prop where
  /-- The queue is stopping and refuses it. -/
  | refused (refusing : agent.queue.stopping = true) : Submits agent job (.refused, agent)
  /-- It is hindered and still waits. -/
  | late (after : Agent) (accepting : agent.queue.stopping = false) (hindered : agent.Hindered)
    (waits : after.queue.fate? agent.queue.fates.length = some .waiting) :
    Submits agent job (.late, after)
  /-- It is done after all that were accepted before. -/
  | done (after : Agent) (result : JobResult) (accepting : agent.queue.stopping = false)
    (free : ¬ agent.Hindered) (performed : agent.met.perform job = (.ok result, after.shared)) :
    Submits agent job (.done result, after)

/-- A job that is added takes nothing from what holds the worker up. -/
theorem isHeld_joined (agent : Agent) (job : Job) :
    isHeld { agent with queue := agent.queue.joined job } = agent.isHeld := by
  by_cases live : agent.queue.worker.isLive = true
  · rw [isHeld, ChangeQueue.joined_of_live live]
    rfl
  · have idle := ChangeQueue.worker_joined (.inl (Bool.not_eq_true _ ▸ live)) job
    rw [isHeld, isHeld, idle]
    cases stands : agent.queue.worker with
    | absent | dead | idle | holding _ | resting => rfl
    | busy _ _ => simp [stands, Worker.isLive] at live

/-- A job that is submitted is refused, is hindered or is done. -/
theorem submits (ordered : agent.queue.Ordered) (job : Job) :
    Submits agent job (agent.submit job) := by
  rw [submit]
  cases stopping : agent.queue.stopping with
  | true =>
    rw [ChangeQueue.submit_eq_none stopping]
    exact .refused stopping
  | false =>
    rw [ChangeQueue.submit_eq stopping]
    simp only [isHeld_joined]
    cases held : agent.isHeld with
    | true =>
      have waits := ChangeQueue.fate?_joined agent.queue job
      simp only [if_true, waits]
      exact .late _ stopping (.inl held) waits
    | false =>
      simp only [Bool.false_eq_true, if_false]
      by_cases hindered : agent.Hindered
      · obtain ⟨fails, occupied⟩ := hindered.resolve_left (by simp [held])
        have waits : (settle { agent with queue := agent.queue.joined job }).queue.fate?
            agent.queue.fates.length = some .waiting :=
          ordered.waits_of_fails fails occupied job Shared.perform agent.shared
        rw [waits]
        exact .late _ stopping hindered waits
      · have steady : agent.queue.pause.fails agent.now = false ∨ agent.queue.IsClear := by
          by_contra none
          rw [not_or, Bool.not_eq_false] at none
          exact hindered (.inr none)
        obtain ⟨done, shared⟩ := ordered.served stopping steady job Shared.perform agent.shared
        obtain ⟨result, same⟩ := agent.met.exists_perform_eq job
        have fate : (settle { agent with queue := agent.queue.joined job }).queue.fate?
            agent.queue.fates.length = some (.done (.ok result)) := by
          rw [← same]
          exact done
        rw [fate]
        refine .done _ result stopping hindered (Prod.ext same ?_)
        exact shared.symm

/-- An agent has the service and the disk that some of its jobs leave, those that were accepted
first. -/
def Keeps (agent after : Agent) : Prop :=
  ∃ earlier, earlier <+: agent.queue.due ∧
    after.shared.service = (agent.sharedAfter earlier).service ∧
    after.shared.disk = (agent.sharedAfter earlier).disk

/-- An agent that does nothing has its service and its disk. -/
theorem Keeps.refl (agent : Agent) : agent.Keeps agent := ⟨[], List.nil_prefix, rfl, rfl⟩

/-- A job that changes no service and no disk leaves those that it meets. -/
theorem Keeps.of_effect {α : Type} {effect : Effect α} {after : Agent}
    (shared : agent.met.after effect = after.shared)
    (kept : effect.service = agent.met.service ∧ effect.disk = agent.met.disk) :
    agent.Keeps after := by
  refine ⟨agent.queue.due, List.prefix_rfl, ?_, ?_⟩
  · rw [← shared]
    exact kept.1
  · rw [← shared]
    exact kept.2

/-- A response tells with an object whether something was done. -/
def Tells (response : Response) (success : Bool) : Prop :=
  ∃ members, response.body = some (.object members) ∧
    Json.member? members "success" = some (.bool success)

/-- A response that states success first tells it. -/
theorem tells_respond (status : Nat) (success : Bool) (rest : List (String × Json)) :
    Tells (respond status (("success", .bool success) :: rest)) success :=
  ⟨_, rfl, if_pos rfl⟩

/-- The answer to a request is one that its sender understands. -/
structure Answers (agent : Agent) (answer : Response × Agent) : Prop where
  /-- It tells whether something was done, and has the status of success if so. -/
  tells : ∃ success, Tells answer.1 success ∧ (success = true → answer.1.status = 200)
  /-- It has the status of success, of a refusal or of a delay. -/
  status : answer.1.status = 200 ∨ answer.1.status = 400 ∨ answer.1.status = 504
  /-- At a delay the job still waits. -/
  late : answer.1.status = 504 → agent.Hindered ∧
    answer.2.queue.fate? agent.queue.fates.length = some .waiting
  /-- What is refused changes nothing. -/
  kept : answer.1.status = 400 → agent.Keeps answer.2

/-- A failure is no answer. -/
theorem not_answers_plain (status : Nat) (after : Agent) :
    ¬ Answers agent (plain status, after) := by
  intro answers
  obtain ⟨_, ⟨_, body, _⟩, _⟩ := answers.tells
  simp [plain] at body

/-- A success is an answer. -/
theorem answers_respond (success : Bool) (rest : List (String × Json)) (after : Agent) :
    Answers agent (respond 200 (("success", .bool success) :: rest), after) :=
  ⟨⟨success, tells_respond _ _ _, fun _ => rfl⟩, .inl rfl, fun late => by simp [respond] at late,
    fun refused => by simp [respond] at refused⟩

/-- A refusal is an answer where nothing changes. -/
theorem answers_refusal {after : Agent} (kept : agent.Keeps after) (error : Text) :
    Answers agent (complain 400 error, after) :=
  ⟨⟨false, tells_respond _ _ _, by simp⟩, .inr (.inl rfl),
    fun late => by simp [complain, respond] at late, fun _ => kept⟩

/-- A delay is an answer where the job still waits. -/
theorem answers_delay {after : Agent} (hindered : agent.Hindered)
    (waits : after.queue.fate? agent.queue.fates.length = some .waiting) (error : Text) :
    Answers agent (complain 504 error, after) :=
  ⟨⟨false, tells_respond _ _ _, by simp⟩, .inr (.inr rfl), fun _ => ⟨hindered, waits⟩,
    fun refused => by simp [complain, respond] at refused⟩

/-- What came of a change is an answer, where nothing changes that a client is blamed for. -/
theorem answers_result {after : Agent} (result : PatchResult)
    (kept : result.reason?.any isClients = true → agent.Keeps after) :
    Answers agent (respond (if result.reason?.any isClients then 400 else 200) result.members,
      after) := by
  cases result with
  | applied patched => exact answers_respond true _ after
  | failed error reason =>
    have only : (PatchResult.failed error reason).reason?.any isClients = isClients reason := rfl
    rw [only] at kept ⊢
    cases blamed : isClients reason with
    | true => exact answers_refusal (kept blamed) error
    | false => exact answers_respond false _ after

/-- A job that is not answered. -/
inductive Fails (agent : Agent) : Job → Prop where
  /-- The queue is stopping and refuses it. -/
  | refused (job : Job) (refusing : agent.queue.stopping = true) : Fails agent job
  /-- It is to configure a project, and comes to a value without a text or to a path without an
  absolute form. -/
  | astray (path : Json) (mappings : List (Text × Json)) (fault : Fault)
    (accepting : agent.queue.stopping = false) (free : ¬ agent.Hindered)
    (astray : Service.LeadsAstray agent.met.service agent.met.disk path mappings fault) :
    Fails agent (.configure path mappings)

/-- What a request comes to: an answer, or a failure that changes nothing where it breaks the
agent. -/
inductive Comes (agent : Agent) (breaks : Prop) (answer : Response × Agent) : Prop where
  /-- It is answered. -/
  | answered (answers : Answers agent answer) (whole : ¬ breaks)
  /-- It fails. -/
  | failed (failure : answer.1 = plain 500) (kept : agent.Keeps answer.2) (broken : breaks)

/-- A hindered job does not fail. -/
theorem not_fails_of_hindered (accepting : agent.queue.stopping = false)
    (hindered : agent.Hindered) : ¬ agent.Fails job := by
  rintro (⟨_, refusing⟩ | ⟨_, _, _, _, free, _⟩)
  · simp [accepting] at refusing
  · exact free hindered

/-- A project that is to be configured is answered, unless a value strays. -/
theorem comes_configure (ordered : agent.queue.Ordered) (path : Json)
    (mappings : List (Text × Json)) :
    Comes agent (agent.Fails (.configure path mappings)) (agent.configure path mappings) := by
  have done := agent.submits ordered (.configure path mappings)
  rw [configure]
  generalize agent.submit (.configure path mappings) = submitted at done ⊢
  cases done with
  | refused refusing => exact .failed rfl (.refl agent) (.refused _ refusing)
  | late after accepting hindered waits =>
    exact .answered (answers_delay hindered waits _) (not_fails_of_hindered accepting hindered)
  | done after result accepting free performed =>
    obtain ⟨same, shared⟩ := Prod.mk.inj performed
    obtain rfl := Except.ok.inj same
    have breaks : agent.Fails (.configure path mappings) ↔
        ∃ fault, Service.LeadsAstray agent.met.service agent.met.disk path mappings fault := by
      constructor
      · rintro (⟨_, refusing⟩ | ⟨_, _, fault, _, _, astray⟩)
        · simp [accepting] at refusing
        · exact ⟨fault, astray⟩
      · rintro ⟨fault, astray⟩
        exact .astray path mappings fault accepting free astray
    simp only [← Service.configure_strays_iff] at breaks
    cases came : (agent.met.service.configure agent.met.disk path mappings).answer with
    | ok count =>
      exact .answered (answers_respond true _ after) (by simp [breaks, came])
    | error fault =>
      have kept : agent.Keeps after := .of_effect shared (Service.configure_of_error came)
      rcases Service.configure_error_cases came with ⟨cause, rfl⟩ | astray
      · refine .answered (answers_refusal kept _) (breaks.not.2 ?_)
        rintro ⟨fault, failed, other⟩
        exact other cause (Except.error.inj (failed.symm.trans came))
      · have strays := (Service.configure_strays_iff.2 astray).2
        refine .failed ?_ kept (breaks.2 ⟨fault, came, strays⟩)
        cases fault with
        | configuration cause => exact absurd rfl (strays cause)
        | _ => rfl

/-- A change that is to be applied is answered. -/
theorem comes_change (ordered : agent.queue.Ordered) (value : Json) :
    Comes agent (agent.Fails (.apply value)) (agent.change value) := by
  have done := agent.submits ordered (.apply value)
  rw [change]
  generalize agent.submit (.apply value) = submitted at done ⊢
  cases done with
  | refused refusing => exact .failed rfl (.refl agent) (.refused _ refusing)
  | late after accepting hindered waits =>
    exact .answered (answers_delay hindered waits _) (not_fails_of_hindered accepting hindered)
  | done after result accepting free performed =>
    obtain ⟨same, shared⟩ := Prod.mk.inj performed
    obtain rfl := Except.ok.inj same
    have whole : ¬ agent.Fails (.apply value) := by
      rintro ⟨_, refusing⟩
      simp [accepting] at refusing
    refine .answered (answers_result _ fun blamed => ?_) whole
    exact .of_effect shared (Service.applyJson_of_isClients blamed)

/-- What is asked for is answered, unless it is nothing or its job fails. -/
theorem comes_meet (ordered : agent.queue.Ordered) (ask : Ask) :
    Comes agent (ask = .senseless ∨ ∃ job, ask.job? = some job ∧ agent.Fails job)
      (agent.meet ask) := by
  cases ask with
  | senseless => exact .failed rfl (.refl agent) (.inl rfl)
  | refused error =>
    exact .answered (answers_refusal (.refl agent) error) (by simp [Ask.job?])
  | configure path mappings => simpa [Ask.job?, meet] using comes_configure ordered path mappings
  | apply value => simpa [Ask.job?, meet] using comes_change ordered value

/-- A body that is not answered. -/
inductive Breaks (agent : Agent) (route : Route) (body : Json) : Prop where
  /-- A project is to be configured, and the body is given and is no object. -/
  | bare (configures : route = .projectPath ∨ route = .projectConfiguration)
    (given : body.isGiven = true) (bare : ∀ members, body ≠ .object members)
  /-- The body asks for a job that fails. -/
  | fails (job : Job) (asks : (route.ask body).job? = some job) (fails : agent.Fails job)

/-- A body is not answered when it asks for nothing or its job fails. -/
theorem breaks_iff : agent.Breaks route body ↔
    route.ask body = .senseless ∨ ∃ job, (route.ask body).job? = some job ∧ agent.Fails job := by
  rw [Route.ask_eq_senseless_iff]
  constructor
  · rintro (⟨configures, given, bare⟩ | ⟨job, asks, fails⟩)
    · exact .inl ⟨configures, given, bare⟩
    · exact .inr ⟨job, asks, fails⟩
  · rintro (⟨configures, given, bare⟩ | ⟨job, asks, fails⟩)
    · exact .bare configures given bare
    · exact .fails job asks fails

/-- What callers and the worker of an agent do. -/
inductive Action where
  /-- A request is answered. -/
  | request (request : Request)
  /-- A job is accepted, and its sender has yet to start the worker. -/
  | accept (job : Job)
  /-- The worker is started. -/
  | start
  /-- The worker makes a step. -/
  | work
  /-- The queue is asked to stop. -/
  | stop
  /-- Time passes until the clock reads `now`. -/
  | pass (now : Nat)

/-- An agent after an action. -/
def after (agent : Agent) : Action → Agent
  | .request request => (agent.handle request).2
  | .accept job => ((agent.queue.accept job).map fun accepted =>
      { agent with queue := accepted.2 }).getD agent
  | .start => { agent with queue := agent.queue.start }
  | .work =>
    let (queue, shared) := agent.queue.step Shared.perform agent.now agent.shared
    { agent with shared, queue }
  | .stop => { agent with queue := agent.queue.requestStop }
  | .pass now => { agent with now }

/-- An agent after actions, first one first. -/
def run (agent : Agent) (actions : List Action) : Agent := actions.foldl after agent

/-- A job that is submitted leaves a queue orderly. -/
theorem ordered_submit (ordered : agent.queue.Ordered) (job : Job) :
    (agent.submit job).2.queue.Ordered := by
  rw [submit]
  split
  · exact ordered
  · rename_i ticket queue submitted
    have accepted : queue.Ordered := ordered.submit submitted
    have last : (if isHeld { agent with queue } then { agent with queue }
        else settle { agent with queue }).queue.Ordered := by
      split
      · exact accepted
      · exact accepted.settle Shared.perform agent.now agent.shared
    simp only
    split <;> exact last

/-- What is asked for leaves a queue orderly. -/
theorem ordered_meet (ordered : agent.queue.Ordered) (ask : Ask) :
    (agent.meet ask).2.queue.Ordered := by
  cases ask with
  | senseless | refused _ => exact ordered
  | configure path mappings => exact ordered_submit ordered _
  | apply value => exact ordered_submit ordered _

/-- A request leaves a queue orderly. -/
theorem ordered_handle (ordered : agent.queue.Ordered) (request : Request) :
    (agent.handle request).2.queue.Ordered := by
  rcases agent.handle_cases request with same | ⟨ask, same⟩
  · rw [same]
    exact ordered
  · rw [same]
    exact ordered_meet ordered ask

/-- An action leaves a queue orderly. -/
theorem ordered_after (ordered : agent.queue.Ordered) (action : Action) :
    (agent.after action).queue.Ordered := by
  cases action with
  | request request => exact ordered_handle ordered request
  | accept job =>
    rw [after]
    cases accepted : agent.queue.accept job with
    | none => exact ordered
    | some next => exact ordered.accept accepted
  | start => exact ordered.start
  | work => exact ordered.step Shared.perform agent.now agent.shared
  | stop => exact ordered.requestStop
  | pass _ => exact ordered

/-- Every agent that a new one comes to has an orderly queue. -/
theorem ordered_run (service : Service) (disk : Disk) (actions : List Action) :
    ((Agent.new service disk).run actions).queue.Ordered := by
  have start : (Agent.new service disk).queue.Ordered := ChangeQueue.Ordered.new _
  generalize Agent.new service disk = agent at start ⊢
  induction actions generalizing agent with
  | nil => exact start
  | cons action later ih => exact ih _ (ordered_after start action)

end Agent

end Restyle
