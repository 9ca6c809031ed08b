import Restyle.Config
import Restyle.Proofs.Queue.Pause
import Restyle.Proofs.Queue.Sequential

/-!
# Queues with a delay

A delay is to slow a queue down and to change nothing else. It changes nothing else as long as it
can be waited for. From then on it ends the worker whenever that one comes to its pause while
something waits; what waits then goes on waiting until someone starts a worker again, which ends
likewise. Even so the calls that are made are those that a queue without a delay makes, in the same
order and with the same outcomes: such a queue is one whose worker made fewer steps (`Lags.run`).
Main statement: so it is for every delay and through every interleaving (`run_delayed`).
-/
namespace Restyle

namespace ChangeQueue

variable {τ β : Type} {history plain slow : History τ β} {pause : Pause}

/-- Asking for a stop where there is a worker puts the marker, unless it is put. -/
theorem requestStop_of_present {queue : ChangeQueue τ β} (present : queue.worker ≠ .absent) :
    queue.requestStop = { queue with
      stopping := true
      line := if queue.stopping = true then queue.line else queue.line ++ [.stop] } := by
  rw [requestStop]
  split
  · exact absurd ‹_› present
  · split
    · rename_i refusing
      rw [← refusing]
    · rfl

/-- Whether it is the worker that makes a step. -/
def Action.isWork : Action τ β → Bool
  | .work _ _ => true
  | _ => false

/-- Whether it is the worker that makes a step when the clock says that a pause cannot be made. -/
def Action.failsAt (pause : Pause) : Action τ β → Bool
  | .work _ now => pause.fails now
  | _ => false

/-- The clock reads no more than this at a step of the worker. -/
def Action.IsBy (moment : Nat) : Action τ β → Prop
  | .work _ now => now ≤ moment
  | _ => True

/-- Whether it is a call that starts no worker. -/
def Action.isCall : Action τ β → Bool
  | .accept _ | .stop | .cancel _ => true
  | _ => false

namespace History

/-- The history of a new queue with a delay. -/
def ofDelay (delay : Float) : History τ β := { queue := { pause := Pause.ofDelay delay } }

/-- A history with another pause, another worker and other workers before it. -/
def lagging (history : History τ β) (pause : Pause) (worker : Worker τ)
    (former : List (Worker τ)) : History τ β :=
  { history with queue := { history.queue with pause, worker }, former }

/-- A history with another pause. -/
def pausing (history : History τ β) (pause : Pause) : History τ β :=
  { history with queue := { history.queue with pause } }

/-- With any pause a step of the worker leaves the same history, but for a worker that ends at its
pause. -/
theorem worked_lagging {now : Nat} (steady : history.queue.pause.fails now = false) (pause : Pause)
    (former : List (Worker τ)) (outcome : Except Text β) :
    (history.lagging pause history.queue.worker former).worked outcome now =
      (history.worked outcome now).lagging pause
        (if pause.fails now = true ∧ history.queue.isPressed = true then .dead
          else (history.worked outcome now).queue.worker) former := by
  have step := step_pausing steady pause (fun (_ : Unit) (_ : τ) => (outcome, ())) ()
  have idle := fun pressed =>
    (step_of_isPressed steady pressed (fun (_ : Unit) (_ : τ) => (outcome, ())) ()).1
  simp only [ChangeQueue.pausing] at step
  simp only [worked, lagging, step, mk.injEq, true_and, and_true]
  by_cases failed : pause.fails now = true ∧ history.queue.isPressed = true
  · rw [if_pos failed, idle failed.2]
    cases history.queue.worker <;> rfl
  · rw [if_neg failed]

/-- A call that starts no worker leaves the worker and does the same whatever the worker does, as
long as there is one or there is none. -/
theorem after_lagging_of_isCall {action : Action τ β} (call : action.isCall = true)
    (history : History τ β) (pause : Pause) {worker : Worker τ} (former : List (Worker τ))
    (present : worker = .absent ↔ history.queue.worker = .absent) :
    (history.lagging pause worker former).after action =
      (history.after action).lagging pause worker former := by
  cases action with
  | accept task =>
    cases refusing : history.queue.stopping <;>
      simp [after, ChangeQueue.accept, lagging, refusing]
  | stop =>
    by_cases absent : history.queue.worker = .absent
    · simp [after, requestStop, lagging, absent, present.2 absent]
    · have there : (history.lagging pause worker former).queue.worker ≠ .absent :=
        fun gone => absent (present.1 gone)
      simp only [after, requestStop_of_present absent, requestStop_of_present there]
      rfl
  | cancel ticket =>
    simp only [after, ChangeQueue.cancel, lagging, fate?]
    split <;> rfl
  | startFor | start | work | workFormer => simp [Action.isCall] at call

/-- A worker is started where none goes on, and the one before it is kept in mind. -/
theorem started_lagging (history : History τ β) (pause : Pause) (worker : Worker τ)
    (former : List (Worker τ)) :
    (history.lagging pause worker former).started =
      history.lagging pause (if worker.isLive = true then worker else .idle)
        (if worker.isLive = true then former else worker :: former) := by
  cases live : worker.isLive <;> simp [started, lagging, ChangeQueue.start, isRunning, live]

/-- Where a worker is started, the same workers are put before it with any pause. -/
theorem exists_started_lagging (history : History τ β) :
    ∃ new, history.started.former = new ++ history.former ∧
      (∀ worker ∈ new, worker.isLive = false) ∧
      ∀ pause former, (history.lagging pause history.queue.worker former).started =
        history.started.lagging pause history.started.queue.worker (new ++ former) := by
  have own : history.started = _ := started_lagging history history.queue.pause
    history.queue.worker history.former
  cases live : history.queue.worker.isLive with
  | true =>
    refine ⟨[], by simp [own, live, lagging], by simp, fun pause former => ?_⟩
    rw [started_lagging, own, if_pos live, if_pos live]
    rfl
  | false =>
    refine ⟨[history.queue.worker], by simp [own, live, lagging], by simpa using live,
      fun pause former => ?_⟩
    rw [started_lagging, own, live]
    rfl

/-- With any pause everything that can happen leaves the same history, with the same workers put
before the one that it has now, but for a worker that ends at its pause. -/
theorem after_lagging (steady : ∀ now, history.queue.pause.fails now = false)
    (gone : ∀ worker ∈ history.former, worker.isLive = false) (action : Action τ β) :
    ∃ new, (history.after action).former = new ++ history.former ∧
      (∀ worker ∈ new, worker.isLive = false) ∧
      ∀ pause former, (∀ worker ∈ former, worker.isLive = false) →
        (history.lagging pause history.queue.worker former).after action =
          (history.after action).lagging pause
            (if action.failsAt pause = true ∧ history.queue.isPressed = true then .dead
              else (history.after action).queue.worker) (new ++ former) := by
  by_cases call : action.isCall = true
  · have own := after_lagging_of_isCall call history history.queue.pause history.former Iff.rfl
    have worker := congrArg (·.queue.worker) own
    have other : ∀ pause, action.failsAt pause = false := by
      cases action <;> simp [Action.isCall, Action.failsAt] at call ⊢
    refine ⟨[], congrArg (·.former) own, by simp, fun pause former _ => ?_⟩
    rw [after_lagging_of_isCall call history pause former Iff.rfl,
      if_neg (fun failed => Bool.false_ne_true ((other pause).symm.trans failed.1))]
    exact congrArg (History.lagging _ pause · former) worker.symm
  cases action with
  | accept | stop | cancel => exact absurd rfl call
  | startFor ticket =>
    by_cases listed : ticket ∈ history.owed
    · obtain ⟨new, same, still, started⟩ := history.exists_started_lagging
      refine ⟨new, by simp [after, listed, same], still, fun pause former _ => ?_⟩
      have listed' : ticket ∈ (history.lagging pause history.queue.worker former).owed := listed
      simp only [after, if_pos listed, if_pos listed', started, Action.failsAt]
      simp [lagging]
    · exact ⟨[], by simp [after, listed], by simp,
        by simp [after, listed, lagging, Action.failsAt]⟩
  | start =>
    obtain ⟨new, same, still, started⟩ := history.exists_started_lagging
    exact ⟨new, same, still, fun pause former _ => by simp [after, started, Action.failsAt]⟩
  | work outcome now =>
    refine ⟨[], rfl, by simp, fun pause former _ => ?_⟩
    exact worked_lagging (steady now) pause former outcome
  | workFormer index outcome now =>
    refine ⟨[], ?_, by simp, fun pause former still => ?_⟩
    · simp only [after, workedFormer_of_gone history gone, List.nil_append]
    · rw [after, after, workedFormer_of_gone history gone,
        workedFormer_of_gone (history.lagging _ _ _) still]
      simp [Action.failsAt]

/-- A worker that ended makes no step. -/
theorem worked_of_dead (dead : history.queue.worker = .dead) (outcome : Except Text β)
    (now : Nat) : history.worked outcome now = history := by
  simp [worked, step, take, dead]

/-- A call that starts no worker takes nothing out of the line. -/
theorem exists_line_of_isCall {action : Action τ β} (call : action.isCall = true)
    (history : History τ β) :
    ∃ more, (history.after action).queue.line = history.queue.line ++ more := by
  cases action with
  | accept task =>
    cases refusing : history.queue.stopping <;> simp [after, ChangeQueue.accept, refusing]
  | stop =>
    rw [after]
    rcases requestStop_cases history.queue with same | shape
    · exact ⟨[], by rw [same, List.append_nil]⟩
    · exact ⟨[.stop], by rw [shape]⟩
  | cancel ticket =>
    rw [after]
    rcases cancel_cases history.queue ticket with same | ⟨_, shape⟩
    · exact ⟨[], by rw [same, List.append_nil]⟩
    · exact ⟨[], by rw [shape, List.append_nil]⟩
  | startFor | start | work | workFormer => simp [Action.isCall] at call

end History

/-- With pauses that can be made everything that happens leaves the same history. -/
theorem Orderly.run_pausing (orderly : Orderly history) {actions : List (Action τ β)}
    (steady : ∀ action ∈ actions, action.failsAt pause = false) :
    (history.pausing pause).run actions = (history.run actions).pausing pause := by
  induction actions generalizing history with
  | nil => rfl
  | cons action rest ih =>
    obtain ⟨new, former, _, same⟩ := History.after_lagging orderly.steady orderly.former action
    have made := steady action List.mem_cons_self
    have next : (history.pausing pause).after action = (history.after action).pausing pause := by
      refine (same pause history.former orderly.former).trans ?_
      rw [if_neg (by simp [made]), ← former]
      rfl
    rw [History.run, List.foldl_cons, next]
    exact ih (orderly.after action) fun later listed => steady later (List.mem_cons_of_mem _ listed)

/-- One history lags behind another: all is alike but for the pause and for what the workers are
that ended. -/
inductive Lags (pause : Pause) (plain : History τ β) : History τ β → Prop where
  /-- The workers are at the same place. -/
  | abreast (former : List (Worker τ)) (gone : ∀ worker ∈ former, worker.isLive = false) :
    Lags pause plain (plain.lagging pause plain.queue.worker former)
  /-- The one worker ended at its pause, after which the other is to go to what waits. -/
  | behind (former : List (Worker τ)) (gone : ∀ worker ∈ former, worker.isLive = false)
    (idle : plain.queue.worker = .idle) (waits : plain.queue.line ≠ []) :
    Lags pause plain (plain.lagging pause .dead former)

/-- Where the workers are at the same place, whatever happens leaves the one history abreast of the
other, or its worker ended at its pause. -/
theorem Lags.after_abreast (orderly : Orderly plain) {former : List (Worker τ)}
    (gone : ∀ worker ∈ former, worker.isLive = false) (pause : Pause) (action : Action τ β) :
    Lags pause (plain.after action)
      ((plain.lagging pause plain.queue.worker former).after action) := by
  obtain ⟨new, _, still, same⟩ := History.after_lagging orderly.steady orderly.former action
  have all : ∀ worker ∈ new ++ former, worker.isLive = false := by
    intro worker listed
    exact (List.mem_append.1 listed).elim (still worker) (gone worker)
  rw [same pause former gone]
  by_cases failed : action.failsAt pause = true ∧ plain.queue.isPressed = true
  · rw [if_pos failed]
    cases action with
    | work outcome now =>
      obtain ⟨idle, waits⟩ := step_of_isPressed (orderly.steady now) failed.2
        (fun (_ : Unit) (_ : τ) => (outcome, ())) ()
      exact .behind _ all idle waits
    | accept | startFor | start | stop | cancel | workFormer => simp [Action.failsAt] at failed
  · rw [if_neg failed]
    exact .abreast _ all

/-- Where the one worker ended at its pause, whatever happens leaves its history behind the other,
or the worker that is started is abreast of the other; only the steps of the other's worker are not
made. -/
theorem Lags.after_behind (orderly : Orderly plain) {former : List (Worker τ)}
    (gone : ∀ worker ∈ former, worker.isLive = false) (idle : plain.queue.worker = .idle)
    (waits : plain.queue.line ≠ []) (pause : Pause) {action : Action τ β}
    (other : action.isWork = false) :
    Lags pause (plain.after action) ((plain.lagging pause .dead former).after action) := by
  have started : plain.started = plain := by
    simp [History.started, ChangeQueue.start, isRunning, idle, Worker.isLive]
  have dead : ∀ worker ∈ .dead :: former, worker.isLive = false := by
    simpa [Worker.isLive] using gone
  by_cases call : action.isCall = true
  · have present : (.dead : Worker τ) = .absent ↔ plain.queue.worker = .absent := by simp [idle]
    obtain ⟨more, line⟩ := History.exists_line_of_isCall call plain
    have own := History.after_lagging_of_isCall call plain plain.queue.pause plain.former Iff.rfl
    rw [History.after_lagging_of_isCall call plain pause former present]
    refine .behind former gone ?_ ?_
    · exact (congrArg (·.queue.worker) own).trans idle
    · rw [line]
      exact List.append_ne_nil_of_left_ne_nil waits more
  cases action with
  | accept | stop | cancel => exact absurd rfl call
  | startFor ticket =>
    rw [History.after, History.after]
    by_cases listed : ticket ∈ plain.owed
    · have listed' : ticket ∈ (plain.lagging pause .dead former).owed := listed
      let left : History τ β := { plain with owed := plain.owed.filter (· != ticket) }
      have abreast : Lags pause left (left.lagging pause left.queue.worker _) :=
        .abreast (.dead :: former) dead
      rw [if_pos listed, if_pos listed', started, History.started_lagging]
      exact idle ▸ abreast
    · have listed' : ticket ∉ (plain.lagging pause .dead former).owed := listed
      rw [if_neg listed, if_neg listed']
      exact .behind former gone idle waits
  | start =>
    rw [History.after, History.after, started, History.started_lagging]
    exact idle ▸ .abreast _ dead
  | work => simp [Action.isWork] at other
  | workFormer index outcome now =>
    rw [History.after, History.after, orderly.workedFormer_eq,
      History.workedFormer_of_gone (plain.lagging _ _ _) gone]
    exact .behind former gone idle waits

/-- What happens to two histories leaves the one behind the other, but for a step of a worker that
the other one has not any more. -/
theorem Lags.after (orderly : Orderly plain) (lags : Lags pause plain slow)
    (action : Action τ β) :
    Lags pause (plain.after action) (slow.after action) ∨
      action.isWork = true ∧ slow.after action = slow := by
  cases lags with
  | abreast former gone => exact .inl (.after_abreast orderly gone pause action)
  | behind former gone idle waits =>
    cases acts : action.isWork with
    | false => exact .inl (.after_behind orderly gone idle waits pause acts)
    | true =>
      cases action with
      | work outcome now => exact .inr ⟨rfl, History.worked_of_dead rfl outcome now⟩
      | accept | startFor | start | stop | cancel | workFormer => simp [Action.isWork] at acts

/-- A history that lags behind another does so after some of the actions: all but some steps of the
worker. -/
theorem Lags.run (orderly : Orderly plain) (lags : Lags pause plain slow)
    (actions : List (Action τ β)) :
    ∃ steps, steps.Sublist actions ∧
      steps.filter (!·.isWork) = actions.filter (!·.isWork) ∧
      Lags pause (plain.run steps) (slow.run actions) := by
  induction actions generalizing plain slow with
  | nil => exact ⟨[], .slnil, rfl, lags⟩
  | cons action rest ih =>
    rcases lags.after orderly action with next | ⟨work, same⟩
    · obtain ⟨steps, part, calls, last⟩ := ih (orderly.after action) next
      refine ⟨action :: steps, part.cons_cons action, ?_, last⟩
      rw [List.filter_cons, List.filter_cons, calls]
    · obtain ⟨steps, part, calls, last⟩ := ih orderly lags
      have next : slow.run (action :: rest) = slow.run rest := congrArg (·.run rest) same
      refine ⟨steps, part.cons action, ?_, next ▸ last⟩
      rw [calls, List.filter_cons_of_neg (by simp [work])]

/-- What an action does to a queue whose worker ended at its pause. -/
structure Rests (history : History τ β) (action : Action τ β) : Prop where
  /-- No call is begun, and none ends. -/
  idle : (history.after action).begun = history.begun ∧
    (history.after action).ended = history.ended
  /-- The worker stays as it is unless someone starts another. -/
  stays : (history.after action).queue.worker = .dead ∨ action = .start ∨
    ∃ ticket ∈ history.owed, action = .startFor ticket
  /-- A task that waits goes on waiting unless someone cancels it. -/
  kept : ∀ ticket, history.queue.fate? ticket = some .waiting →
    (history.after action).queue.fate? ticket = some .waiting ∨ action = .cancel ticket
  /-- A queue that is to stop goes on refusing tasks. -/
  refused : history.queue.stopping = true →
    (history.after action).queue.stopping = true ∧
      (history.after action).accepted = history.accepted

/-- An action that changes the workers and no more leaves the rest as it is. -/
theorem Rests.of_renewed {action : Action τ β} {worker : Worker τ} {former : List (Worker τ)}
    {owed : List Nat}
    (renewed : history.after action =
      { history with queue := { history.queue with worker }, former, owed })
    (stays : worker = .dead ∨ action = .start ∨
      ∃ ticket ∈ history.owed, action = .startFor ticket) :
    Rests history action := by
  refine ⟨?_, ?_, fun ticket waits => .inl ?_, fun refusing => ?_⟩ <;> rw [renewed]
  · exact ⟨rfl, rfl⟩
  · exact stays
  · exact waits
  · exact ⟨refusing, rfl⟩

/-- Where a worker ended at its pause nothing goes on. -/
theorem Rests.of_dead (dead : history.queue.worker = .dead)
    (gone : ∀ worker ∈ history.former, worker.isLive = false) (action : Action τ β) :
    Rests history action := by
  have same : history.after action = history → Rests history action := fun same =>
    .of_renewed same (.inl dead)
  have started : history.started =
      history.lagging history.queue.pause .idle (.dead :: history.former) := by
    simp [History.started, ChangeQueue.start, isRunning, dead, Worker.isLive, History.lagging]
  cases action with
  | accept task =>
    cases refusing : history.queue.stopping with
    | true => exact same (by simp [History.after, ChangeQueue.accept, refusing])
    | false =>
      have accepted := Regular.accept_eq refusing task
      refine ⟨?_, ?_, fun ticket waits => ?_, by simp [refusing]⟩
      · simp [History.after, accepted]
      · simp [History.after, accepted, dead]
      · rw [fate?] at waits ⊢
        simp only [History.after, accepted]
        exact .inl (by rw [List.getElem?_append_left (List.getElem?_eq_some_iff.1 waits).1, waits])
  | startFor ticket =>
    by_cases listed : ticket ∈ history.owed
    · have renewed : history.after (.startFor ticket) = { history.started with
          owed := history.owed.filter (· != ticket) } := if_pos listed
      rw [started] at renewed
      exact .of_renewed renewed (.inr (.inr ⟨ticket, listed, rfl⟩))
    · exact same (if_neg listed)
  | start => exact .of_renewed started (.inr (.inl rfl))
  | stop =>
    have present : history.queue.worker ≠ .absent := by simp [dead]
    have marked := requestStop_of_present present
    refine ⟨⟨rfl, rfl⟩, ?_, fun ticket waits => .inl ?_, fun _ => ⟨?_, rfl⟩⟩
    · exact .inl (by rw [History.after, marked, dead])
    · rw [History.after, marked]
      exact waits
    · rw [History.after, marked]
  | cancel other =>
    rcases cancel_cases history.queue other with none | ⟨_, cancelled⟩
    · exact same (by rw [History.after, none])
    · refine ⟨⟨rfl, rfl⟩, ?_, fun ticket waits => ?_, fun refusing => ⟨?_, rfl⟩⟩
      · exact .inl (by rw [History.after, cancelled, dead])
      · rw [History.after, cancelled]
        by_cases here : ticket = other
        · exact .inr (here ▸ rfl)
        · exact .inl ((fate?_set_of_ne here history.queue .cancelled).trans waits)
      · rw [History.after, cancelled, refusing]
  | work outcome now => exact same (History.worked_of_dead dead outcome now)
  | workFormer index outcome now =>
    exact same (History.workedFormer_of_gone history gone index outcome now)

/-- What a delay does to a queue through some actions. -/
structure Delayed (delay : Float) (actions : List (Action τ β)) (slow : History τ β) : Prop where
  /-- What happened is what happens to a queue without a delay when its worker makes fewer steps. -/
  lags : ∃ steps, steps.Sublist actions ∧
    steps.filter (!·.isWork) = actions.filter (!·.isWork) ∧
    Lags (Pause.ofDelay delay) ((History.ofDelay 0).run steps) slow
  /-- The worker ends exactly when it comes to its pause, something waits and the delay cannot be
  waited for then. -/
  ends : slow.queue.worker ≠ .dead → ∀ action, (slow.after action).queue.worker = .dead ↔
    slow.queue.isPressed = true ∧ ∃ outcome now, action = .work outcome now ∧ NoTime delay now
  /-- Where it ended there, nothing goes on. -/
  halted : slow.queue.worker = .dead → slow.queue.line ≠ [] ∧ ∀ action, Rests slow action
  /-- A worker that is started there and left alone goes to one place only. -/
  single : ∀ now, NoTime delay now → slow.queue.worker = .idle → ∀ slot others,
    slow.queue.line = slot :: others → ∀ {σ : Type} (act : σ → τ → Except Text β × σ) (state : σ),
      Stranded act slow.queue state slot others (slow.queue.settle act now state)

/-- A pause cannot be made at an action exactly when it is a step of the worker and the delay cannot
be waited for then. -/
theorem Action.failsAt_iff (delay : Float) (action : Action τ β) :
    action.failsAt (Pause.ofDelay delay) = true ↔
      ∃ outcome now, action = .work outcome now ∧ NoTime delay now := by
  cases action <;> simp [failsAt, Pause.fails_ofDelay_iff]

/-- What a history is that lags behind an orderly one. -/
theorem Lags.delayed {delay : Float} {steps actions : List (Action τ β)}
    (orderly : Orderly ((History.ofDelay 0).run steps)) (part : steps.Sublist actions)
    (calls : steps.filter (!·.isWork) = actions.filter (!·.isWork))
    (lags : Lags (Pause.ofDelay delay) ((History.ofDelay 0).run steps) slow) :
    Delayed delay actions slow := by
  refine ⟨⟨steps, part, calls, lags⟩, ?_, ?_, ?_⟩
  · intro alive action
    cases lags with
    | behind => exact absurd rfl alive
    | abreast former gone =>
      obtain ⟨new, _, _, same⟩ := History.after_lagging orderly.steady orderly.former action
      have stays := (orderly.after action).regular.alive
      rw [same _ former gone, ← action.failsAt_iff]
      change (if _ then Worker.dead else _) = Worker.dead ↔ _
      split
      · exact iff_of_true rfl (And.symm ‹_›)
      · exact iff_of_false stays fun pressed => absurd pressed.symm ‹_›
  · intro dead
    cases lags with
    | abreast => exact absurd dead orderly.regular.alive
    | behind former gone idle waits => exact ⟨waits, .of_dead rfl gone⟩
  · intro now endless idle slot others first σ act state
    cases lags with
    | behind => contradiction
    | abreast former gone =>
      have fails := (Pause.fails_ofDelay_iff delay now).2 endless
      refine settle_of_fails fails idle first ?_ act state
      intro ticket named
      cases slot with
      | stop => simp [Slot.ticket?] at named
      | task other task =>
        obtain rfl : other = ticket := Option.some.inj named
        have listed : .task other task ∈ ((History.ofDelay 0).run steps).queue.line := by
          exact first ▸ List.mem_cons_self
        have bound := (List.getElem?_eq_some_iff.1 (orderly.lined other task listed)).1
        exact orderly.counted ▸ bound

/-- Up to a moment a delay changes nothing but the time that things take exactly when it can be
waited for at that moment. With any delay the calls that are made are those of a queue without one
whose worker makes fewer steps: where the delay cannot be waited for, it ends the worker when that
one comes to its pause while something waits, nothing goes on until someone starts another, and that
one goes to one place only. -/
theorem run_delayed (delay : Float) (task : τ) :
    (∀ moment, (∀ actions : List (Action τ β), (∀ action ∈ actions, action.IsBy moment) →
        (History.ofDelay delay).run actions =
          ((History.ofDelay 0).run actions).pausing (Pause.ofDelay delay)) ↔
      ¬ NoTime delay moment) ∧
      ∀ actions : List (Action τ β),
        Delayed delay actions ((History.ofDelay delay).run actions) := by
  have start : Orderly (History.ofDelay 0 : History τ β) := .new
  refine ⟨fun moment => ⟨fun same endless => ?_, fun timed actions early => ?_⟩, fun actions => ?_⟩
  · -- the worker is done with the first of two tasks and ends at its pause, as no other worker does
    let burst : List (Action τ β) :=
      [.accept task, .startFor 0, .accept task] ++ List.replicate 4 (.work (.error []) moment)
    have before : ∀ action ∈ burst, action.IsBy moment := by
      simp [burst, Action.IsBy]
    have fails := (Pause.fails_ofDelay_iff delay moment).2 endless
    have dead : ((History.ofDelay delay).run burst).queue.worker = .dead := by
      rw [History.ofDelay]
      generalize Pause.ofDelay delay = pause at fails
      change (if pause.fails moment && _ then Worker.dead else _) = .dead
      rw [fails]
      rfl
    rw [same burst before] at dead
    exact (start.run burst).regular.alive dead
  · refine start.run_pausing fun action listed => ?_
    by_contra failed
    obtain ⟨outcome, now, rfl, endless⟩ := (action.failsAt_iff delay).1 (by simpa using failed)
    exact timed (endless.mono (early _ listed))
  · have abreast : Lags (Pause.ofDelay delay) (History.ofDelay 0 : History τ β)
        (History.ofDelay delay) := .abreast [] (by simp)
    obtain ⟨steps, part, calls, lags⟩ := abreast.run start actions
    exact lags.delayed (start.run steps) part calls

/-- What is seen of a queue that was left alone with two tasks submitted one right after the other:
the calls that were begun, the number of places that wait and whether a worker goes on. -/
def burst (delay : Float) : List (Nat × Char) × Nat × Bool :=
  let history : History Char Unit := (History.ofDelay delay).run
    ([.accept 'a', .startFor 0, .accept 'b', .startFor 1] ++ List.replicate 8 (.work (.ok ()) 0))
  (history.begun, history.queue.pending, history.queue.isRunning)

/-- Delays that are taken as settings end the worker before the second task. -/
theorem burst_strands :
    (∀ value ∈ [Json.int (-1), .string "nan".toText, .string "inf".toText],
      ((Config.ofJson (.object [("queueDelay".toText, value)])).toOption.map fun config =>
        burst config.delay) = some ([(0, 'a')], 1, false)) ∧
      burst 0 = ([(0, 'a'), (1, 'b')], 0, true) := by
  decide +kernel

end ChangeQueue

end Restyle
