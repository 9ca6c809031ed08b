import Restyle.Proofs.Queue.Settle

/-!
# Pauses of a queue

Between two tasks the worker pauses, but only while something waits. A delay that is no time, or
that the clock cannot count to its end, ends the worker there; any other delay changes nothing. Main
statements: which delays those are (`Pause.fails_ofDelay_iff`), that a queue with any pause makes
the same step as one without, but for a worker that ends (`step_pausing`), and that a worker that
ends so goes to one place only (`settle_of_fails`).
-/
namespace Restyle

open Float.Model (UnpackedFloat)

namespace Number

/-- One number is below another when it is so as they are held. -/
theorem lt_iff (first second : Float) :
    first < second ↔ first.toModel.unpack.lt second.toModel.unpack = true :=
  decide_eq_true_iff

end Number

/-- A delay that cannot be waited for when the clock reads `now`: it is below zero, no number, or of
more nanoseconds than the clock has left. -/
def NoTime (delay : Float) (now : Nat) : Prop :=
  delay < 0 ∨ delay.isNaN = true ∨
    0 < delay ∧ ∀ time, nanoseconds? delay = some time → lastMoment - now < time

/-- A delay that cannot be waited for cannot be waited for later. -/
theorem NoTime.mono {delay : Float} {now later : Nat} (endless : NoTime delay now)
    (past : now ≤ later) : NoTime delay later := by
  rcases endless with negative | undefined | ⟨positive, long⟩
  · exact .inl negative
  · exact .inr (.inl undefined)
  · refine .inr (.inr ⟨positive, fun time same => ?_⟩)
    have := long time same
    omega

/-- The worker ends at its pause exactly when the delay cannot be waited for. -/
theorem Pause.fails_ofDelay_iff (delay : Float) (now : Nat) :
    (Pause.ofDelay delay).fails now = true ↔ NoTime delay now := by
  have zero : (0 : Float).toModel.unpack = .zero .positive := rfl
  have equal : (delay == 0) = delay.toModel.unpack.beq (.zero .positive) := rfl
  have undefined : delay.isNaN = delay.toModel.unpack.isNaN := rfl
  simp only [NoTime, Pause.ofDelay, Number.lt_iff, equal, undefined, zero]
  -- both sides compute from the kind and the sign of the delay, but for positive ones
  have timed : ((nanoseconds? delay).elim .fault Pause.wait).fails now = true ↔
      ∀ time, nanoseconds? delay = some time → lastMoment - now < time := by
    cases nanoseconds? delay <;> simp [Pause.fails]
  have positive : ∀ {last : Prop}, last ↔ (false = true ∨ false = true ∨ true = true ∧ last) := by
    simp
  cases delay.toModel.unpack with
  | notANumber => exact iff_of_true rfl (.inr (.inl rfl))
  | zero sign =>
    refine iff_of_false (show ¬ false = true by decide) ?_
    rintro (below | none | ⟨above, _⟩)
    · cases sign <;> exact absurd (show false = true from below) (by decide)
    · exact absurd (show false = true from none) (by decide)
    · cases sign <;> exact absurd (show false = true from above) (by decide)
  | infinity sign =>
    cases sign with
    | negative => exact iff_of_true rfl (.inl rfl)
    | positive => exact timed.trans positive
  | finite sign held power proper =>
    cases sign with
    | negative => exact iff_of_true rfl (.inl rfl)
    | positive => exact timed.trans positive

/-- A second after the start of the clock a delay cannot be waited for that just fits before. -/
example : NoTime 9223372036.5 1000000000 ∧ ¬ NoTime 9223372036.5 0 := by
  rw [← Pause.fails_ofDelay_iff, ← Pause.fails_ofDelay_iff]
  decide +kernel

namespace ChangeQueue

variable {τ β σ : Type} {queue : ChangeQueue τ β} {act : σ → τ → Except Text β × σ} {state : σ}
  {slot : Slot τ} {others : List (Slot τ)} {now : Nat}

/-- A queue with another pause. -/
def pausing (queue : ChangeQueue τ β) (pause : Pause) : ChangeQueue τ β := { queue with pause }

/-- Whether the worker comes to its pause while something waits. -/
def isPressed (queue : ChangeQueue τ β) : Bool :=
  match queue.worker with
  | .resting => !queue.line.isEmpty
  | _ => false

/-- With any pause the worker makes the same step, but for a worker that ends at its pause. -/
theorem step_pausing (steady : queue.pause.fails now = false) (pause : Pause)
    (act : σ → τ → Except Text β × σ) (state : σ) :
    (queue.pausing pause).step act now state =
      ({ (queue.step act now state).1 with
          pause
          worker := if pause.fails now = true ∧ queue.isPressed = true then .dead
            else (queue.step act now state).1.worker },
        (queue.step act now state).2) := by
  cases stands : queue.worker with
  | absent | dead => simp [step, take, pausing, isPressed, stands]
  | idle => cases line : queue.line <;> simp [step, take, pausing, isPressed, stands, line]
  | holding slot =>
    cases slot with
    | stop => simp [step, attend, pausing, isPressed, stands]
    | task ticket task =>
      simp only [step, attend, pausing, isPressed, stands, fate?]
      generalize queue.fates[ticket]? = fate
      rcases fate with _ | _ | _ | _ | _ <;> simp
  | busy ticket task => simp [step, finish, pausing, isPressed, stands]
  | resting => simp [step, rest, pausing, isPressed, stands, steady]

/-- A step from a pause that can be made leaves the worker idle while something waits. -/
theorem step_of_isPressed (steady : queue.pause.fails now = false)
    (pressed : queue.isPressed = true) (act : σ → τ → Except Text β × σ) (state : σ) :
    (queue.step act now state).1.worker = .idle ∧ (queue.step act now state).1.line ≠ [] := by
  rw [isPressed] at pressed
  split at pressed
  · rename_i resting
    simpa [step, rest, resting, steady] using pressed
  · simp at pressed

/-- With a step more the worker goes on from what its next step leaves. -/
theorem settleFor_succ (act : σ → τ → Except Text β × σ) (now : Nat) (queue : ChangeQueue τ β)
    (state : σ) (fuel : Nat) : queue.settleFor act now state (fuel + 1) =
      (queue.step act now state).1.settleFor act now (queue.step act now state).2 fuel := rfl

/-- The worker does nothing any more unless someone else does. -/
def IsStill (queue : ChangeQueue τ β) : Prop :=
  queue.worker.isLive = false ∨ queue.worker = .idle ∧ queue.line = []

/-- A worker that does nothing any more leaves everything as it is. -/
theorem IsStill.settleFor (still : queue.IsStill) (act : σ → τ → Except Text β × σ) (now : Nat)
    (state : σ) (fuel : Nat) : queue.settleFor act now state fuel = (queue, state) := by
  have same : queue.step act now state = (queue, state) := by
    rcases still with gone | ⟨idle, nothing⟩
    · cases stands : queue.worker with
      | absent | dead => simp [step, take, stands]
      | idle | holding _ | busy _ _ | resting => simp [stands, Worker.isLive] at gone
    · simp [step, take, idle, nothing]
  induction fuel with
  | zero => rfl
  | succ fuel ih =>
    rw [settleFor_succ, same]
    exact ih

/-- A queue after a pause that cannot be made: the worker ended if something waits. -/
def ending (queue : ChangeQueue τ β) : ChangeQueue τ β :=
  { queue with worker := if queue.line = [] then .idle else .dead }

/-- After a pause that ends the worker what waits has no worker. -/
theorem isRunning_ending (waits : queue.line ≠ []) : queue.ending.isRunning = false := by
  rw [isRunning, ending, if_neg waits]
  rfl

/-- A worker that comes to a pause that cannot be made and is left alone does nothing any more. -/
theorem settleFor_of_resting (resting : queue.worker = .resting)
    (fails : queue.pause.fails now = true) (act : σ → τ → Except Text β × σ) (state : σ)
    (fuel : Nat) : queue.settleFor act now state (fuel + 1) = (queue.ending, state) := by
  have stepped : queue.step act now state = (queue.ending, state) := by
    cases line : queue.line <;> simp [step, rest, ending, resting, fails, line]
  have still : queue.ending.IsStill := by
    by_cases nothing : queue.line = []
    · exact .inr ⟨if_pos nothing, nothing⟩
    · exact .inl (isRunning_ending nothing)
  rw [settleFor_succ, stepped, still.settleFor]

/-- What a worker that is left alone leaves when it ends at its first pause: it went to the first
place only. -/
structure Stranded (act : σ → τ → Except Text β × σ) (queue : ChangeQueue τ β) (state : σ)
    (slot : Slot τ) (others : List (Slot τ)) (last : ChangeQueue τ β × σ) : Prop where
  /-- The other places wait as before. -/
  line : last.1.line = others
  /-- The shared state is that after the task of the first place, if it has one to do. -/
  shared : last.2 = (carryOut act (due? queue.fates slot).toList state).2
  /-- That task came to its outcome. -/
  answered : ∀ answer ∈ (carryOut act (due? queue.fates slot).toList state).1,
    last.1.fate? answer.1 = some (.done answer.2)
  /-- What became of the others is as before. -/
  kept : ∀ ticket, slot.ticket? ≠ some ticket → last.1.fate? ticket = queue.fate? ticket
  /-- What waits has no worker. -/
  gone : others ≠ [] → last.1.isRunning = false

/-- Where the pause ends the worker, one that took a place and is left alone goes to it and to no
other. -/
theorem settleFor_of_holding (queue : ChangeQueue τ β) (fails : queue.pause.fails now = true)
    (held : queue.worker = .holding slot)
    (accepted : ∀ ticket ∈ slot.ticket?, ticket < queue.fates.length)
    (act : σ → τ → Except Text β × σ) (state : σ) (fuel : Nat) :
    Stranded act queue state slot queue.line
      (queue.settleFor act now state (fuel + 1 + 1 + 1)) := by
  rw [settleFor_succ]
  cases slot with
  | stop =>
    have left : queue.step act now state =
        ({ queue with worker := .absent, stopping := false }, state) := by
      simp only [step, attend, held]
    have still : IsStill { queue with worker := .absent, stopping := false } := .inl rfl
    rw [left, still.settleFor]
    exact ⟨rfl, rfl, by simp [due?, carryOut], fun _ _ => rfl, fun _ => rfl⟩
  | task ticket task =>
    by_cases cancelled : queue.fates[ticket]? = some .cancelled
    · have none : due? queue.fates (.task ticket task) = none := by
        simp only [due?, cancelled]
      let passed : ChangeQueue τ β := { queue with worker := .resting }
      have stepped : queue.step act now state = (passed, state) := by
        simp only [step, attend, held, fate?, cancelled, passed]
      rw [stepped, passed.settleFor_of_resting rfl fails]
      refine ⟨rfl, ?_, ?_, fun _ _ => rfl, isRunning_ending⟩
      · rw [none]
        rfl
      · simp [none, carryOut]
    · have due : due? queue.fates (.task ticket task) = some (ticket, task) := by
        simp only [due?]
      let begun : ChangeQueue τ β := { queue with
        worker := .busy ticket task, fates := queue.fates.set ticket .running }
      let done : ChangeQueue τ β := { queue with
        worker := .resting
        fates := (queue.fates.set ticket .running).set ticket (.done (act state task).1) }
      have began : queue.step act now state = (begun, state) := by
        simp only [step, attend, held, fate?, begun]
      have ended : begun.step act now state = (done, (act state task).2) := rfl
      have bound : ticket < queue.fates.length := accepted ticket rfl
      rw [began, settleFor_succ, ended, done.settleFor_of_resting rfl fails]
      refine ⟨rfl, ?_, ?_, fun other apart => ?_, isRunning_ending⟩
      · rw [due]
        rfl
      · rw [due]
        intro answer listed
        obtain rfl := List.mem_singleton.1 listed
        simp [fate?, ending, done, bound]
      · have apart : ticket ≠ other := fun same => apart (congrArg some same)
        simp only [fate?, ending, done, List.getElem?_set_ne apart]

/-- Where the pause ends the worker, one that is left alone goes to the first place only. -/
theorem settle_of_fails (fails : queue.pause.fails now = true) (idle : queue.worker = .idle)
    (first : queue.line = slot :: others)
    (accepted : ∀ ticket ∈ slot.ticket?, ticket < queue.fates.length)
    (act : σ → τ → Except Text β × σ) (state : σ) :
    Stranded act queue state slot others (queue.settle act now state) := by
  let taken : ChangeQueue τ β := { queue with line := others, worker := .holding slot }
  have took : queue.step act now state = (taken, state) := by
    simp only [step, take, idle, first, taken]
  have fuel : 4 * queue.line.length + 3 = 4 * others.length + 3 + 1 + 1 + 1 + 1 := by
    rw [first, List.length_cons]
    omega
  have last : Stranded act taken state slot others
      (taken.settleFor act now state (4 * others.length + 3 + 1 + 1 + 1)) :=
    settleFor_of_holding taken fails rfl accepted act state _
  rw [settle, fuel, settleFor_succ, took]
  exact { last with }

end ChangeQueue

end Restyle
