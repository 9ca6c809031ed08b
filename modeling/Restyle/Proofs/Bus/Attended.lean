import Mathlib.Data.List.Count
import Restyle.Activity
import Restyle.Proofs.Bus.Unregistered

/-!
# A log on a bus

A log that is registered once for all notices, beside listeners that emit none themselves and leave
its registration alone, is called once for every notice, whatever else those listeners register,
unregister or fail at (`Attends.emit`). So the log has the latest entries of all notices that were
emitted, as many as it keeps, newest first (`log_foldl_record`, `latest_of_keeps`).
-/
namespace Restyle

/-- A log has the latest of the entries that were added to it, as many as it keeps, newest first. -/
def ActivityLog.Keeps (log : ActivityLog) (entries : List ActivityEntry) : Prop :=
  log.entries = log.capacity.elim entries.reverse entries.reverse.take

/-- A log has the latest entries after one more was added. -/
theorem ActivityLog.Keeps.add {log : ActivityLog} {entries : List ActivityEntry}
    (keeps : log.Keeps entries) (notice : Notice) :
    (log.add notice).Keeps (entries ++ [notice.describe]) := by
  have reversed : (entries ++ [notice.describe]).reverse = notice.describe :: entries.reverse :=
    List.reverse_concat
  rw [Keeps] at keeps ⊢
  rw [reversed, ActivityLog.add, keeps]
  cases log.capacity with
  | none => rfl
  | some capacity =>
    show (notice.describe :: entries.reverse.take capacity).take capacity = _
    cases capacity with
    | zero => rfl
    | succ capacity => simp [List.take_take]

/-- A log of a given capacity has no entries at first. -/
theorem ActivityLog.keeps_ofCapacity {maxlen : Option Int} {log : ActivityLog}
    (made : ActivityLog.ofCapacity maxlen = .ok log) :
    log.capacity = maxlen.map Int.toNat ∧ log.Keeps [] := by
  cases maxlen with
  | none =>
    obtain rfl := Except.ok.inj made
    exact ⟨rfl, rfl⟩
  | some capacity =>
    rw [ofCapacity] at made
    split at made
    · contradiction
    · split at made
      · contradiction
      · obtain rfl := Except.ok.inj made
        exact ⟨rfl, List.take_nil.symm⟩

/-- The latest entries of a log, at most a given positive number of them. -/
theorem ActivityLog.latest_of_keeps {log : ActivityLog} {entries : List ActivityEntry}
    (keeps : log.Keeps entries) {count : Int} (positive : 0 < count) :
    log.latest (some count) =
      entries.reverse.take (log.capacity.elim count.toNat (min count.toNat)) := by
  have some_given : ¬ count = 0 := by omega
  have upward : ¬ count < 0 := by omega
  rw [Keeps] at keeps
  simp only [latest, if_neg some_given, if_neg upward, keeps]
  cases log.capacity with
  | none => rfl
  | some capacity => exact List.take_take

namespace Bus

variable {behaviour : Text → List BusAction} {emitNested : Bus → NoticeKind → Course} {bus : Bus}
  {kind : NoticeKind} {listener : Text}

/-- A listener is registered once for all notices and for no kind, and no listener emits a notice or
changes its registration. -/
structure Attends (behaviour : Text → List BusAction) (bus : Bus) (listener : Text) : Prop where
  /-- It is registered once for all notices. -/
  once : bus.everywhere.count listener = 1
  /-- It is registered for no kind. -/
  never : ∀ kind, (bus.ofKind kind).count listener = 0
  /-- No listener emits a notice. -/
  quiet : ∀ other kind, .emit kind ∉ behaviour other
  /-- No listener unregisters it. -/
  kept : ∀ other, .unsubscribe listener ∉ behaviour other
  /-- No listener registers it. -/
  alone : ∀ other, ∀ action ∈ behaviour other, ¬ (Happening.did action).Registers listener

/-- Actions that emit nothing do not nest too deep. -/
theorem ending_perform_of_quiet {actions : List BusAction} (quiet : ∀ kind, .emit kind ∉ actions)
    (bus : Bus) : (perform emitNested actions bus).ending ≠ .tooDeep := by
  induction actions generalizing bus with
  | nil => simp [perform]
  | cons action rest ih =>
    have later : ∀ kind, .emit kind ∉ rest := fun kind listed =>
      quiet kind (List.mem_cons_of_mem _ listed)
    rw [perform]
    cases action with
    | emit kind => exact absurd List.mem_cons_self (quiet kind)
    | fail => simp [once]
    | subscribe | subscribeAll | unsubscribe => exact ih later _

/-- Listeners that emit nothing do not nest too deep. -/
theorem ending_callAll_of_quiet (quiet : ∀ other kind, .emit kind ∉ behaviour other)
    (kind : NoticeKind) (listeners : List Text) (bus : Bus) :
    (callAll behaviour emitNested kind listeners bus).ending ≠ .tooDeep := by
  induction listeners generalizing bus with
  | nil => simp [callAll]
  | cons listener rest ih =>
    have turn : (perform emitNested (behaviour listener) bus).ending ≠ .tooDeep :=
      ending_perform_of_quiet (quiet listener) bus
    rw [callAll]
    cases ending : (perform emitNested (behaviour listener) bus).ending with
    | tooDeep => exact absurd ending turn
    | returned | raised =>
      simp only [Course.behind, ending]
      exact ih _

/-- An emission to listeners that emit nothing does not nest too deep. -/
theorem ending_emit_of_quiet (quiet : ∀ other kind, .emit kind ∉ behaviour other) {limit : Nat}
    (deep : 0 < limit) (bus : Bus) (kind : NoticeKind) :
    (emit behaviour limit bus kind).ending ≠ .tooDeep := by
  cases limit with
  | zero => omega
  | succ limit =>
    rw [emit]
    generalize made : callAll behaviour (emit behaviour limit) kind (bus.audience kind) bus = course
    have calls : course.ending ≠ .tooDeep := by
      rw [← made]
      exact ending_callAll_of_quiet quiet kind (bus.audience kind) bus
    cases ending : course.ending with
    | tooDeep => exact absurd ending calls
    | returned => simp
    | raised => simp [Course.behind, ending]

/-- What a listener does is one of its actions. -/
theorem mem_of_mem_untilFailure {actions : List BusAction} {action : BusAction}
    (done : action ∈ untilFailure actions) : action ∈ actions := by
  induction actions with
  | nil => simp [untilFailure] at done
  | cons first rest ih =>
    rw [untilFailure] at done
    by_cases fails : first = .fail
    · rw [if_pos fails, List.mem_singleton] at done
      simp [done]
    · rw [if_neg fails, List.mem_cons] at done
      rcases done with rfl | later
      · exact List.mem_cons_self
      · exact List.mem_cons_of_mem _ (ih later)

/-- What is done in turns is what listeners do. -/
theorem exists_of_mem_turns {listeners : List Text} {action : BusAction}
    (done : .did action ∈ listeners.flatMap (turn behaviour kind)) :
    ∃ other, action ∈ behaviour other := by
  obtain ⟨other, _, inside⟩ := List.mem_flatMap.1 done
  rw [turn, List.mem_cons, List.mem_map] at inside
  rcases inside with called | ⟨action', held, same⟩
  · contradiction
  · cases same
    exact ⟨other, mem_of_mem_untilFailure held⟩

/-- A listener that hears every notice once is called once for a notice, and hears every notice once
on the bus that the emission leaves. -/
theorem Attends.emit (attends : Attends behaviour bus listener) {limit : Nat} (deep : 0 < limit)
    (kind : NoticeKind) :
    let course := emit behaviour limit bus kind
    course.ending = .returned ∧ course.calls.count ⟨listener, kind⟩ = 1 ∧
      Attends behaviour course.bus listener := by
  intro course
  have ends := ending_emit_of_quiet attends.quiet deep bus kind
  obtain ⟨returns, ⟨inside, happened, surface⟩, sound⟩ := nests_emit behaviour limit bus kind ends
  -- No listener emits, so nothing happens outside of the surface.
  have flat : inside = (bus.audience kind).flatMap (turn behaviour kind) := by
    apply surface.eq_of_flat
    intro kind' begun
    obtain ⟨other, held⟩ := exists_of_mem_turns begun
    exact attends.quiet other kind' held
  subst flat
  have calls : course.calls = (bus.audience kind).map fun other => ⟨other, kind⟩ := by
    show course.happenings.filterMap Happening.call? = _
    rw [show course.happenings = _ from happened, List.cons_append, List.filterMap_cons,
      List.filterMap_append, filterMap_call?_turns]
    simp [Happening.call?]
  have single : (bus.audience kind).count listener = 1 := by
    rw [audience, List.count_append, attends.once, attends.never]
  have each : ((bus.audience kind).map fun other => (⟨other, kind⟩ : Call)).count
      ⟨listener, kind⟩ = (bus.audience kind).count listener :=
    List.count_map_of_injective _ _ (fun one two same => (Call.mk.inj same).1) _
  have done : ∀ action, .did action ∈ course.happenings →
      action = .emit kind ∨ ∃ other, action ∈ behaviour other := by
    intro action listed
    rw [show course.happenings = _ from happened, List.cons_append, List.mem_cons,
      List.mem_append, List.mem_singleton] at listed
    rcases listed with begun | inside | ended
    · exact .inl (Happening.did.inj begun)
    · exact .inr (exists_of_mem_turns inside)
    · contradiction
  have alone : ∀ happening ∈ course.happenings, ¬ happening.Registers listener := by
    intro happening listed registers
    cases happening with
    | called | ended => exact registers
    | did action =>
      rcases done action listed with rfl | ⟨other, held⟩
      · exact registers
      · exact attends.alone other action held registers
  have kept : course.happenings.count (.did (.unsubscribe listener)) = 0 := by
    rw [List.count_eq_zero]
    intro listed
    rcases done _ listed with begun | ⟨other, held⟩
    · contradiction
    · exact attends.kept other held
  obtain ⟨everywhere, ofKind⟩ := count_replay bus alone
  rw [kept, Nat.sub_zero] at everywhere
  refine ⟨returns, by rw [calls, each, single], ?_, fun kind' => ?_, attends.quiet, attends.kept,
    attends.alone⟩
  · rw [show course.bus = _ from sound.replayed, everywhere, attends.once]
  · rw [show course.bus = _ from sound.replayed, ofKind kind', kept, attends.never]

/-- Emit a notice on a bus and add it to a log each time the log is called by its name. That every
call is one of this notice holds where listeners emit none themselves. -/
def record (behaviour : Text → List BusAction) (limit : Nat) (name : Text)
    (heard : Bus × ActivityLog) (notice : Notice) : Bus × ActivityLog :=
  let course := heard.1.emit behaviour limit notice.kind
  (course.bus, heard.2.addAll (List.replicate (course.calls.count ⟨name, notice.kind⟩) notice))

/-- A log that hears every notice once has the entries of all notices that were emitted. -/
theorem log_foldl_record {log : ActivityLog} {entries : List ActivityEntry}
    (attends : Attends behaviour bus listener) (keeps : log.Keeps entries) {limit : Nat}
    (deep : 0 < limit) (notices : List Notice) :
    let heard := notices.foldl (record behaviour limit listener) (bus, log)
    Attends behaviour heard.1 listener ∧ heard.2.capacity = log.capacity ∧
      heard.2.Keeps (entries ++ notices.map Notice.describe) := by
  induction notices generalizing bus log entries with
  | nil =>
    rw [List.map_nil, List.append_nil]
    exact ⟨attends, rfl, keeps⟩
  | cons notice rest ih =>
    obtain ⟨_, single, after⟩ := attends.emit deep notice.kind
    obtain ⟨still, capacity, whole⟩ := ih after (keeps.add notice)
    have step : record behaviour limit listener (bus, log) notice =
        ((bus.emit behaviour limit notice.kind).bus, log.add notice) := by
      simp only [record, single]
      rfl
    rw [List.foldl_cons, step, List.map_cons, ← List.singleton_append, ← List.append_assoc]
    exact ⟨still, capacity, whole⟩

end Bus

end Restyle
