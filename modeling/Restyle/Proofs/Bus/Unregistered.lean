import Restyle.Proofs.Bus.Emission
import Restyle.Proofs.OrderedMap

/-!
# Listeners that are unregistered

To unregister a listener takes one of its registrations from each list that has one, and leaves
those of all other listeners in their order. So a listener that was registered twice in a list is
still called (`not_silent_twice`). Main statement: how often an emission calls a listener that was
unregistered before is the number of its registrations less that of its unregistrations, list by
list, and it is silent when it was registered once at most in each (`perform_unregistered`).
-/
namespace Restyle.Bus

variable {behaviour : Text → List BusAction} {bus : Bus} {kind : NoticeKind} {listener other : Text}
  {happening : Happening} {happenings : List Happening}

/-- A listener is registered. -/
def Happening.Registers (listener : Text) : Happening → Prop
  | .did (.subscribe _ other) => other = listener
  | .did (.subscribeAll other) => other = listener
  | _ => False

/-- No emission that begins in what happens calls the listener, until it is registered. -/
def Silent (listener : Text) (happenings : List Happening) : Prop :=
  ∀ middle kind rest, happenings = middle ++ .did (.emit kind) :: rest →
    (∀ happening ∈ middle, ¬ happening.Registers listener) →
    ∃ inside later own, rest = inside ++ .ended :: later ∧ Surface inside own ∧
      .called ⟨listener, kind⟩ ∉ own

/-- The listeners of a kind after one was registered for a kind. -/
@[simp] theorem ofKind_subscribe (bus : Bus) (kind other : NoticeKind) (listener : Text) :
    (bus.subscribe kind listener).ofKind other =
      if other = kind then bus.ofKind kind ++ [listener] else bus.ofKind other := by
  rw [subscribe, ofKind, OrderedMap.get?_insert]
  split
  · rfl
  · rfl

/-- The listeners of a kind after one was registered for all. -/
@[simp] theorem ofKind_subscribeAll (bus : Bus) (listener : Text) (kind : NoticeKind) :
    (bus.subscribeAll listener).ofKind kind = bus.ofKind kind := rfl

/-- The listeners of a kind after one was unregistered. -/
@[simp] theorem ofKind_unsubscribe (bus : Bus) (listener : Text) (kind : NoticeKind) :
    (bus.unsubscribe listener).ofKind kind = (bus.ofKind kind).erase listener := by
  rw [unsubscribe, ofKind, OrderedMap.get?_mapValues, ofKind]
  cases bus.byKind.get? kind <;> rfl

/-- To unregister a listener leaves the registrations of all others in their order. -/
theorem filter_erase_ne (listeners : List Text) (listener : Text) :
    (listeners.erase listener).filter (· ≠ listener) = listeners.filter (· ≠ listener) := by
  rw [← List.erase_filter]
  refine List.erase_of_not_mem fun listed => ?_
  simpa using (List.mem_filter.1 listed).2

/-- The registrations of a listener in a list are left when something else happens than that it is
registered, and there is one less when it is unregistered. -/
theorem count_enact (bus : Bus) (apart : ¬ happening.Registers listener) :
    (bus.enact happening).everywhere.count listener =
        bus.everywhere.count listener - [happening].count (.did (.unsubscribe listener)) ∧
      ∀ kind, ((bus.enact happening).ofKind kind).count listener =
        (bus.ofKind kind).count listener - [happening].count (.did (.unsubscribe listener)) := by
  cases happening with
  | called call => simp [enact]
  | ended => simp [enact]
  | did action =>
    cases action with
    | emit kind => simp [enact]
    | fail => simp [enact]
    | subscribe kind other =>
      have apart : other ≠ listener := apart
      refine ⟨by simp [enact, subscribe], fun kind' => ?_⟩
      simp only [enact, ofKind_subscribe]
      split
      · rename_i same
        simp [same, List.count_append, apart]
      · simp
    | subscribeAll other =>
      have apart : other ≠ listener := apart
      refine ⟨by simp [enact, subscribeAll, List.count_append, apart], fun kind => ?_⟩
      simp [enact]
    | unsubscribe other =>
      show (bus.everywhere.erase other).count listener = _ ∧
        ∀ kind, ((bus.unsubscribe other).ofKind kind).count listener = _
      by_cases same : other = listener
      · subst same
        simp
      · have apart : listener ≠ other := Ne.symm same
        simp [same, List.count_erase_of_ne apart]

/-- As long as a listener is not registered it has one registration less in each list for every time
that it is unregistered. -/
theorem count_replay (bus : Bus)
    (apart : ∀ happening ∈ happenings, ¬ happening.Registers listener) :
    (bus.replay happenings).everywhere.count listener =
        bus.everywhere.count listener - happenings.count (.did (.unsubscribe listener)) ∧
      ∀ kind, ((bus.replay happenings).ofKind kind).count listener =
        (bus.ofKind kind).count listener - happenings.count (.did (.unsubscribe listener)) := by
  induction happenings generalizing bus with
  | nil => simp [replay]
  | cons first rest ih =>
    obtain ⟨everywhere, ofKind⟩ := count_enact bus (apart first (by simp))
    obtain ⟨everywhere', ofKind'⟩ := ih (bus.enact first) fun happening listed =>
      apart happening (by simp [listed])
    have split : (first :: rest).count (.did (.unsubscribe listener)) =
        [first].count (.did (.unsubscribe listener)) +
          rest.count (.did (.unsubscribe listener)) := by
      rw [← List.singleton_append, List.count_append]
    have step : bus.replay (first :: rest) = (bus.enact first).replay rest := rfl
    rw [step, split]
    refine ⟨by omega, fun kind => ?_⟩
    have here := ofKind kind
    have there := ofKind' kind
    omega

/-- A listener is called in turns as often as it has one. -/
theorem count_turns (behaviour : Text → List BusAction) (kind : NoticeKind) (listener : Text)
    (listeners : List Text) :
    (listeners.flatMap (turn behaviour kind)).count (.called ⟨listener, kind⟩) =
      listeners.count listener := by
  have none_did : ∀ actions : List BusAction,
      (actions.map Happening.did).count (.called ⟨listener, kind⟩) = 0 := by
    intro actions
    rw [List.count_eq_zero]
    simp
  induction listeners with
  | nil => rfl
  | cons first rest ih =>
    rw [List.flatMap_cons, List.count_append, ih, turn, List.count_cons, none_did, List.count_cons]
    by_cases same : first = listener <;> simp [same, Nat.add_comm]

/-- An isolated emission calls a listener once for each registration that is present when it
begins. -/
theorem Isolated.exists_count (isolated : Isolated behaviour bus happenings)
    {before rest : List Happening} (split : happenings = before ++ .did (.emit kind) :: rest)
    (listener : Text) :
    ∃ inside later own, rest = inside ++ .ended :: later ∧ Surface inside own ∧
      own.count (.called ⟨listener, kind⟩) =
        (bus.replay before).everywhere.count listener +
          ((bus.replay before).ofKind kind).count listener := by
  obtain ⟨inside, later, same, surface⟩ := isolated before kind rest split
  refine ⟨inside, later, _, same, surface, ?_⟩
  rw [count_turns, List.count_append]

/-- An isolated emission calls a listener that was unregistered, and was not registered since, once
for each registration that is left. -/
theorem Isolated.exists_count_unregistered (isolated : Isolated behaviour bus happenings)
    {before middle rest : List Happening}
    (split : happenings =
      before ++ .did (.unsubscribe listener) :: (middle ++ .did (.emit kind) :: rest))
    (apart : ∀ happening ∈ middle, ¬ happening.Registers listener) :
    let now := bus.replay before
    let taken := 1 + middle.count (.did (.unsubscribe listener))
    ∃ inside later own, rest = inside ++ .ended :: later ∧ Surface inside own ∧
      own.count (.called ⟨listener, kind⟩) =
        (now.everywhere.count listener - taken) +
          ((now.ofKind kind).count listener - taken) := by
  intro now taken
  let since : List Happening := .did (.unsubscribe listener) :: middle
  have whole : happenings = (before ++ since) ++ .did (.emit kind) :: rest := by
    rw [split]
    simp [since]
  have apart' : ∀ happening ∈ since, ¬ happening.Registers listener := by
    intro happening listed
    rcases List.mem_cons.1 listed with rfl | listed
    · exact id
    · exact apart happening listed
  obtain ⟨everywhere, ofKind⟩ := count_replay now apart'
  have here := ofKind kind
  have lost : since.count (.did (.unsubscribe listener)) = taken := by
    rw [List.count_cons_self, Nat.add_comm]
  obtain ⟨inside, later, own, same, surface, count⟩ := isolated.exists_count whole listener
  rw [replay_append, everywhere, here, lost] at count
  exact ⟨inside, later, own, same, surface, count⟩

/-- Whatever is done on a bus, to unregister a listener leaves the registrations of all others in
their order and takes one registration of its own from each list. An emission that begins later,
before the listener is registered again, calls it once for each registration that is left. So it is
silent when it was registered once at most for all notices and once at most for each kind. -/
theorem perform_unregistered (behaviour : Text → List BusAction) (limit : Nat)
    (actions : List BusAction) (bus : Bus)
    (ends : (perform (emit behaviour limit) actions bus).ending ≠ .tooDeep) :
    ∀ listener before after, (perform (emit behaviour limit) actions bus).happenings =
        before ++ .did (.unsubscribe listener) :: after →
      let now := bus.replay before
      let next := now.unsubscribe listener
      (next.everywhere.filter (· ≠ listener) = now.everywhere.filter (· ≠ listener) ∧
        ∀ kind, (next.ofKind kind).filter (· ≠ listener) =
          (now.ofKind kind).filter (· ≠ listener)) ∧
      (∀ middle kind rest, after = middle ++ .did (.emit kind) :: rest →
        (∀ happening ∈ middle, ¬ happening.Registers listener) →
        let taken := 1 + middle.count (.did (.unsubscribe listener))
        ∃ inside later own, rest = inside ++ .ended :: later ∧ Surface inside own ∧
          own.count (.called ⟨listener, kind⟩) =
            (now.everywhere.count listener - taken) +
              ((now.ofKind kind).count listener - taken)) ∧
      (now.everywhere.count listener ≤ 1 → (∀ kind, (now.ofKind kind).count listener ≤ 1) →
        Silent listener after) := by
  intro listener before after happened now next
  have sound := sound_perform (nests_emit behaviour limit) actions bus ends
  refine ⟨⟨filter_erase_ne _ _, fun kind => ?_⟩, ?_, fun single singles => ?_⟩
  · show ((now.unsubscribe listener).ofKind kind).filter _ = _
    rw [ofKind_unsubscribe]
    exact filter_erase_ne _ _
  · rintro middle kind rest rfl apart
    exact sound.isolated.exists_count_unregistered happened apart
  · rintro middle kind rest rfl apart
    obtain ⟨inside, later, own, same, surface, count⟩ :=
      sound.isolated.exists_count_unregistered happened apart
    have everywhere : (bus.replay before).everywhere.count listener ≤ 1 := single
    have ofKind : ((bus.replay before).ofKind kind).count listener ≤ 1 := singles kind
    have silent : own.count (.called ⟨listener, kind⟩) = 0 := by omega
    exact ⟨inside, later, own, same, surface, List.count_eq_zero.1 silent⟩

/-- A listener that is registered once for all notices and once for a kind is silent after it was
unregistered, though another listener is not. -/
theorem perform_unregistered_once :
    let behaviour : Text → List BusAction := fun listener =>
      if listener = "b".toText then [.unsubscribe "a".toText, .fail] else []
    let history : List BusAction :=
      [.subscribeAll "a".toText, .subscribe .filesIndexed "a".toText, .subscribeAll "b".toText,
        .emit .filesIndexed, .emit .filesIndexed]
    let course := perform (emit behaviour 1) history {}
    let after : List Happening :=
      [.did .fail, .called ⟨"a".toText, .filesIndexed⟩, .ended,
        .did (.emit .filesIndexed), .called ⟨"b".toText, .filesIndexed⟩,
        .did (.unsubscribe "a".toText), .did .fail, .ended]
    course.ending ≠ .tooDeep ∧
      course.calls = [⟨"a".toText, .filesIndexed⟩, ⟨"b".toText, .filesIndexed⟩,
        ⟨"a".toText, .filesIndexed⟩, ⟨"b".toText, .filesIndexed⟩] ∧
      Silent "a".toText after := by
  intro behaviour history course after
  have ends : course.ending ≠ .tooDeep := by decide +kernel
  let before : List Happening :=
    [.did (.subscribeAll "a".toText), .did (.subscribe .filesIndexed "a".toText),
      .did (.subscribeAll "b".toText), .did (.emit .filesIndexed),
      .called ⟨"a".toText, .filesIndexed⟩, .called ⟨"b".toText, .filesIndexed⟩]
  have happened : course.happenings = before ++ .did (.unsubscribe "a".toText) :: after := by
    decide +kernel
  have kinds : ∀ kind, ((replay {} before).ofKind kind).count "a".toText ≤ 1 := by
    intro kind
    cases kind <;> decide +kernel
  exact ⟨ends, by decide +kernel,
    (perform_unregistered behaviour 1 history {} ends _ _ _ happened).2.2 (by decide +kernel) kinds⟩

/-- A listener that is registered twice for all notices is called after it was unregistered. -/
theorem not_silent_twice :
    let history : List BusAction :=
      [.subscribeAll "a".toText, .subscribeAll "a".toText, .unsubscribe "a".toText,
        .emit .changeApplied]
    let course := perform (emit (fun _ => []) 1) history {}
    let after : List Happening :=
      [.did (.emit .changeApplied), .called ⟨"a".toText, .changeApplied⟩, .ended]
    course.ending = .returned ∧
      course.happenings = [.did (.subscribeAll "a".toText), .did (.subscribeAll "a".toText)] ++
        .did (.unsubscribe "a".toText) :: after ∧
      ¬ Silent "a".toText after := by
  intro history course after
  refine ⟨by decide +kernel, by decide +kernel, fun silent => ?_⟩
  obtain ⟨inside, later, own, split, surface, absent⟩ := silent [] .changeApplied _ rfl (by simp)
  have called : inside = [.called ⟨"a".toText, .changeApplied⟩] := by
    cases inside with
    | nil => simp at split
    | cons first rest =>
      obtain ⟨rfl, ends⟩ := List.cons.inj split
      cases rest with
      | nil => rfl
      | cons => simp at ends
  subst called
  cases surface with
  | plain => exact absent (by simp)

end Restyle.Bus
