import Restyle.Bus

/-!
# Emissions

Listeners register, unregister, emit and fail while a notice is emitted, so emissions begin and end
inside others. What happens decides what the bus is at every moment (`replay`), and what happens
during an emission outside of those nested in it is its surface (`Surface`). Main statement: every
emission whose nesting ends within the limit returns, and its surface is one turn for each
registration that was present when it began, in their order, whatever is done in the turns
(`emit_isolated`).
-/
namespace Restyle.Bus

variable {behaviour : Text → List BusAction} {emitNested : Bus → NoticeKind → Course} {bus : Bus}
  {kind : NoticeKind} {course : Course} {inside within front back own : List Happening}
  {happening : Happening}

/-- The bus after something happened on it. -/
def enact (bus : Bus) : Happening → Bus
  | .did (.subscribe kind listener) => bus.subscribe kind listener
  | .did (.subscribeAll listener) => bus.subscribeAll listener
  | .did (.unsubscribe listener) => bus.unsubscribe listener
  | .did (.emit _) => bus
  | .did .fail => bus
  | .called _ => bus
  | .ended => bus

/-- The bus after all that happened on it. -/
def replay (bus : Bus) (happenings : List Happening) : Bus := happenings.foldl enact bus

/-- An emission begins or ends. -/
def Happening.Brackets : Happening → Prop
  | .did (.emit _) => True
  | .ended => True
  | _ => False

/-- Every emission that begins in what happens ends in it, and what happens outside of these
emissions, their beginnings included, is the surface. -/
inductive Surface : List Happening → List Happening → Prop where
  /-- Nothing happens. -/
  | nil : Surface [] []
  /-- No emission begins or ends. -/
  | plain {happening : Happening} {rest own : List Happening} (flat : ¬ happening.Brackets)
    (later : Surface rest own) : Surface (happening :: rest) (happening :: own)
  /-- An emission begins and ends, and other emissions in it. -/
  | nested {inside within rest own : List Happening} (kind : NoticeKind)
    (inner : Surface inside within) (later : Surface rest own) :
    Surface (.did (.emit kind) :: inside ++ .ended :: rest) (.did (.emit kind) :: own)

/-- The actions that are done of those that a listener has: all until one fails. -/
def untilFailure : List BusAction → List BusAction
  | [] => []
  | action :: rest => if action = .fail then [action] else action :: untilFailure rest

/-- The turn of a listener: it is called and does what it does. -/
def turn (behaviour : Text → List BusAction) (kind : NoticeKind) (listener : Text) :
    List Happening :=
  .called ⟨listener, kind⟩ :: (untilFailure (behaviour listener)).map .did

/-- Every emission in what happens on a bus ends, and its surface is a turn for each registration
that is present when it begins: those for all notices in their order, and then those for its
kind. -/
def Isolated (behaviour : Text → List BusAction) (bus : Bus) (happenings : List Happening) : Prop :=
  ∀ before kind rest, happenings = before ++ .did (.emit kind) :: rest →
    ∃ inside later, rest = inside ++ .ended :: later ∧
      Surface inside (((bus.replay before).everywhere ++ (bus.replay before).ofKind kind).flatMap
        (turn behaviour kind))

/-- A course does what it says it does. -/
structure Sound (behaviour : Text → List BusAction) (bus : Bus) (course : Course)
    (own : List Happening) : Prop where
  /-- It leaves the bus that what happens makes. -/
  replayed : course.bus = bus.replay course.happenings
  /-- Its emissions end in it, and outside of them its own happenings take place. -/
  surface : Surface course.happenings own
  /-- Its emissions are isolated. -/
  isolated : Isolated behaviour bus course.happenings

/-- An emission returns, and it has a turn for each registration that is present when it begins. -/
structure Emitted (behaviour : Text → List BusAction) (bus : Bus) (kind : NoticeKind)
    (course : Course) : Prop where
  /-- It returns. -/
  returns : course.ending = .returned
  /-- Its turns take place between its beginning and its end. -/
  during : ∃ inside, course.happenings = .did (.emit kind) :: inside ++ [.ended] ∧
    Surface inside ((bus.audience kind).flatMap (turn behaviour kind))
  /-- Seen from outside it is one action. -/
  sound : Sound behaviour bus course [.did (.emit kind)]

/-- Emissions do what they say they do, if they do not nest too deep. -/
def Nests (behaviour : Text → List BusAction) (emitNested : Bus → NoticeKind → Course) : Prop :=
  ∀ bus kind, (emitNested bus kind).ending ≠ .tooDeep →
    Emitted behaviour bus kind (emitNested bus kind)

/-- What happens later happens on the bus that was left before. -/
theorem replay_append (bus : Bus) (front back : List Happening) :
    bus.replay (front ++ back) = (bus.replay front).replay back :=
  List.foldl_append

/-- What happens one after the other has the surfaces one after the other. -/
theorem Surface.append (first : Surface front inside) (second : Surface back within) :
    Surface (front ++ back) (inside ++ within) := by
  induction first with
  | nil => exact second
  | plain flat _ ih => exact .plain flat ih
  | @nested inner surface rest _ kind ends _ _ ih =>
    have whole := Surface.nested kind ends ih
    simpa using whole

/-- Where no emission begins all that happens is the surface. -/
theorem Surface.eq_of_flat (surface : Surface inside within)
    (flat : ∀ kind, .did (.emit kind) ∉ within) : inside = within := by
  induction surface with
  | nil => rfl
  | plain _ _ ih =>
    have later := ih fun kind begun => flat kind (List.mem_cons_of_mem _ begun)
    rw [later]
  | nested kind _ _ _ _ => exact absurd List.mem_cons_self (flat kind)

/-- Happenings one after the other are isolated when both are. -/
theorem Isolated.append (first : Isolated behaviour bus front)
    (second : Isolated behaviour (bus.replay front) back) :
    Isolated behaviour bus (front ++ back) := by
  intro before kind rest split
  rcases List.append_eq_append_iff.1 split with ⟨middle, rfl, begun⟩ | ⟨middle, parted, begun⟩
  · rw [replay_append]
    exact second middle kind rest begun
  · cases middle with
    | nil =>
      rw [List.append_nil] at parted
      subst parted
      exact second [] kind rest begun.symm
    | cons first' middle =>
      obtain ⟨rfl, rfl⟩ := List.cons.inj begun
      obtain ⟨inside, later, rfl, surface⟩ := first before kind middle parted
      exact ⟨inside, later ++ back, by simp, surface⟩

/-- A happening that begins no emission is isolated. -/
theorem isolated_single (begins : ∀ kind, happening ≠ .did (.emit kind)) :
    Isolated behaviour bus [happening] := by
  intro before kind rest split
  have listed : Happening.did (.emit kind) ∈ [happening] := by simp [split]
  exact absurd (List.mem_singleton.1 listed).symm (begins kind)

/-- An emission is isolated when all that happens during it is, and it has a turn for each
registration that is present when it begins. -/
theorem isolated_emission (inner : Isolated behaviour bus inside)
    (surface : Surface inside ((bus.audience kind).flatMap (turn behaviour kind))) :
    Isolated behaviour bus (.did (.emit kind) :: inside ++ [.ended]) := by
  intro before kind' rest split
  cases before with
  | nil =>
    obtain ⟨same, rfl⟩ := List.cons.inj split
    cases same
    exact ⟨inside, [], rfl, surface⟩
  | cons begun before =>
    obtain ⟨rfl, later⟩ := List.cons.inj split
    have ends : Isolated behaviour (bus.replay inside) [.ended] := isolated_single (by simp)
    exact inner.append ends before kind' rest later

/-- Courses one after the other do what they say they do. -/
theorem Sound.behind {first second : Course} (one : Sound behaviour bus first inside)
    (two : Sound behaviour first.bus second within) :
    Sound behaviour bus (second.behind first.happenings) (inside ++ within) := by
  refine ⟨?_, one.surface.append two.surface, ?_⟩
  · show second.bus = bus.replay (first.happenings ++ second.happenings)
    rw [replay_append, ← one.replayed]
    exact two.replayed
  · refine one.isolated.append ?_
    rw [← one.replayed]
    exact two.isolated

/-- A course in which nothing happens. -/
theorem sound_nil (behaviour : Text → List BusAction) (bus : Bus) :
    Sound behaviour bus ⟨.returned, bus, []⟩ [] :=
  ⟨rfl, .nil, fun before kind rest split => by simp at split⟩

/-- A course of one happening that begins and ends no emission. -/
theorem sound_single (behaviour : Text → List BusAction) (bus : Bus) (ending : Ending)
    (happening : Happening) (flat : ¬ happening.Brackets) :
    Sound behaviour bus ⟨ending, bus.enact happening, [happening]⟩ [happening] := by
  refine ⟨rfl, .plain flat .nil, isolated_single ?_⟩
  rintro kind rfl
  exact flat trivial

/-- One action does what it says it does, and only failing fails. -/
theorem sound_once (nests : Nests behaviour emitNested) (bus : Bus) (action : BusAction)
    (ends : (once emitNested bus action).ending ≠ .tooDeep) :
    (once emitNested bus action).ending = (if action = .fail then .raised else .returned) ∧
      Sound behaviour bus (once emitNested bus action) [.did action] := by
  cases action with
  | subscribe kind listener =>
    exact ⟨rfl, sound_single behaviour bus .returned (.did (.subscribe kind listener)) id⟩
  | subscribeAll listener =>
    exact ⟨rfl, sound_single behaviour bus .returned (.did (.subscribeAll listener)) id⟩
  | unsubscribe listener =>
    exact ⟨rfl, sound_single behaviour bus .returned (.did (.unsubscribe listener)) id⟩
  | emit kind => exact ⟨(nests bus kind ends).returns, (nests bus kind ends).sound⟩
  | fail => exact ⟨rfl, sound_single behaviour bus .raised (.did .fail) id⟩

/-- Actions one after the other are done until one of them fails. -/
theorem sound_perform (nests : Nests behaviour emitNested) (actions : List BusAction) (bus : Bus)
    (ends : (perform emitNested actions bus).ending ≠ .tooDeep) :
    Sound behaviour bus (perform emitNested actions bus)
      ((untilFailure actions).map .did) := by
  induction actions generalizing bus with
  | nil => exact sound_nil behaviour bus
  | cons action rest ih =>
    rw [perform] at ends ⊢
    have kept : (once emitNested bus action).ending ≠ .tooDeep := by
      intro deep
      simp only [deep] at ends
      exact absurd rfl ends
    obtain ⟨ending, sound⟩ := sound_once nests bus action kept
    by_cases failed : action = .fail
    · rw [if_pos failed] at ending
      simp only [ending]
      rw [untilFailure, if_pos failed]
      exact sound
    · rw [if_neg failed] at ending
      simp only [ending] at ends ⊢
      rw [untilFailure, if_neg failed]
      exact sound.behind (ih _ ends)

/-- Listeners are called one after the other, and all of them are. -/
theorem sound_callAll (nests : Nests behaviour emitNested) (kind : NoticeKind)
    (listeners : List Text) (bus : Bus)
    (ends : (callAll behaviour emitNested kind listeners bus).ending ≠ .tooDeep) :
    (callAll behaviour emitNested kind listeners bus).ending = .returned ∧
      Sound behaviour bus (callAll behaviour emitNested kind listeners bus)
        (listeners.flatMap (turn behaviour kind)) := by
  induction listeners generalizing bus with
  | nil => exact ⟨rfl, sound_nil behaviour bus⟩
  | cons listener rest ih =>
    let call : Happening := .called ⟨listener, kind⟩
    have called : Sound behaviour bus ⟨.returned, bus, [call]⟩ [call] :=
      sound_single behaviour bus .returned call id
    rw [callAll] at ends ⊢
    generalize made : (perform emitNested (behaviour listener) bus).behind [_] = taken at ends ⊢
    -- A turn that fails and one that returns are followed by the same calls.
    have sound : taken.ending ≠ .tooDeep →
        Sound behaviour bus taken (turn behaviour kind listener) := by
      intro kept
      subst made
      exact called.behind (sound_perform nests (behaviour listener) bus kept)
    cases ending : taken.ending with
    | tooDeep =>
      simp only [ending] at ends
      exact absurd rfl ends
    | returned | raised =>
      simp only [ending] at ends
      obtain ⟨returns, later⟩ := ih taken.bus ends
      exact ⟨returns, (sound (by simp [ending])).behind later⟩

/-- Emissions return, and do what they say they do. -/
theorem nests_emit (behaviour : Text → List BusAction) (depth : Nat) :
    Nests behaviour (emit behaviour depth) := by
  induction depth with
  | zero =>
    intro bus kind ends
    exact absurd rfl ends
  | succ depth ih =>
    intro bus kind ends
    have whole := sound_callAll ih kind (bus.audience kind) bus
    rw [emit] at ends ⊢
    generalize callAll behaviour (emit behaviour depth) kind _ bus = made at ends whole ⊢
    cases ending : made.ending with
    | tooDeep =>
      simp only [ending] at ends
      exact absurd ending ends
    | raised =>
      have returns := (whole (by simp [ending])).1
      simp [ending] at returns
    | returned =>
      have sound := (whole (by simp [ending])).2
      refine ⟨rfl, ⟨_, rfl, sound.surface⟩, ?_, ?_, isolated_emission sound.isolated sound.surface⟩
      · show _ = bus.replay ([.did (.emit kind)] ++ _ ++ [.ended])
        rw [replay_append, replay_append]
        exact sound.replayed
      · exact .nested kind sound.surface .nil

/-- One way to emit is as good as another one: what does not nest too deep in that one is the same
in it. -/
def Extends (emitNested emitNested' : Bus → NoticeKind → Course) : Prop :=
  ∀ bus kind, (emitNested bus kind).ending ≠ .tooDeep → emitNested' bus kind = emitNested bus kind

variable {emitNested' : Bus → NoticeKind → Course}

/-- Actions do the same with a way to emit that is as good. -/
theorem perform_of_extends (same : Extends emitNested emitNested') (actions : List BusAction)
    (bus : Bus) (ends : (perform emitNested actions bus).ending ≠ .tooDeep) :
    perform emitNested' actions bus = perform emitNested actions bus := by
  induction actions generalizing bus with
  | nil => rfl
  | cons action rest ih =>
    have first : (once emitNested bus action).ending ≠ .tooDeep →
        once emitNested' bus action = once emitNested bus action := by
      intro kept
      cases action with
      | emit kind => exact same bus kind kept
      | subscribe | subscribeAll | unsubscribe | fail => rfl
    rw [perform] at ends
    rw [perform, perform]
    cases ending : (once emitNested bus action).ending with
    | tooDeep =>
      simp only [ending] at ends
      exact absurd rfl ends
    | raised => simp only [first (by simp [ending]), ending]
    | returned =>
      simp only [ending] at ends
      simp only [first (by simp [ending]), ending, ih _ ends]

/-- Listeners do the same with a way to emit that is as good. -/
theorem callAll_of_extends (same : Extends emitNested emitNested') (kind : NoticeKind)
    (listeners : List Text) (bus : Bus)
    (ends : (callAll behaviour emitNested kind listeners bus).ending ≠ .tooDeep) :
    callAll behaviour emitNested' kind listeners bus =
      callAll behaviour emitNested kind listeners bus := by
  induction listeners generalizing bus with
  | nil => rfl
  | cons listener rest ih =>
    have first := perform_of_extends same (behaviour listener) bus
    rw [callAll] at ends
    rw [callAll, callAll]
    cases ending : (perform emitNested (behaviour listener) bus).ending with
    | tooDeep =>
      simp only [Course.behind, ending] at ends
      exact absurd rfl ends
    | returned | raised =>
      simp only [Course.behind, ending] at ends
      simp only [first (by simp [ending]), Course.behind, ending, ih _ ends]

/-- An emission that does not nest too deep is the same with a greater limit. -/
theorem emit_of_le {limit more : Nat} (greater : limit ≤ more)
    (ends : (emit behaviour limit bus kind).ending ≠ .tooDeep) :
    emit behaviour more bus kind = emit behaviour limit bus kind := by
  induction limit generalizing more bus kind with
  | zero => exact absurd rfl ends
  | succ limit ih =>
    cases more with
    | zero => omega
    | succ more =>
      have same : Extends (emit behaviour limit) (emit behaviour more) :=
        fun _ _ kept => ih (by omega) kept
      rw [emit] at ends
      rw [emit, emit]
      have inner : (callAll behaviour (emit behaviour limit) kind (bus.audience kind) bus).ending ≠
          .tooDeep := by
        intro deep
        simp only [deep] at ends
        exact ends deep
      rw [callAll_of_extends same kind _ bus inner]

/-- The calls in turns are those of their listeners. -/
theorem filterMap_call?_turns (behaviour : Text → List BusAction) (kind : NoticeKind)
    (listeners : List Text) :
    (listeners.flatMap (turn behaviour kind)).filterMap Happening.call? =
      listeners.map fun listener => ⟨listener, kind⟩ := by
  have none_did : ∀ actions : List BusAction,
      (actions.map Happening.did).filterMap Happening.call? = [] := by
    intro actions
    rw [List.filterMap_map, List.filterMap_eq_nil_iff]
    exact fun _ _ => rfl
  induction listeners with
  | nil => rfl
  | cons listener rest ih =>
    rw [List.flatMap_cons, List.filterMap_append, ih, turn, List.filterMap_cons, none_did]
    rfl

/-- An emission whose nesting ends within the limit returns, whatever its listeners do. It calls the
registrations that are present when it begins, each once: those for all notices in their order, and
then those for its kind; so does every emission that is nested in it, on the bus of its own
beginning. A greater limit changes nothing. -/
theorem emit_isolated (behaviour : Text → List BusAction) (limit : Nat) (bus : Bus)
    (kind : NoticeKind) (ends : (emit behaviour limit bus kind).ending ≠ .tooDeep) :
    let course := emit behaviour limit bus kind
    course.ending = .returned ∧
      (∃ inside own, course.happenings = .did (.emit kind) :: inside ++ [.ended] ∧
        Surface inside own ∧ own.filterMap Happening.call? =
          (bus.everywhere ++ bus.ofKind kind).map fun listener => ⟨listener, kind⟩) ∧
      Isolated behaviour bus course.happenings ∧
      course.bus = bus.replay course.happenings ∧
      ∀ more, limit ≤ more → emit behaviour more bus kind = course := by
  intro course
  obtain ⟨returns, ⟨inside, happened, surface⟩, sound⟩ := nests_emit behaviour limit bus kind ends
  exact ⟨returns, ⟨inside, _, happened, surface, filterMap_call?_turns behaviour kind _⟩,
    sound.isolated, sound.replayed, fun more greater => emit_of_le greater ends⟩

/-- A listener that unregisters itself and the next one, registers another one, emits a notice of
another kind and fails keeps none from its call. -/
theorem emit_isolated_unregistered :
    let behaviour : Text → List BusAction := fun listener =>
      if listener = "a".toText then
        [.unsubscribe "a".toText, .unsubscribe "b".toText, .subscribeAll "d".toText,
          .emit .changeFailed, .fail, .emit .filesIndexed]
      else if listener = "d".toText then [.fail]
      else []
    let bus : Bus :=
      { everywhere := ["a".toText, "b".toText], byKind := .ofList [(.filesIndexed, ["c".toText])] }
    let course := emit behaviour 2 bus .filesIndexed
    course.ending ≠ .tooDeep ∧
      course.calls = [⟨"a".toText, .filesIndexed⟩, ⟨"d".toText, .changeFailed⟩,
        ⟨"b".toText, .filesIndexed⟩, ⟨"c".toText, .filesIndexed⟩] ∧
      course.bus.everywhere = ["d".toText] ∧ course.ending = .returned ∧
      Isolated behaviour bus course.happenings ∧
      ∀ more, 2 ≤ more → emit behaviour more bus .filesIndexed = course := by
  intro behaviour bus course
  have ends : course.ending ≠ .tooDeep := by decide +kernel
  obtain ⟨returns, _, isolated, _, same⟩ := emit_isolated behaviour 2 bus .filesIndexed ends
  exact ⟨ends, by decide +kernel, by decide +kernel, returns, isolated, same⟩

end Restyle.Bus
