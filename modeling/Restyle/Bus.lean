import Restyle.Notice
import Restyle.OrderedMap

/-!
# The notice bus

Listeners are registered for all notices or for one kind, any number of times. A notice goes to
the registrations present when its emission begins, those for all notices first. A listener may
itself register, unregister, emit or fail; a failure ends what that listener does and nothing
else. Emissions nest to a given depth. Whatever is done on a bus has a course: how it ends, the bus
that it leaves, and all that happened in it.
-/
namespace Restyle

/-- The registrations of listeners, by name. -/
structure Bus where
  /-- Listeners of every notice, in order. -/
  everywhere : List Text := []
  /-- Listeners of one kind of notice, in order. -/
  byKind : OrderedMap NoticeKind (List Text) := .empty
deriving DecidableEq

/-- What a listener does when it is called. -/
inductive BusAction where
  /-- Register a listener for one kind of notice. -/
  | subscribe (kind : NoticeKind) (listener : Text)
  /-- Register a listener for every notice. -/
  | subscribeAll (listener : Text)
  /-- Take a registration of a listener away. -/
  | unsubscribe (listener : Text)
  /-- Emit a notice. -/
  | emit (kind : NoticeKind)
  /-- Fail. -/
  | fail
deriving DecidableEq, Repr

namespace Bus

/-- One call of a listener. -/
structure Call where
  /-- The listener. -/
  listener : Text
  /-- The kind of the notice. -/
  kind : NoticeKind
deriving DecidableEq, Repr

/-- What happens on a bus. -/
inductive Happening where
  /-- An action is done; an emission begins with it. -/
  | did (action : BusAction)
  /-- A listener is called. -/
  | called (call : Call)
  /-- The emission that began last, of those that go on, ends. -/
  | ended
deriving DecidableEq, Repr

/-- How something that is done on a bus ends. -/
inductive Ending where
  /-- It is done. -/
  | returned
  /-- It fails. -/
  | raised
  /-- Its emissions nest too deep. -/
  | tooDeep
deriving DecidableEq, Repr

/-- What something that is done on a bus comes to. -/
structure Course where
  /-- How it ends. -/
  ending : Ending
  /-- The bus afterwards. -/
  bus : Bus
  /-- All that happened, in order. -/
  happenings : List Happening
deriving DecidableEq

/-- A course after what happened before it. -/
def Course.behind (course : Course) (earlier : List Happening) : Course :=
  { course with happenings := earlier ++ course.happenings }

/-- The call that happens, if one does. -/
def Happening.call? : Happening → Option Call
  | .called call => some call
  | _ => none

/-- The calls of a course, in order. -/
def Course.calls (course : Course) : List Call := course.happenings.filterMap Happening.call?

/-- The listeners of one kind. -/
def ofKind (bus : Bus) (kind : NoticeKind) : List Text := (bus.byKind.get? kind).getD []

/-- The registrations that a notice goes to, in order. -/
def audience (bus : Bus) (kind : NoticeKind) : List Text := bus.everywhere ++ bus.ofKind kind

/-- Register a listener for one kind of notice. -/
def subscribe (bus : Bus) (kind : NoticeKind) (listener : Text) : Bus :=
  { bus with byKind := bus.byKind.insert kind (bus.ofKind kind ++ [listener]) }

/-- Register a listener for every notice. -/
def subscribeAll (bus : Bus) (listener : Text) : Bus :=
  { bus with everywhere := bus.everywhere ++ [listener] }

/-- Take the first registration of a listener from each list that has one. -/
def unsubscribe (bus : Bus) (listener : Text) : Bus :=
  { everywhere := bus.everywhere.erase listener
    byKind := bus.byKind.mapValues (·.erase listener) }

/-- Do one action. Nested notices are emitted by `emitNested`. -/
def once (emitNested : Bus → NoticeKind → Course) (bus : Bus) (action : BusAction) : Course :=
  match action with
  | .subscribe kind listener => ⟨.returned, bus.subscribe kind listener, [.did action]⟩
  | .subscribeAll listener => ⟨.returned, bus.subscribeAll listener, [.did action]⟩
  | .unsubscribe listener => ⟨.returned, bus.unsubscribe listener, [.did action]⟩
  | .emit kind => emitNested bus kind
  | .fail => ⟨.raised, bus, [.did action]⟩

/-- Do actions one after the other, until one of them fails. -/
def perform (emitNested : Bus → NoticeKind → Course) : List BusAction → Bus → Course
  | [], bus => ⟨.returned, bus, []⟩
  | action :: rest, bus =>
    let first := once emitNested bus action
    match first.ending with
    | .returned => (perform emitNested rest first.bus).behind first.happenings
    | .raised => first
    | .tooDeep => first

/-- Call listeners one after the other. That one of them fails keeps no other from its call. -/
def callAll (behaviour : Text → List BusAction) (emitNested : Bus → NoticeKind → Course)
    (kind : NoticeKind) : List Text → Bus → Course
  | [], bus => ⟨.returned, bus, []⟩
  | listener :: rest, bus =>
    let turn := (perform emitNested (behaviour listener) bus).behind [.called ⟨listener, kind⟩]
    match turn.ending with
    | .returned => (callAll behaviour emitNested kind rest turn.bus).behind turn.happenings
    | .raised => (callAll behaviour emitNested kind rest turn.bus).behind turn.happenings
    | .tooDeep => turn

/-- Emit a notice to its audience, with emissions nested to the given depth. -/
def emit (behaviour : Text → List BusAction) : Nat → Bus → NoticeKind → Course
  | 0, bus, _ => ⟨.tooDeep, bus, []⟩
  | depth + 1, bus, kind =>
    let course := callAll behaviour (emit behaviour depth) kind (bus.audience kind) bus
    match course.ending with
    | .returned => { course with happenings := .did (.emit kind) :: course.happenings ++ [.ended] }
    | .raised => course.behind [.did (.emit kind)]
    | .tooDeep => course.behind [.did (.emit kind)]

/-- Do one action from outside: the bus afterwards and all calls in order, unless emissions nest too
deep. -/
def act (behaviour : Text → List BusAction) (depth : Nat) (bus : Bus) (action : BusAction) :
    Option (Bus × List Call) :=
  let course := once (emit behaviour depth) bus action
  match course.ending with
  | .returned => some (course.bus, course.calls)
  | .raised => some (course.bus, course.calls)
  | .tooDeep => none

end Bus

end Restyle
