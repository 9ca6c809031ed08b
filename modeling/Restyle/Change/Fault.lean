import Restyle.Json.Coerce

/-!
# Faults of change events

Why a JSON value is no change event. Most refusals name what the event lacks; a value that is of
a kind the conversion cannot look into is a coercion fault.
-/
namespace Restyle

/-- What makes a value no change event. -/
inductive EventFault where
  /-- It is no object. -/
  | notAnObject
  /-- It has no changes, or none with a name. -/
  | changesRequired
  /-- Its variations are no list. -/
  | variationsNotAList
  /-- It has no selector. -/
  | selectorRequired
  /-- A variation has no selector. -/
  | variationWithoutSelector
  /-- The priority of a variation is no whole number. -/
  | priorityNotWhole
  /-- A change gives no new value; its members are shown. -/
  | changeWithoutValue (shown : Text)

/-- The wording of a fault. -/
def EventFault.message : EventFault → Text
  | .notAnObject => "Invalid change data".toText
  | .changesRequired => "Invalid change data: 'changes' is required".toText
  | .variationsNotAList => "Invalid change data: 'selectorVariations' must be a list".toText
  | .selectorRequired => "Invalid change data: 'selector' is required".toText
  | .variationWithoutSelector => "Selector variation without a selector".toText
  | .priorityNotWhole => "Selector variation priority must be an integer".toText
  | .changeWithoutValue shown => "Change mapping without 'to': ".toText ++ shown

/-- Why a value cannot be read as an event. -/
inductive ReadFault where
  /-- It is no event. -/
  | event (fault : EventFault)
  /-- It has a part of a kind that cannot be converted. -/
  | coercion (fault : CoercionFault)

/-- The text of a value that is read. -/
def Json.readable (room : Nat) (value : Json) : Except ReadFault Text :=
  (value.display room).mapError fun fault => .coercion (.undisplayed fault)

/-- The wording of a fault. -/
def ReadFault.message : ReadFault → Text
  | .event fault => fault.message
  | .coercion fault => fault.message

end Restyle
