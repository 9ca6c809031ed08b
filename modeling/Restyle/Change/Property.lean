import Restyle.Change.Fault
import Restyle.Sheet.Declarations

/-!
# Property changes

A change gives a property a new value or removes it, and may say what the old value was. A
removal is a change without a new value, or one whose new value is the deletion mark. Changes
are merged into properties in their own order: a known property keeps its place, a new one goes
to the end, a removed one is left out.
-/
namespace Restyle

/-- The new value that marks a removal. -/
def deletionMark : Text := "(deleted)".toText

/-- A new value for one property. -/
structure PropertyChange where
  /-- The new value, if there is one. -/
  becomes : Option Text
  /-- The old value, if it is known. -/
  was : Option Text
deriving DecidableEq, Repr

namespace PropertyChange

/-- Whether the change removes the property. -/
def isDeletion (change : PropertyChange) : Bool :=
  change.becomes == none || change.becomes == some deletionMark

/-- The text of a value that is given, none of a null. -/
def textOf? (room : Nat) : Json → Except ReadFault (Option Text)
  | .null => .ok none
  | value => (value.readable room).map some

/-- The change a value states: an object by its members `to` and `from`, any other value as the
new value itself. -/
def ofJson (room : Nat) : Json → Except ReadFault PropertyChange
  | .object members =>
    match Json.member? members "to" with
    | none => do
      let shown ← (Json.object members).readable room
      .error (.event (.changeWithoutValue shown))
    | some value => do
      return ⟨← textOf? room value, ← textOf? room (Json.memberOrNull members "from")⟩
  | value => (textOf? room value).map fun text => ⟨text, none⟩

/-- The value that states the change: the new value where that is all there is to say. -/
def toJson (change : PropertyChange) : Json :=
  match change.becomes, change.was with
  | some value, none =>
    if value = deletionMark then
      Json.record [("from", .null), ("to", .string deletionMark)]
    else .string value
  | becomes, was =>
    Json.record [("from", Json.ofText? was), ("to", .string (becomes.getD deletionMark))]

end PropertyChange

/-- Changes by property, in order. -/
abbrev Changes := OrderedMap Text PropertyChange

namespace Changes

/-- Merge one change into properties. -/
def applyOne (properties : Properties) (name : Text) (change : PropertyChange) : Properties :=
  match change.becomes with
  | some value => if change.isDeletion then properties.erase name else properties.insert name value
  | none => properties.erase name

/-- Merge the changes into properties, in the order of the changes. -/
def applyTo (changes : Changes) (properties : Properties) : Properties :=
  changes.entries.foldl (fun merged entry => applyOne merged entry.1 entry.2) properties

end Changes

end Restyle
