import Restyle.OrderedMap

/-!
# JSON values

The values of the wire format. Whole numbers are unbounded and are kept apart from
floating-point numbers; the members of an object are kept in order.
-/
namespace Restyle

/-- A JSON value. -/
inductive Json where
  /-- The absent value. -/
  | null
  /-- A truth value. -/
  | bool (value : Bool)
  /-- A whole number. -/
  | int (value : Int)
  /-- A floating-point number. -/
  | real (value : Float)
  /-- A text. -/
  | string (value : Text)
  /-- A list of values. -/
  | list (items : List Json)
  /-- Members in order. -/
  | object (members : List (Text × Json))

namespace Json

instance : Inhabited Json := ⟨.null⟩

/-- The text of a string as a value. -/
def ofString (source : String) : Json := .string source.toText

/-- A natural number as a value. -/
def ofNat (n : Nat) : Json := .int n

/-- A list of texts as a value. -/
def ofTexts (texts : List Text) : Json := .list (texts.map .string)

/-- An optional text as a value. -/
def ofText? : Option Text → Json
  | none => .null
  | some known => .string known

/-- An object with members named by strings. -/
def record (members : List (String × Json)) : Json :=
  .object (members.map fun member => (member.1.toText, member.2))

/-- The value of a member. -/
def member? (members : List (Text × Json)) (name : String) : Option Json :=
  Entries.lookup name.toText members

/-- The value of a member, or `null` when there is none. -/
def memberOrNull (members : List (Text × Json)) (name : String) : Json :=
  (member? members name).getD .null

/-- Whether a value counts as given: it is not null, false, zero or empty. -/
def isGiven : Json → Bool
  | .null => false
  | .bool value => value
  | .int value => value != 0
  | .real value => value != 0
  | .string value => !value.isEmpty
  | .list items => !items.isEmpty
  | .object members => !members.isEmpty

/-- The name that messages use for the kind of a value. -/
def kindName : Json → String
  | .null => "NoneType"
  | .bool _ => "bool"
  | .int _ => "int"
  | .real _ => "float"
  | .string _ => "str"
  | .list _ => "list"
  | .object _ => "dict"

end Json

end Restyle
