import Restyle.Json.Value
import Restyle.Number.Notation
import Restyle.Number.Read
import Restyle.Text.Quoted

/-!
# Display of values

How a value reads when it is used as a text: a text stands for itself; inside a list or an
object, texts are quoted. Items are separated by a comma and a space. A value has no text when a
whole number in it has too many digits, or when a part of it stands inside so many lists and objects
that the stack does not hold them.
-/
namespace Restyle.Json

/-- Why a value has no text. -/
inductive DisplayFault where
  /-- A whole number has more digits than are written. -/
  | tooManyDigits
  /-- A value stands inside too many others. -/
  | tooDeep
deriving DecidableEq, Repr

/-- The wording of a fault. -/
def DisplayFault.message : DisplayFault → Text
  | .tooManyDigits =>
    "Exceeds the limit (".toText ++ Text.ofNat Number.digitLimit ++
      " digits) for integer string conversion; use sys.set_int_max_str_digits() to ".toText ++
      "increase the limit".toText
  | .tooDeep =>
    "maximum recursion depth exceeded while getting the repr of an object".toText

/-- How many lists and objects may stand around a value where little of the stack is in use. -/
def standardRoom : Nat := 985

/-- How many lists and objects may stand around a value, for each place of a program where values
are displayed: what is left of the stack is not the same at all of them. -/
structure Rooms where
  /-- Where the kind of a variation is read. -/
  kind : Nat := standardRoom
  /-- Where the value of a change is read. -/
  change : Nat := standardRoom
  /-- Where a class is read. -/
  className : Nat := standardRoom
  /-- Where the path of a project is read. -/
  root : Nat := standardRoom
  /-- Where the path of a domain is read. -/
  mapping : Nat := standardRoom
  /-- Where a target path is read. -/
  target : Nat := standardRoom
deriving DecidableEq, Repr

mutual

/-- A value as it stands inside another one; `room` is the number of lists and objects that may
still stand around a value in it. -/
def shown (room : Nat) : Json → Except DisplayFault Text
  | .null => .ok "None".toText
  | .bool true => .ok "True".toText
  | .bool false => .ok "False".toText
  | .int n =>
    if (Text.ofNat n.natAbs).length ≤ Number.digitLimit then .ok (Text.ofInt n)
    else .error .tooManyDigits
  | .real x => .ok (Number.write Number.plainLayout x)
  | .string value => .ok (Text.quoted value)
  | .list items =>
    (shownItems room items).map fun texts =>
      .char '[' :: Text.join ", ".toText texts ++ [.char ']']
  | .object members =>
    (shownMembers room members).map fun texts =>
      .char '\x7b' :: Text.join ", ".toText texts ++ [.char '\x7d']

/-- The items of a list. -/
def shownItems (room : Nat) : List Json → Except DisplayFault (List Text)
  | [] => .ok []
  | item :: rest =>
    match room with
    | 0 => .error .tooDeep
    | inner + 1 => do return (← shown inner item) :: (← shownItems room rest)

/-- The members of an object. -/
def shownMembers (room : Nat) : List (Text × Json) → Except DisplayFault (List Text)
  | [] => .ok []
  | (name, value) :: rest =>
    match room with
    | 0 => .error .tooDeep
    | inner + 1 => do
      let text ← shown inner value
      return (Text.quoted name ++ .char ':' :: .char ' ' :: text) :: (← shownMembers room rest)

end

/-- The text of a value. -/
def display (room : Nat) : Json → Except DisplayFault Text
  | .string value => .ok value
  | value => shown room value

end Restyle.Json
