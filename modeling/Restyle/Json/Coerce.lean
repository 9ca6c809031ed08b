import Restyle.Json.Display
import Restyle.Json.Reader

/-!
# Taking a value as something else

Settings and events take what they are given as a whole number, a decimal number or a sequence
of texts, whatever kind of value it is. Each of these has the kinds it accepts and the faults
that name why a value is refused.
-/
namespace Restyle

/-- Why a value cannot be taken as what is asked for. -/
inductive CoercionFault where
  /-- The value has no members to ask for. -/
  | noMembers (kind : String)
  /-- The value has no entries to go through. -/
  | noEntries (kind : String)
  /-- The value has nothing that a name could be looked for in. -/
  | notSearchable (kind : String)
  /-- A list has no member of a name. -/
  | listByName
  /-- A text has no member of a name. -/
  | textByName
  /-- The value is no sequence. -/
  | notASequence (kind : String)
  /-- The value cannot be a key. -/
  | notAKey (kind : String)
  /-- The value is of a kind that is no whole number. -/
  | wholeOfKind (kind : String)
  /-- The text is no whole number. -/
  | wholeOfText (text : Text)
  /-- The text has too many digits. -/
  | wholeTooLong (digits : Nat)
  /-- Infinity is no whole number. -/
  | wholeOfInfinity
  /-- What is no number is no whole number. -/
  | wholeOfNotANumber
  /-- The value is of a kind that is no decimal number. -/
  | decimalOfKind (kind : String)
  /-- The text is no decimal number. -/
  | decimalOfText (text : Text)
  /-- The whole number is greater than every decimal number. -/
  | decimalTooGreat
  /-- A decimal number that is not finite has no place in a message. -/
  | notFinite
  /-- The item of a sequence of pairs is no sequence. -/
  | pairOfKind (index : Nat)
  /-- The item of a sequence of pairs has another length. -/
  | pairOfLength (index length : Nat)
  /-- The value has no text. -/
  | undisplayed (fault : Json.DisplayFault)
deriving DecidableEq, Repr

/-- The wording of a fault. -/
def CoercionFault.message : CoercionFault → Text
  | .noMembers kind => "'".toText ++ kind.toText ++ "' object has no attribute 'get'".toText
  | .noEntries kind => "'".toText ++ kind.toText ++ "' object has no attribute 'items'".toText
  | .notSearchable kind =>
    "argument of type '".toText ++ kind.toText ++ "' is not iterable".toText
  | .listByName => "list indices must be integers or slices, not str".toText
  | .textByName => "string indices must be integers, not 'str'".toText
  | .notASequence kind => "'".toText ++ kind.toText ++ "' object is not iterable".toText
  | .notAKey kind => "unhashable type: '".toText ++ kind.toText ++ "'".toText
  | .wholeOfKind kind =>
    "int() argument must be a string, a bytes-like object or a real number, not '".toText ++
      kind.toText ++ "'".toText
  | .wholeOfText text =>
    "invalid literal for int() with base 10: ".toText ++ (Text.quoted text).take 200
  | .wholeTooLong digits => Json.tooManyDigitsMessage digits
  | .wholeOfInfinity => "cannot convert float infinity to integer".toText
  | .wholeOfNotANumber => "cannot convert float NaN to integer".toText
  | .decimalOfKind kind =>
    "float() argument must be a string or a real number, not '".toText ++ kind.toText ++ "'".toText
  | .decimalOfText text => "could not convert string to float: ".toText ++ Text.quoted text
  | .decimalTooGreat => "int too large to convert to float".toText
  | .notFinite => "Out of range float values are not JSON compliant".toText
  | .pairOfKind index =>
    "cannot convert dictionary update sequence element #".toText ++ Text.ofNat index ++
      " to a sequence".toText
  | .pairOfLength index length =>
    "dictionary update sequence element #".toText ++ Text.ofNat index ++ " has length ".toText ++
      Text.ofNat length ++ "; 2 is required".toText
  | .undisplayed fault => fault.message

namespace Json

/-- The value as a whole number: a truth value is zero or one, a decimal number loses its
fraction, a text is read. -/
def toWhole : Json → Except CoercionFault Int
  | .bool value => .ok (if value then 1 else 0)
  | .int n => .ok n
  | .real x =>
    match Number.parts x with
    | .notANumber => .error .wholeOfNotANumber
    | .infinite _ => .error .wholeOfInfinity
    | .finite negative mantissa exponent =>
      let whole : Int := Number.truncated mantissa exponent
      .ok (if negative then -whole else whole)
  | .string value =>
    match Number.readWhole value with
    | .value n => .ok n
    | .tooLong digits => .error (.wholeTooLong digits)
    | .malformed => .error (.wholeOfText value)
  | value => .error (.wholeOfKind value.kindName)

/-- The value as a decimal number: a truth value is zero or one, a whole number the nearest
decimal number, a text is read. -/
def toDecimal : Json → Except CoercionFault Float
  | .bool value => .ok (Number.ofInt (if value then 1 else 0))
  | .int n => if Number.overflows n then .error .decimalTooGreat else .ok (Number.ofInt n)
  | .real x => .ok x
  | .string value =>
    match Number.readDecimal? value with
    | some x => .ok x
    | none => .error (.decimalOfText value)
  | value => .error (.decimalOfKind value.kindName)

/-- The items of a value that is a sequence: of a list its items, of an object its names, of a
text its characters. -/
def toItems : Json → Except CoercionFault (List Json)
  | .list items => .ok items
  | .object members => .ok (members.map fun entry => .string entry.1)
  | .string value => .ok (value.map fun c => .string [c])
  | value => .error (.notASequence value.kindName)

/-- The pair of a key and a value that the item of a sequence of pairs states. -/
def toPair (index : Nat) (item : Json) : Except CoercionFault (Json × Json) :=
  match item.toItems with
  | .error _ => .error (.pairOfKind index)
  | .ok [.list _, _] => .error (.notAKey "list")
  | .ok [.object _, _] => .error (.notAKey "dict")
  | .ok [key, value] => .ok (key, value)
  | .ok other => .error (.pairOfLength index other.length)

/-- The number that a key is, over a power of two. -/
def keyRatio? : Json → Option (Int × Nat)
  | .bool value => some (if value then 1 else 0, 0)
  | .int n => some (n, 0)
  | .real x =>
    match Number.parts x with
    | .finite negative mantissa exponent =>
      let whole : Int := mantissa * Number.twoTo exponent.toNat
      some (if negative then -whole else whole, (-exponent).toNat)
    | _ => none
  | _ => none

/-- Whether two keys are the same: texts that are equal, and numbers and truth values that are
equal as numbers. -/
def isSameKey (first second : Json) : Bool :=
  match keyRatio? first, keyRatio? second with
  | some (a, k), some (b, l) => a * Number.twoTo l == b * Number.twoTo k
  | none, none =>
    match first, second with
    | .null, .null => true
    | .string a, .string b => a == b
    | _, _ => false
  | _, _ => false

/-- Pairs with one more. A key that is there already keeps its place and its form and takes the
new value. -/
def putPair (pair : Json × Json) : List (Json × Json) → List (Json × Json)
  | [] => [pair]
  | known :: rest =>
    if isSameKey known.1 pair.1 then (known.1, pair.2) :: rest else known :: putPair pair rest

/-- The keys and values of a value: of an object its members, of a sequence of pairs one for each
pair. -/
def toPairs : Json → Except CoercionFault (List (Json × Json))
  | .object members => .ok (members.map fun entry => (.string entry.1, entry.2))
  | value =>
    match value.toItems with
    | .error fault => .error fault
    | .ok items =>
      ((items.mapIdx toPair).mapM id).map fun pairs =>
        pairs.foldl (fun done pair => putPair pair done) []

mutual

/-- Whether every decimal number in a value is finite. -/
def isFinite : Json → Bool
  | .real x => match Number.parts x with
    | .finite _ _ _ => true
    | _ => false
  | .list items => areFinite items
  | .object members => membersAreFinite members
  | _ => true

/-- Whether every decimal number in the items of a list is finite. -/
def areFinite : List Json → Bool
  | [] => true
  | item :: rest => isFinite item && areFinite rest

/-- Whether every decimal number in the members of an object is finite. -/
def membersAreFinite : List (Text × Json) → Bool
  | [] => true
  | (_, value) :: rest => isFinite value && membersAreFinite rest

end

/-- The name that a key gives a member of an object. -/
def toName : Json → Except CoercionFault Text
  | .string value => .ok value
  | .null => .ok "null".toText
  | .bool value => .ok (if value then "true".toText else "false".toText)
  | .int n => .ok (Text.ofInt n)
  | .real x =>
    if (Json.real x).isFinite then .ok (Number.write Number.wireLayout x) else .error .notFinite
  | value => .error (.notAKey value.kindName)

/-- The member of an object that a pair gives. -/
def toMember (pair : Json × Json) : Except CoercionFault (Text × Json) := do
  let name ← pair.1.toName
  if pair.2.isFinite then return (name, pair.2) else .error .notFinite

/-- The object that pairs give; of the pairs whose keys give one name the last one counts. -/
def ofPairs (pairs : List (Json × Json)) : Except CoercionFault Json :=
  (pairs.mapM toMember).map fun members => .object (Entries.merge members)

end Json

end Restyle
