import Restyle.Json.Value
import Restyle.Number.Notation
import Restyle.Text.Quoted

/-!
# Writing JSON

Values are written in ASCII: every other character, and every control character, is written by
its UTF-16 units. The compact form is one line; the indented form gives every item and member a
line of its own, two spaces deeper than the bracket around it.
-/
namespace Restyle.Json

/-- The UTF-16 units of a character, written as escapes. -/
def escapeUnits (c : CodePoint) : Text :=
  let code := c.toNat
  if code < 0x10000 then .char '\\' :: .char 'u' :: Text.hex 4 code
  else
    let above := code - 0x10000
    .char '\\' :: .char 'u' :: Text.hex 4 (0xD800 + above / 1024) ++
      .char '\\' :: .char 'u' :: Text.hex 4 (0xDC00 + above % 1024)

/-- A character inside a written text. -/
def escapeChar (c : CodePoint) : Text :=
  if c = '"' then ['\\', '"']
  else if c = '\\' then ['\\', '\\']
  else if c = '\n' then ['\\', 'n']
  else if c = '\r' then ['\\', 'r']
  else if c = '\t' then ['\\', 't']
  else if c = '\x08' then ['\\', 'b']
  else if c = '\x0c' then ['\\', 'f']
  else if 0x20 ≤ c.toNat && c.toNat < 0x7F then [c]
  else escapeUnits c

/-- A text in double quotes. -/
def writeString (value : Text) : Text := .char '"' :: value.flatMap escapeChar ++ [.char '"']

/-- A value that holds no other. -/
def writeScalar : Json → Text
  | .null => "null".toText
  | .bool true => "true".toText
  | .bool false => "false".toText
  | .int n => Text.ofInt n
  | .real x => Number.write Number.wireLayout x
  | .string value => writeString value
  | .list _ => "[]".toText
  | .object _ => ['\x7b', '\x7d']

/-- The brackets around the parts of a list or an object and what stands between them: nothing,
or for an indented form a line end and the indentation of the parts. -/
def enclose (opening closing : CodePoint) (depth : Option Nat) (parts : List Text) : Text :=
  if parts.isEmpty then [opening, closing]
  else match depth with
    | none => opening :: Text.join ", ".toText parts ++ [closing]
    | some depth =>
      let line (depth : Nat) : Text := .char '\n' :: List.replicate (2 * depth) ' '
      opening :: line (depth + 1) ++ Text.join (.char ',' :: line (depth + 1)) parts ++
        line depth ++
        [closing]

mutual

/-- A value at a depth of an indented form, or in the compact form when there is no depth. -/
def writeAt (depth : Option Nat) : Json → Text
  | .list items => enclose '[' ']' depth (writeItems (depth.map (· + 1)) items)
  | .object members => enclose '\x7b' '\x7d' depth (writeMembers (depth.map (· + 1)) members)
  | value => writeScalar value

/-- The items of a list. -/
def writeItems (depth : Option Nat) : List Json → List Text
  | [] => []
  | item :: rest => writeAt depth item :: writeItems depth rest

/-- The members of an object. -/
def writeMembers (depth : Option Nat) : List (Text × Json) → List Text
  | [] => []
  | (name, value) :: rest =>
    (writeString name ++ .char ':' :: .char ' ' :: writeAt depth value) :: writeMembers depth rest

end

/-- A value on one line. -/
def write (value : Json) : Text := writeAt none value

/-- A value with every item and member on a line of its own. -/
def writeIndented (value : Json) : Text := writeAt (some 0) value

mutual

/-- The value with the members of every object in the order of their names. -/
def sorted : Json → Json
  | .list items => .list (sortedItems items)
  | .object members =>
    .object ((sortedMembers members).mergeSort fun first second => Text.le first.1 second.1)
  | value => value

/-- The items of a list, each with its members in order. -/
def sortedItems : List Json → List Json
  | [] => []
  | item :: rest => sorted item :: sortedItems rest

/-- The members of an object, each value with its members in order. -/
def sortedMembers : List (Text × Json) → List (Text × Json)
  | [] => []
  | (name, value) :: rest => (name, sorted value) :: sortedMembers rest

end

end Restyle.Json
