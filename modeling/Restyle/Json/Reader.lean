import Restyle.Json.Value
import Restyle.Number.Read
import Restyle.Text.Wide

/-!
# Reading JSON

The reader accepts the JSON grammar, blanks between tokens, and the three names of numbers
that are not finite. It stops at the first place where no text of the grammar goes on; the
complaint names what was expected there and where that is, by line, column and offset. The
place of a complaint is kept as the text from there on, which needs no counter. Lists and
objects stand inside each other only up to a limit.
-/
namespace Restyle.Json

/-- What a reader expected or met. -/
inductive Complaint where
  /-- No value starts here. -/
  | expectingValue
  /-- A member's name is missing. -/
  | expectingName
  /-- The colon after a member's name is missing. -/
  | expectingColon
  /-- The comma between two items is missing. -/
  | expectingComma
  /-- A text has no closing quote. -/
  | unterminated
  /-- A control character stands in a text. -/
  | controlCharacter
  /-- An escape that does not exist. -/
  | unknownEscape
  /-- An escape by code point without its four digits. -/
  | incompleteEscape
  /-- More text after the value. -/
  | extraData
  /-- The text starts with a byte order mark. -/
  | byteOrderMark
deriving DecidableEq, Repr

/-- The wording of a complaint. -/
def Complaint.message : Complaint → String
  | .expectingValue => "Expecting value"
  | .expectingName => "Expecting property name enclosed in double quotes"
  | .expectingColon => "Expecting ':' delimiter"
  | .expectingComma => "Expecting ',' delimiter"
  | .unterminated => "Unterminated string starting at"
  | .controlCharacter => "Invalid control character at"
  | .unknownEscape => "Invalid \\escape"
  | .incompleteEscape => "Invalid \\uXXXX escape"
  | .extraData => "Extra data"
  | .byteOrderMark => "Unexpected UTF-8 BOM (decode using utf-8-sig)"

/-- What may hold other values. -/
inductive Holder where
  /-- A list. -/
  | list
  /-- An object. -/
  | object
deriving DecidableEq, Repr

/-- The name that messages use. -/
def Holder.name : Holder → String
  | .list => "array"
  | .object => "object"

/-- Where and why a text is not read. -/
inductive Misread where
  /-- The text leaves the grammar at an offset, which is in the given line and column. -/
  | grammar (complaint : Complaint) (line column offset : Nat)
  /-- A whole number has more digits than are read. -/
  | tooManyDigits (digits : Nat)
  /-- A list or an object stands inside too many others. -/
  | tooDeep (holder : Holder)
deriving DecidableEq, Repr

/-- The wording for a whole number with too many digits. -/
def tooManyDigitsMessage (digits : Nat) : Text :=
  "Exceeds the limit (".toText ++ Text.ofNat Number.digitLimit ++
    " digits) for integer string conversion: value has ".toText ++ Text.ofNat digits ++
    " digits; use sys.set_int_max_str_digits() to increase the limit".toText

/-- The wording of a misread. -/
def Misread.message : Misread → Text
  | .grammar complaint line column offset =>
    complaint.message.toText ++ ": line ".toText ++ Text.ofNat line ++ " column ".toText ++
      Text.ofNat column ++ " (char ".toText ++ Text.ofNat offset ++ [.char ')']
  | .tooManyDigits digits => tooManyDigitsMessage digits
  | .tooDeep holder =>
    ("maximum recursion depth exceeded while decoding a JSON " ++ holder.name ++
      " from a unicode string").toText

/-- Why reading stopped; a place is given by the text from there on. -/
inductive Stop where
  /-- The text leaves the grammar. -/
  | at (complaint : Complaint) (left : Text)
  /-- A whole number has too many digits. -/
  | tooManyDigits (digits : Nat)
  /-- A list or an object stands inside too many others. -/
  | tooDeep (holder : Holder)

/-- Whether a character may stand between tokens. -/
def isSpace (c : CodePoint) : Bool := c = ' ' || c = '\t' || c = '\n' || c = '\r'

/-- The text from its next token on. -/
def skipSpace (source : Text) : Text := source.dropWhile isSpace

/-- The value of a hexadecimal digit. -/
def hexValue? (c : CodePoint) : Option Nat :=
  if Text.isAsciiDigit c then some (c.toNat - '0'.toNat)
  else if 'a' ≤ c && c ≤ 'f' then some (c.toNat - 'a'.toNat + 10)
  else if 'A' ≤ c && c ≤ 'F' then some (c.toNat - 'A'.toNat + 10)
  else none

/-- The number that four hexadecimal digits at the front write. -/
def fourHex? (source : Text) : Option Nat :=
  match (source.take 4).mapM hexValue? with
  | some [a, b, c, d] => some (((a * 16 + b) * 16 + c) * 16 + d)
  | _ => none

/-- Whether a text has more characters than a count. -/
def isLongerThan (source : Text) (count : Nat) : Bool := !(source.drop count).isEmpty

/-- The low half of a code point above the basic plane, if an escape of one follows. -/
def lowHalf? (source : Text) : Except Stop (Option Nat) :=
  match source with
  | '\\' :: 'u' :: rest =>
    if !isLongerThan rest 4 then .ok none
    else match fourHex? rest with
      | none => .error (.at .incompleteEscape (.char 'u' :: rest))
      | some code => .ok (if 0xDC00 ≤ code ∧ code < 0xE000 then some code else none)
  | _ => .ok none

/-- The code point an escape stands for and how many characters after the backslash it takes.
`opened` is where the text began. -/
def readEscape (opened source : Text) : Except Stop (CodePoint × Nat) :=
  match source with
  | [] => .error (.at .unterminated opened)
  | '"' :: _ => .ok ('"', 1)
  | '\\' :: _ => .ok ('\\', 1)
  | '/' :: _ => .ok ('/', 1)
  | 'b' :: _ => .ok ('\x08', 1)
  | 'f' :: _ => .ok ('\x0c', 1)
  | 'n' :: _ => .ok ('\n', 1)
  | 'r' :: _ => .ok ('\r', 1)
  | 't' :: _ => .ok ('\t', 1)
  | 'u' :: rest =>
    if !isLongerThan rest 4 then .error (.at .incompleteEscape source)
    else match fourHex? rest with
      | none => .error (.at .incompleteEscape source)
      | some code =>
        if 0xD800 ≤ code ∧ code < 0xDC00 then
          match lowHalf? (rest.drop 4) with
          | .error stop => .error stop
          | .ok (some low) =>
            .ok (Char.ofNat (0x10000 + (code - 0xD800) * 1024 + (low - 0xDC00)), 11)
          | .ok none => .ok (CodePoint.ofNat code, 5)
        else .ok (CodePoint.ofNat code, 5)
  | _ :: _ => .error (.at .unknownEscape (.char '\\' :: source))

/-- Read a text after its opening quote; `done` holds the characters read, last one first. -/
def readString (opened : Text) (done : List CodePoint) (source : Text) :
    Except Stop (Text × Text) :=
  match source with
  | [] => .error (.at .unterminated opened)
  | '"' :: rest => .ok (done.reverse, rest)
  | '\\' :: rest =>
    match readEscape opened rest with
    | .error stop => .error stop
    | .ok (c, taken) => readString opened (c :: done) (rest.drop taken)
  | c :: rest =>
    if c.toNat ≤ 0x1F then .error (.at .controlCharacter source)
    else readString opened (c :: done) rest
termination_by source.length
decreasing_by
  · simp only [List.length_drop, List.length_cons]
    omega
  · simp

/-- A fraction at the front: a point and at least one digit. -/
def takeFraction (source : Text) : Text × Text :=
  match source with
  | '.' :: rest =>
    let digits := rest.takeWhile Text.isAsciiDigit
    if digits.isEmpty then ([], source) else (digits, rest.drop digits.length)
  | _ => ([], source)

/-- An exponent at the front: `e`, maybe a sign, and at least one digit. -/
def takePower (source : Text) : Option Int × Text :=
  match source with
  | e :: rest =>
    if e = 'e' ∨ e = 'E' then
      let (negative, unsigned) := Number.takeSign rest
      let digits := unsigned.takeWhile Text.isAsciiDigit
      if digits.isEmpty then (none, source)
      else
        let power : Int := Number.ofAsciiDigits digits
        (some (if negative then -power else power), unsigned.drop digits.length)
    else (none, source)
  | [] => (none, source)

/-- Read a number without its sign. -/
def readNumber (negative : Bool) (left source : Text) : Except Stop (Json × Text) :=
  let whole : Text :=
    match source with
    | '0' :: _ => ['0']
    | _ => source.takeWhile Text.isAsciiDigit
  if whole.isEmpty then .error (.at .expectingValue left)
  else
    let (fraction, afterFraction) := takeFraction (source.drop whole.length)
    let (power, rest) := takePower afterFraction
    if fraction.isEmpty && power.isNone then
      if whole.length > Number.digitLimit then .error (.tooManyDigits whole.length)
      else
        let n : Int := Number.ofAsciiDigits whole
        .ok (.int (if negative then -n else n), rest)
    else
      let digits := Number.ofAsciiDigits (whole ++ fraction)
      .ok (.real (Number.ofDecimal negative digits (power.getD 0 - fraction.length)), rest)

/-- The names that stand for values. -/
def names : List (String × Json) :=
  [("null", .null), ("true", .bool true), ("false", .bool false), ("NaN", .real Number.notANumber),
   ("Infinity", .real Number.infinity), ("-Infinity", .real (-Number.infinity))]

/-- Read a name or a number. -/
def readScalar (source : Text) : Except Stop (Json × Text) :=
  match names.find? fun name => source.startsWith name.1.toText with
  | some (name, value) => .ok (value, source.drop name.length)
  | none =>
    match source with
    | '-' :: rest => readNumber true source rest
    | _ => readNumber false source source

/-- Lists and objects stand inside each other at most this deep. -/
def depthLimit : Nat := 985

mutual

/-- Read a value that starts here. `fuel` bounds the number of steps, `room` the number of lists
and objects that may still be opened inside each other. -/
def readValue (fuel room : Nat) (source : Text) : Except Stop (Json × Text) :=
  match fuel with
  | 0 => .error (.at .expectingValue source)
  | fuel + 1 =>
    match source with
    | '"' :: rest =>
      match readString source [] rest with
      | .error stop => .error stop
      | .ok (value, rest) => .ok (.string value, rest)
    | '[' :: rest =>
      if room = 0 then .error (.tooDeep .list)
      else match skipSpace rest with
        | ']' :: after => .ok (.list [], after)
        | first => readItems fuel (room - 1) [] first
    | '{' :: rest =>
      if room = 0 then .error (.tooDeep .object)
      else match skipSpace rest with
        | '}' :: after => .ok (.object [], after)
        | first => readMembers fuel (room - 1) [] first
    | _ => readScalar source

/-- Read the items of a list from one of them on; `done` holds the earlier ones, last one
first. -/
def readItems (fuel room : Nat) (done : List Json) (source : Text) : Except Stop (Json × Text) :=
  match fuel with
  | 0 => .error (.at .expectingValue source)
  | fuel + 1 =>
    match readValue fuel room source with
    | .error stop => .error stop
    | .ok (item, rest) =>
      match skipSpace rest with
      | ']' :: after => .ok (.list (item :: done).reverse, after)
      | ',' :: after => readItems fuel room (item :: done) (skipSpace after)
      | other => .error (.at .expectingComma other)

/-- Read the members of an object from one of them on; `done` holds the earlier ones, last one
first. -/
def readMembers (fuel room : Nat) (done : List (Text × Json)) (source : Text) :
    Except Stop (Json × Text) :=
  match fuel with
  | 0 => .error (.at .expectingName source)
  | fuel + 1 =>
    match source with
    | '"' :: rest =>
      match readString source [] rest with
      | .error stop => .error stop
      | .ok (name, rest) =>
        match skipSpace rest with
        | ':' :: rest =>
          match readValue fuel room (skipSpace rest) with
          | .error stop => .error stop
          | .ok (value, rest) =>
            match skipSpace rest with
            | '}' :: after =>
              .ok (.object (Entries.merge ((name, value) :: done).reverse), after)
            | ',' :: after => readMembers fuel room ((name, value) :: done) (skipSpace after)
            | other => .error (.at .expectingComma other)
        | other => .error (.at .expectingColon other)
    | other => .error (.at .expectingName other)

end

/-- The place of an offset: its line and its column, both counted from one. -/
def misreadAt (source : Text) (complaint : Complaint) (offset : Nat) : Misread :=
  let before := source.take offset
  .grammar complaint (before.count (.char '\n') + 1)
    ((Text.afterLast '\n' before).length + 1) offset

/-- Read a text that holds one value. -/
def read (source : Text) : Except Misread Json :=
  if source.startsWith ['\uFEFF'] then .error (misreadAt source .byteOrderMark 0)
  else
    let place (left : Text) : Nat := source.length - left.length
    match readValue (2 * source.length + 2) depthLimit (skipSpace source) with
    | .error (.at complaint left) => .error (misreadAt source complaint (place left))
    | .error (.tooManyDigits digits) => .error (.tooManyDigits digits)
    | .error (.tooDeep holder) => .error (.tooDeep holder)
    | .ok (value, rest) =>
      match skipSpace rest with
      | [] => .ok value
      | other => .error (misreadAt source .extraData (place other))

end Restyle.Json
