import Restyle.Number.Binary
import Restyle.Text.Class

/-!
# Reading numbers

A whole number or a decimal number may be written in the digits of any script, with blanks
around it, a sign in front and single low lines between digits. `Readable` first puts such a
text into ASCII; the grammars then see ASCII only.
-/
namespace Restyle.Number

/-- Whether a character may stand around a number, once the text is in ASCII. -/
def isPadding (c : CodePoint) : Bool := c = ' ' || ('\t' ≤ c && c ≤ '\r')

/-- A text in ASCII, as far as it is the text of a number: digits of every script become ASCII
digits and blanks outside ASCII become spaces. From the first other character outside ASCII
the text is no number, which a question mark says. A text that is in ASCII is not looked at. -/
def toAscii (text : Text) : Text :=
  if text.all (·.toNat < 128) then text
  else
    let known := text.map fun c =>
      if c.toNat < 127 then c
      else if Text.isBlank c then ' '
      else match Text.digitValue? c with
        | some value => Char.ofNat ('0'.toNat + value)
        | none => '\x7f'
    match Text.cut? '\x7f' known with
    | some (before, _) => before ++ [.char '?']
    | none => known

/-- The sign in front of a number, and what follows it. -/
def takeSign : Text → Bool × Text
  | '-' :: rest => (true, rest)
  | '+' :: rest => (false, rest)
  | text => (false, text)

/-- Whether each low line of a run of digits and low lines stands between two digits. -/
def linesBetweenDigits (run : Text) : Bool :=
  (Text.split (· = .char '_') run).all (!·.isEmpty)

/-- The digits of a run of digits and low lines. -/
def digitsOfRun (run : Text) : Text := run.filter (· != .char '_')

/-- The whole number that ASCII digits write. -/
def ofAsciiDigits (digits : Text) : Nat :=
  Text.numberOfDigits (digits.map fun c => c.toNat - '0'.toNat)

/-- What is read from the text of a whole number. -/
inductive Whole where
  /-- The number. -/
  | value (n : Int)
  /-- It has more digits than are read. -/
  | tooLong (digits : Nat)
  /-- It is not the text of a whole number. -/
  | malformed
deriving DecidableEq, Repr

/-- A whole number is not read from more digits than this. -/
def digitLimit : Nat := 4300

/-- Read a whole number. -/
def readWhole (text : Text) : Whole :=
  let ascii := (toAscii text).dropWhile isPadding
  let (negative, rest) := takeSign ascii
  let run := rest.takeWhile fun c => Text.isAsciiDigit c || c = '_'
  let after := rest.dropWhile fun c => Text.isAsciiDigit c || c = '_'
  let digits := digitsOfRun run
  if digits.isEmpty || !linesBetweenDigits run then .malformed
  else if digits.length > digitLimit then .tooLong digits.length
  else if !(after.all isPadding) then .malformed
  else .value (if negative then -(ofAsciiDigits digits) else ofAsciiDigits digits)

/-- Lower case of an ASCII letter. -/
def lower (c : CodePoint) : CodePoint :=
  if 'A' ≤ c && c ≤ 'Z' then Char.ofNat (c.toNat + 32) else c

/-- The low lines of a decimal number stand between digits: none at an end of the text, none
beside another character. -/
def withoutLines? (text : Text) : Option Text :=
  if text.contains '_' then
    let between (before after : CodePoint) : Bool :=
      (before != '_' || Text.isAsciiDigit after) && (after != '_' || Text.isAsciiDigit before)
    let neighbours := (.char ' ' :: text).zip (text ++ [.char ' '])
    if neighbours.all fun (before, after) => between before after then some (digitsOfRun text)
    else none
  else some text

/-- The exponent that ends a decimal number: nothing, or `e`, a sign and digits. -/
def readExponent? : Text → Option Int
  | [] => some 0
  | e :: rest =>
    if lower e = 'e' then
      let (negative, digits) := takeSign rest
      if digits.isEmpty || !digits.all Text.isAsciiDigit then none
      else some (if negative then -(ofAsciiDigits digits) else ofAsciiDigits digits)
    else none

/-- A decimal number without sign: digits with a point among or beside them, and an
exponent. -/
def readUnsigned? (negative : Bool) (text : Text) : Option Float :=
  let whole := text.takeWhile Text.isAsciiDigit
  let rest := text.dropWhile Text.isAsciiDigit
  let (fraction, rest) :=
    match rest with
    | '.' :: after => (after.takeWhile Text.isAsciiDigit, after.dropWhile Text.isAsciiDigit)
    | _ => ([], rest)
  if whole.isEmpty && fraction.isEmpty then none
  else (readExponent? rest).map fun exponent =>
    ofDecimal negative (ofAsciiDigits (whole ++ fraction)) (exponent - fraction.length)

/-- Read a decimal number, an infinity or the text of no number. -/
def readDecimal? (text : Text) : Option Float :=
  let ascii := toAscii text
  let bare := ((ascii.dropWhile isPadding).reverse.dropWhile isPadding).reverse
  match withoutLines? bare with
  | none => none
  | some clean =>
    let (negative, rest) := takeSign clean
    let name := rest.map lower
    if name = "inf".toText ∨ name = "infinity".toText then
      some (if negative then -infinity else infinity)
    else if name = "nan".toText then some notANumber
    else readUnsigned? negative rest

end Restyle.Number
