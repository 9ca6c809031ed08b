import Restyle.Http.Label.Direction
import Restyle.Http.Label.Joining
import Restyle.Http.Label.Script
import Restyle.Text.Composed
import Restyle.Text.Punycode
import Restyle.Text.Quoted

/-!
# Labels

A label is a part of a host name. It may have letters outside ASCII, and is then written in ASCII
behind a mark that says so. Only labels that read the same everywhere are allowed: they are
composed, their letters are permitted, a few of them only beside certain others, no mark comes
first, and their directions agree. A written label is the one way to write what it stands for.

What a written label stands for is a list of code points, of which not all need to be characters.
-/
namespace Restyle

/-- Why a label is not allowed. Positions are counted from one. -/
inductive LabelFault where
  /-- There is nothing in it. -/
  | empty
  /-- Nothing stands behind the mark of ASCII. -/
  | nothingMarked
  /-- A hyphen ends what stands behind the mark of ASCII. -/
  | markedHyphen
  /-- What stands behind the mark of ASCII stands for nothing. -/
  | meaningless
  /-- What it stands for is written in another way. -/
  | otherwiseWritten
  /-- It is not composed. -/
  | notComposed
  /-- Its third and fourth characters are hyphens. -/
  | innerHyphens
  /-- A hyphen stands at an end. -/
  | outerHyphen
  /-- A mark comes first. -/
  | initialMark
  /-- A code point is not permitted. -/
  | notPermitted (code position : Nat) (label : List Nat)
  /-- A code point is not permitted beside its neighbours. -/
  | misplaced (code position : Nat) (label : List Nat)
  /-- A code point without a width does not stand between letters that it joins or parts. -/
  | misplacedJoiner (code position : Nat) (label : List Nat)
  /-- The directions do not agree. -/
  | direction (fault : Label.DirectionFault) (label : List Nat)
  /-- It is too long. -/
  | tooLong
deriving DecidableEq, Repr

namespace Label

/-- The name of a code point. -/
def codeName (code : Nat) : Text :=
  let digits := (Nat.toDigits 16 code).map fun digit => CodePoint.char digit.toUpper
  .char 'U' :: .char '+' :: List.replicate (4 - digits.length) (.char '0') ++ digits

/-- The wording of a fault of the directions of a label. -/
def DirectionFault.message (label : List Nat) : DirectionFault → Text
  | .unknown position =>
    "Unknown directionality in label ".toText ++ Text.quoted (label.map .ofNat) ++
      " at position ".toText ++
      Text.ofNat position
  | .start =>
    "First codepoint in label ".toText ++ Text.quoted (label.map .ofNat) ++
      " must be directionality L, R or AL".toText
  | .leftInRight position =>
    "Invalid direction for codepoint at position ".toText ++ Text.ofNat position ++
      " in a right-to-left label".toText
  | .rightInLeft position =>
    "Invalid direction for codepoint at position ".toText ++ Text.ofNat position ++
      " in a left-to-right label".toText
  | .mixedDigits => "Can not mix numeral types in a right-to-left label".toText
  | .ending => "Label ends with illegal codepoint directionality".toText

end Label

/-- The wording of a fault. -/
def LabelFault.message : LabelFault → Text
  | .empty => "Empty Label".toText
  | .nothingMarked => "Malformed A-label, no Punycode eligible content found".toText
  | .markedHyphen => "A-label must not end with a hyphen".toText
  | .meaningless => "Invalid A-label".toText
  | .otherwiseWritten => "A-label is not the canonical Punycode encoding of its U-label".toText
  | .notComposed => "Label must be in Normalization Form C".toText
  | .innerHyphens => "Label has disallowed hyphens in 3rd and 4th position".toText
  | .outerHyphen => "Label must not start or end with a hyphen".toText
  | .initialMark => "Label begins with an illegal combining character".toText
  | .notPermitted code position label =>
    "Codepoint ".toText ++ Label.codeName code ++ " at position ".toText ++ Text.ofNat position ++
      " of ".toText ++ Text.quoted (label.map .ofNat) ++ " not allowed".toText
  | .misplaced code position label =>
    "Codepoint ".toText ++ Label.codeName code ++ " not allowed at position ".toText ++
      Text.ofNat position ++ " in ".toText ++ Text.quoted (label.map .ofNat)
  | .misplacedJoiner code position label =>
    "Unknown codepoint adjacent to joiner ".toText ++ Label.codeName code ++
      " at position ".toText ++ Text.ofNat position ++ " in ".toText ++
        Text.quoted (label.map .ofNat)
  | .direction fault label => fault.message label
  | .tooLong => "Label too long".toText

namespace Label

/-- What a label starts with that stands for letters outside ASCII. -/
def asciiMark : Text := "xn--".toText

/-- Most characters of a label in ASCII. -/
def lengthLimit : Nat := 63

/-- The hyphen. -/
def hyphen : Nat := 0x2D

/-- Letters are kept from joining here. -/
def nonJoiner : Nat := 0x200C

/-- Letters are joined here. -/
def joiner : Nat := 0x200D

/-- The dot between two letters that are said one by one. -/
def middleDot : Nat := 0xB7

/-- The sign before a number in the Greek script. -/
def numberSign : Nat := 0x375

/-- The signs behind letters of the Hebrew script. -/
def hebrewSigns : List Nat := [0x5F3, 0x5F4]

/-- The dot between words of the Japanese scripts. -/
def wordDot : Nat := 0x30FB

/-- Digits of the Arabic script. -/
def isArabicDigit (code : Nat) : Bool := 0x660 ≤ code && code ≤ 0x669

/-- Digits of the Persian form of that script. -/
def isPersianDigit (code : Nat) : Bool := 0x6F0 ≤ code && code ≤ 0x6F9

/-- Whether the letters around a place, before it the last one first, would join there. -/
def wouldJoin (before after : List Nat) : Bool :=
  let nearest (codes : List Nat) : Option Nat := (codes.dropWhile isPassed).head?
  (nearest before).any joinsNext && (nearest after).any joinsPrevious

/-- Whether the place between two code points, the first one maybe missing, is one for a code
point without a width: enough is known of the one before it, and that one silences a vowel, or
letters are to be kept from joining there that would join. -/
def joinerFits (before : List Nat) (code : Nat) (after : List Nat) : Bool :=
  !before.head?.any isBare &&
    (before.head?.any Text.silences || (code = nonJoiner && wouldJoin before after))

/-- Whether a code point that is permitted only beside certain others stands beside such ones;
`before` holds those before it, last one first. None for other code points. -/
def conditionFits? (before : List Nat) (code : Nat) (after : List Nat) : Option Bool :=
  let whole := before ++ after
  if code = middleDot then
    some (before.head? == some 'l'.toNat && after.head? == some 'l'.toNat)
  else if code = numberSign then some (after.head?.any greek.holds)
  else if hebrewSigns.contains code then some (before.head?.any hebrew.holds)
  else if code = wordDot then
    some (whole.any fun other => other != wordDot && japanese.holds other)
  else if isArabicDigit code then some (!whole.any isPersianDigit)
  else if isPersianDigit code then some (!whole.any isArabicDigit)
  else none

/-- Why a code point of a label may not stand where it stands; `before` holds those before it,
last one first. -/
def faultOf? (label before : List Nat) (code : Nat) (after : List Nat) : Option LabelFault :=
  let position := before.length + 1
  if code = nonJoiner || code = joiner then
    if joinerFits before code after then none else some (.misplacedJoiner code position label)
  else match conditionFits? before code after with
    | some true => none
    | some false => some (.misplaced code position label)
    | none => if isPermitted code then none else some (.notPermitted code position label)

/-- Check the code points of a label behind those that stand `before`, last one first. -/
def checkCodes (label before : List Nat) : List Nat → Except LabelFault Unit
  | [] => .ok ()
  | code :: after =>
    match faultOf? label before code after with
    | some fault => .error fault
    | none => checkCodes label (code :: before) after

/-- Check a label. -/
def check (label : List Nat) : Except LabelFault Unit := do
  if label.isEmpty then .error .empty
  if !Text.isComposed label then .error .notComposed
  if (label.drop 2).take 2 == [hyphen, hyphen] then .error .innerHyphens
  if label.head? == some hyphen || label.getLast? == some hyphen then .error .outerHyphen
  if label.head?.any Text.isMark then .error .initialMark
  checkCodes label [] label
  (checkDirections (label.map directionOf)).mapError (.direction · label)

/-- Check that a label in ASCII is allowed, and so is what it stands for. -/
def checkWritten (label : Text) : Except LabelFault Unit :=
  if label.startsWith asciiMark then
    let written := label.drop asciiMark.length
    if written.isEmpty then .error .nothingMarked
    else if written.getLast? == some (.char '-') then .error .markedHyphen
    else match Punycode.decode? written with
      | none => .error .meaningless
      | some meant => do
        check meant
        if Punycode.encode (meant.map CodePoint.ofNat) != written then .error .otherwiseWritten
  else check (label.map CodePoint.toNat)

/-- A label in ASCII. -/
def toAscii (label : Text) : Except LabelFault Text := do
  let written : Text ←
    if label.all (·.toNat < 0x80) then do
      checkWritten label
      pure label
    else do
      check (label.map CodePoint.toNat)
      pure (asciiMark ++ Punycode.encode label)
  if lengthLimit < written.length then .error .tooLong
  return written

end Label

end Restyle
