import Restyle.Http.Label.Letter

/-!
# Directions of labels

Most scripts are written from left to right, some from right to left. A label that holds letters
or digits of the latter starts with such a letter, holds no letter from left to right, has digits
of one kind only, and ends, marks apart, with a letter or a digit.
-/
namespace Restyle.Label

/-- What a code point does to the direction of a label. -/
inductive Direction where
  /-- A letter that is written from left to right. -/
  | fromLeft
  /-- A letter that is written from right to left. -/
  | fromRight
  /-- A digit of a script that is written from right to left. -/
  | innerDigit
  /-- Another digit. -/
  | digit
  /-- A mark, which goes with the letter before it. -/
  | mark
  /-- None of these. -/
  | neutral
  /-- It is not known what it does. -/
  | unknown
deriving DecidableEq, Repr

/-- Why the directions of a label do not agree. Positions are counted from one. -/
inductive DirectionFault where
  /-- A direction is not known. -/
  | unknown (position : Nat)
  /-- The label starts with no letter. -/
  | start
  /-- A letter from left to right stands in a label from right to left. -/
  | leftInRight (position : Nat)
  /-- What goes from right to left stands in a label from left to right. -/
  | rightInLeft (position : Nat)
  /-- There are digits of two kinds. -/
  | mixedDigits
  /-- The label ends with no letter or digit. -/
  | ending
deriving DecidableEq, Repr

/-- Letters that are written from right to left. -/
def fromRightRanges : Text.Ranges :=
  [(0x5D0, 0x5F4), (0x620, 0x64A), (0x66E, 0x66F), (0x671, 0x6D5), (0x6E5, 0x6E6), (0x6EE, 0x6EF),
   (0x6FA, 0x710), (0x712, 0x72F), (0x74D, 0x7A5), (0x7B1, 0x7EA), (0x7F4, 0x7F5), (0x800, 0x815),
   (0x81A, 0x81A), (0x824, 0x824), (0x828, 0x828), (0x840, 0x858), (0x860, 0x88E), (0x8A0, 0x8C9),
   (0xFE73, 0xFE73), (0x10800, 0x10939), (0x10980, 0x10A00), (0x10A10, 0x10A35),
   (0x10A60, 0x10AE4), (0x10B00, 0x10D23), (0x10E80, 0x10EA9), (0x10EB0, 0x10EB1),
   (0x10F00, 0x10F45), (0x10F70, 0x10F81), (0x10FB0, 0x10FF6), (0x1E800, 0x1E8C4),
   (0x1E922, 0x1E943), (0x1E94B, 0x1E959)]

/-- Digits of scripts that are written from right to left. -/
def innerDigitRanges : Text.Ranges := [(0x660, 0x669), (0x10D30, 0x10D39)]

/-- Other digits. -/
def digitRanges : Text.Ranges := [(0x30, 0x39), (0x6F0, 0x6F9)]

/-- What has no direction. -/
def neutralRanges : Text.Ranges :=
  [(0x2D, 0x2D), (0xB7, 0xB7), (0x2B9, 0x2BA), (0x2C6, 0x2CF), (0x2EC, 0x2EC), (0x375, 0x375),
   (0x200C, 0x200D), (0x2E2F, 0x2E2F), (0x30FB, 0x30FB), (0xA67F, 0xA67F), (0xA717, 0xA71F),
   (0xA788, 0xA788)]

/-- Marks without space that have the direction of letters. -/
def letterMarks : Text.Ranges :=
  [(0xCBF, 0xCBF), (0xCC6, 0xCC6), (0x11A07, 0x11A08), (0x11C3F, 0x11C3F)]

/-- What a code point that labels hold does to their direction. -/
def directionOf (code : Nat) : Direction :=
  if isBare code then .unknown
  else if fromRightRanges.holds code then .fromRight
  else if innerDigitRanges.holds code then .innerDigit
  else if digitRanges.holds code then .digit
  else if neutralRanges.holds code then .neutral
  else if Text.isNonspacing code && !letterMarks.holds code then .mark
  else .fromLeft

/-- Whether a direction makes a label one from right to left. -/
def Direction.turns : Direction → Bool
  | .fromRight | .innerDigit => true
  | _ => false

/-- The position of the first direction of a kind. -/
def positionOf? (test : Direction → Bool) (directions : List Direction) : Option Nat :=
  (directions.findIdx? test).map (· + 1)

/-- Check the directions of a label from right to left; `position` is that of the next one, and
`digits` the kind of the digits before it. -/
def checkFromRight (position : Nat) (digits : Option Direction) :
    List Direction → Except DirectionFault Unit
  | [] => .ok ()
  | .fromLeft :: _ => .error (.leftInRight position)
  | direction :: rest =>
    if direction = .digit || direction = .innerDigit then
      if digits.any (· != direction) then .error .mixedDigits
      else checkFromRight (position + 1) (some direction) rest
    else checkFromRight (position + 1) digits rest

/-- Check the directions of a label. -/
def checkDirections (directions : List Direction) : Except DirectionFault Unit := do
  if let some position := positionOf? (· = .unknown) directions then
    .error (.unknown position)
  if directions.any Direction.turns then
    match directions.head? with
    | some .fromRight => checkFromRight 1 none directions
    | some .fromLeft => .error (.rightInLeft ((positionOf? Direction.turns directions).getD 0))
    | _ => .error .start
    if (directions.reverse.dropWhile (· = .mark)).head?.any (· = .neutral) then
      .error .ending

end Restyle.Label
