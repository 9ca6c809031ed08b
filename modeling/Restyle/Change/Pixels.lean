import Restyle.Number.Read
import Restyle.Text.Class

/-!
# Lengths in pixels

A browser reports lengths in pixels with small jitter. A change between two such lengths counts
only when they differ by at least a given distance; any other change counts.
-/
namespace Restyle.Pixels

/-- The values of the digits at the front of a text, and what follows them. -/
def takeDigits (text : Text) : List Nat × Text :=
  let digits := text.takeWhile Text.isDigit
  (digits.filterMap Text.digitValue?, text.drop digits.length)

/-- The length that a text states, in pixels: digits, maybe with a point before the last of
them, after a minus sign if negative and before the unit; blanks may stand around it. -/
def read? (text : Text) : Option Float :=
  let (negative, unsigned) :=
    match Text.trimStart text with
    | '-' :: rest => (true, rest)
    | rest => (false, rest)
  let (whole, rest) := takeDigits unsigned
  let (fraction, rest) :=
    match rest with
    | '.' :: after =>
      let (fraction, after) := takeDigits after
      if fraction.isEmpty then ([], rest) else (fraction, after)
    | _ => ([], rest)
  match rest with
  | 'p' :: 'x' :: after =>
    if (whole.isEmpty && fraction.isEmpty) || !Text.isBlankText after then none
    else
      let digits := Text.numberOfDigits (whole ++ fraction)
      some (Number.ofDecimal negative digits (-fraction.length))
  | _ => none

/-- The least distance that counts unless another one is asked for. -/
def defaultDistance : Float := 0.5

/-- Whether a change of a value counts. -/
def isSignificant (old new : Text) (distance : Float) : Bool :=
  match read? old, read? new with
  | some before, some after => (before - after).abs ≥ distance
  | _, _ => true

end Restyle.Pixels
