import Restyle.Number.Binary
import Restyle.Text.Basic

/-!
# Shortest decimals

The shortest decimal of a positive floating-point number has the fewest digits that read back
as that number, and is the nearest of those. The decimals that read back are those between the
midpoints to the two neighbouring numbers, the midpoints included when the mantissa is even.
For each count of digits the value has two neighbours on that decimal grid; the first count
with a neighbour between the midpoints decides.
-/
namespace Restyle.Number

/-- `0.d₁d₂… * 10 ^ point` for the digits of `digits`. -/
structure Shortest where
  /-- The digits as a whole number; its last digit is not zero. -/
  digits : Nat
  /-- The power of ten that the point stands at. -/
  point : Int
deriving DecidableEq, Repr

/-- A ratio of whole numbers. -/
structure Ratio where
  /-- Numerator. -/
  num : Nat
  /-- Denominator. -/
  den : Nat
deriving DecidableEq, Repr

namespace Ratio

/-- `mantissa * 2 ^ exponent`. -/
def ofBinary (mantissa : Nat) (exponent : Int) : Ratio :=
  if exponent < 0 then ⟨mantissa, twoTo exponent.natAbs⟩
  else ⟨mantissa * twoTo exponent.natAbs, 1⟩

/-- The ratio times `10 ^ power`. -/
def scale (ratio : Ratio) (power : Int) : Ratio :=
  if power < 0 then ⟨ratio.num, ratio.den * tenTo power.natAbs⟩
  else ⟨ratio.num * tenTo power.natAbs, ratio.den⟩

/-- Whether the first ratio is at most the second. -/
def le (first second : Ratio) : Bool := first.num * second.den ≤ second.num * first.den

/-- Whether the first ratio is less than the second. -/
def lt (first second : Ratio) : Bool := first.num * second.den < second.num * first.den

end Ratio

/-- Least `k` at or above `start` with the ratio times `10 ^ k` at least one, looked for in
`fuel` steps. -/
def firstScaledToOne (ratio : Ratio) (start : Nat) : Nat → Nat
  | 0 => start
  | fuel + 1 =>
    if ratio.den ≤ ratio.num * tenTo start then start
    else firstScaledToOne ratio (start + 1) fuel

/-- The power of ten just above a positive ratio that is at least `10 ^ -400`. -/
def pointOf (ratio : Ratio) : Int :=
  if ratio.den ≤ ratio.num then (Nat.toDigits 10 (ratio.num / ratio.den)).length
  else 1 - (firstScaledToOne ratio 1 400 : Int)

/-- The neighbour of `value` on the whole numbers that lies between the bounds; of two the
nearer, and of two equally near the even one. -/
def gridPoint? (value : Ratio) (within : Ratio → Bool) : Option Nat :=
  let below := value.num / value.den
  match within ⟨below, 1⟩, within ⟨below + 1, 1⟩ with
  | false, false => none
  | true, false => some below
  | false, true => some (below + 1)
  | true, true => some (roundToEven value.num value.den)

/-- Remove the zeros at the end of a positive whole number, at most `fuel` of them. -/
def dropZeros (n : Nat) : Nat → Nat
  | 0 => n
  | fuel + 1 => if n % 10 = 0 then dropZeros (n / 10) fuel else n

/-- The shortest decimal of `mantissa * 2 ^ exponent`, for a positive mantissa. -/
def shortest (mantissa : Nat) (exponent : Int) : Shortest :=
  let value := Ratio.ofBinary mantissa exponent
  let below :=
    if mantissa = twoTo fractionBits ∧ exponent ≠ leastExponent then 4 * mantissa - 1
    else 4 * mantissa - 2
  let lower := Ratio.ofBinary below (exponent - 2)
  let upper := Ratio.ofBinary (4 * mantissa + 2) (exponent - 2)
  let point := pointOf value
  let attempt (count : Nat) : Option Shortest :=
    let power : Int := count - point
    let within (candidate : Ratio) : Bool :=
      let back := candidate.scale (-power)
      if mantissa % 2 = 0 then lower.le back && back.le upper else lower.lt back && back.lt upper
    (gridPoint? (value.scale power) within).map fun digits =>
      let point := point + ((Nat.toDigits 10 digits).length - count : Int)
      ⟨dropZeros digits 20, point⟩
  ((List.range' 1 17).findSome? attempt).getD ⟨0, 0⟩

end Restyle.Number
