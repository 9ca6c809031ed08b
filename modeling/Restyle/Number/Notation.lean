import Restyle.Number.Shortest

/-!
# Decimal notation

How a floating-point number is written: its shortest decimal, positional where the decimal
exponent is moderate and with a power of ten elsewhere.
-/
namespace Restyle.Number

/-- The decisions of a decimal notation. -/
structure Layout where
  /-- Positional from this place of the point. -/
  fromPoint : Int
  /-- Positional up to this place of the point. -/
  toPoint : Int
  /-- Digits that the exponent has at least. -/
  exponentDigits : Nat
  /-- Text of positive infinity. -/
  infinite : String
  /-- Text of no number. -/
  undefined : String

/-- Numbers from `0.0001` to below `10 ^ 16` are positional and keep a digit after the point;
exponents are signed and have two digits at least. -/
def plainLayout : Layout := ⟨-3, 16, 2, "inf", "nan"⟩

/-- As `plainLayout`, with the names that JSON readers know for what is not finite. -/
def wireLayout : Layout := { plainLayout with infinite := "Infinity", undefined := "NaN" }

/-- A positive decimal in a layout. -/
def Shortest.write (layout : Layout) (decimal : Shortest) : Text :=
  let digits := Text.ofNat decimal.digits
  if layout.fromPoint ≤ decimal.point ∧ decimal.point ≤ layout.toPoint then
    if decimal.point ≤ 0 then
      .char '0' :: .char '.' :: (List.replicate decimal.point.natAbs (.char '0') ++ digits)
    else
      let whole := digits.take decimal.point.toNat
      let zeros := List.replicate (decimal.point.toNat - digits.length) (.char '0')
      let fraction := digits.drop decimal.point.toNat
      whole ++ zeros ++ .char '.' :: (if fraction.isEmpty then [.char '0'] else fraction)
  else
    let fraction := digits.drop 1
    let exponent := decimal.point - 1
    let power := Text.ofNat exponent.natAbs
    digits.take 1 ++ (if fraction.isEmpty then [] else .char '.' :: fraction) ++
      .char 'e' :: .char (if exponent < 0 then '-' else '+') ::
      (List.replicate (layout.exponentDigits - power.length) (.char '0') ++ power)

/-- A floating-point number in a layout. -/
def write (layout : Layout) (x : Float) : Text :=
  match parts x with
  | .notANumber => layout.undefined.toText
  | .infinite negative => (if negative then [.char '-'] else []) ++ layout.infinite.toText
  | .finite negative mantissa exponent =>
    (if negative then [.char '-'] else []) ++
      (if mantissa = 0 then "0.0".toText else (shortest mantissa exponent).write layout)

end Restyle.Number
