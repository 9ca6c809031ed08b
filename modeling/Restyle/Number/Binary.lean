/-!
# Binary floating point

A floating-point number is read as the integer ratio it stands for, and a ratio is written as
the nearest floating-point number. Both directions work in exact natural arithmetic on the
fields of the word, so that shortest decimals and decimal texts can be decided exactly.
-/
namespace Restyle.Number

/-- What the fields of a floating-point word say. -/
inductive Parts where
  /-- No number. -/
  | notANumber
  /-- Beyond every finite number. -/
  | infinite (negative : Bool)
  /-- `mantissa * 2 ^ exponent`, negated if so marked. -/
  | finite (negative : Bool) (mantissa : Nat) (exponent : Int)
deriving DecidableEq, Repr

/-- Two to a power. -/
def twoTo (power : Nat) : Nat := Nat.pow 2 power

/-- Ten to a power. -/
def tenTo (power : Nat) : Nat := Nat.pow 10 power

/-- The fraction field has this many bits. -/
def fractionBits : Nat := 52

/-- The exponent of the least positive number. -/
def leastExponent : Int := -1074

/-- The parts of a floating-point number. -/
def parts (x : Float) : Parts :=
  let word := x.toBits.toNat
  let negative := word / twoTo 63 = 1
  let field := word / twoTo fractionBits % twoTo 11
  let fraction := word % twoTo fractionBits
  if field = 2047 then
    if fraction = 0 then .infinite negative else .notANumber
  else if field = 0 then .finite negative fraction leastExponent
  else .finite negative (twoTo fractionBits + fraction) (leastExponent + (field - 1 : Nat))

/-- The nearest whole number to `num / den`, the even one of two equally near. -/
def roundToEven (num den : Nat) : Nat :=
  let whole := num / den
  let twice := 2 * (num % den)
  if twice < den then whole
  else if twice > den then whole + 1
  else whole + whole % 2

/-- `num / den` in units of `2 ^ exponent`, as a ratio. -/
def inUnits (num den : Nat) (exponent : Int) : Nat × Nat :=
  if exponent < 0 then (num * twoTo exponent.natAbs, den) else (num, den * twoTo exponent.natAbs)

/-- The word, without its sign, of the floating-point number nearest to `num / den`; a tie goes
to the even word. Past the greatest finite number it is the word of infinity. -/
def nearestWord (num den : Nat) : Nat :=
  if num = 0 then 0
  else
    let estimate : Int := (num.log2 : Int) - den.log2 - 1 - fractionBits
    let exponent := max estimate leastExponent
    let (n, d) := inUnits num den exponent
    let exponent := if n / d < twoTo (fractionBits + 1) then exponent else exponent + 1
    let (n, d) := inUnits num den exponent
    let word := (exponent - leastExponent).toNat * twoTo fractionBits + roundToEven n d
    min word (2047 * twoTo fractionBits)

/-- The floating-point number nearest to `num / den`, with the given sign. -/
def nearest (negative : Bool) (num den : Nat) : Float :=
  let word := nearestWord num den
  Float.ofBits (UInt64.ofNat (if negative then twoTo 63 + word else word))

/-- The floating-point number nearest to `digits * 10 ^ exponent`, with the given sign. Past a
bound on the magnitude the answer is known without the power of ten. -/
def ofDecimal (negative : Bool) (digits : Nat) (exponent : Int) : Float :=
  let magnitude : Int := (Nat.toDigits 10 digits).length + exponent
  if digits = 0 ∨ magnitude < -400 then nearest negative 0 1
  else if magnitude > 400 then nearest negative (twoTo 1024) 1
  else if exponent < 0 then nearest negative digits (tenTo exponent.natAbs)
  else nearest negative (digits * tenTo exponent.natAbs) 1

/-- Positive infinity. -/
def infinity : Float := nearest false (twoTo 1024) 1

/-- A word that is no number. -/
def notANumber : Float := Float.ofBits 0x7FF8000000000000

/-- Whether an integer is too great to have a finite neighbour. -/
def overflows (n : Int) : Bool := nearestWord n.natAbs 1 = 2047 * twoTo fractionBits

/-- The floating-point number nearest to an integer. -/
def ofInt (n : Int) : Float := nearest (n < 0) n.natAbs 1

/-- `mantissa * 2 ^ exponent` without its fractional part. -/
def truncated (mantissa : Nat) (exponent : Int) : Nat :=
  if exponent < 0 then mantissa / twoTo exponent.natAbs else mantissa * twoTo exponent.natAbs

end Restyle.Number
