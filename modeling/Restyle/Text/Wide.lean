import Restyle.Text.Basic

/-!
# Texts in wide units

A text may be held in units of two or of four bytes, the least or the greatest byte of a unit
first. A unit of two bytes is a code point of the basic plane or half of one above it; a unit of
four bytes is a code point. A half alone is a surrogate.
-/
namespace Restyle.Wide

/-- The order of the bytes of a unit. -/
inductive Order where
  /-- The least byte comes first. -/
  | leastFirst
  /-- The greatest byte comes first. -/
  | greatestFirst
deriving DecidableEq, Repr

/-- The number that the bytes of a unit make. -/
def Order.unit (order : Order) (bytes : List UInt8) : Nat :=
  let ordered := match order with
    | .leastFirst => bytes.reverse
    | .greatestFirst => bytes
  ordered.foldl (fun unit byte => unit * 256 + byte.toNat) 0

/-- The code points of units of two bytes. -/
def ofUnits : List Nat → Text
  | [] => []
  | high :: low :: rest =>
    if 0xD800 ≤ high ∧ high < 0xDC00 ∧ 0xDC00 ≤ low ∧ low < 0xE000 then
      .char (Char.ofNat (0x10000 + (high - 0xD800) * 1024 + (low - 0xDC00))) :: ofUnits rest
    else CodePoint.ofNat high :: ofUnits (low :: rest)
  | [unit] => [CodePoint.ofNat unit]

/-- The units of two bytes; none when a byte is left over. -/
def pairs? (order : Order) : List UInt8 → Option (List Nat)
  | [] => some []
  | a :: b :: rest => (pairs? order rest).map (order.unit [a, b] :: ·)
  | [_] => none

/-- Read units of two bytes; none when they are no text. -/
def decode16? (order : Order) (bytes : List UInt8) : Option Text :=
  (pairs? order bytes).map ofUnits

/-- Read units of four bytes; none when they are no text. -/
def decode32? (order : Order) : List UInt8 → Option Text
  | [] => some []
  | a :: b :: c :: d :: rest =>
    let code := order.unit [a, b, c, d]
    if code < 0x110000 then (decode32? order rest).map (CodePoint.ofNat code :: ·) else none
  | _ => none

end Restyle.Wide
