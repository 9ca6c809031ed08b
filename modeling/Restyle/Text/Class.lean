import Restyle.Text.Basic

/-!
# Classes of characters

A class of characters is given by the ranges of its code points in increasing order. Two classes
are here: the blanks, which trimming removes and which separate words, and the decimal digits. The
blanks are those of ASCII, its four information separators, and the space and line separators of
Unicode. A decimal digit is a character of the Unicode general category Nd; each script's digits
are ten neighbouring code points in increasing value, so their table holds the zeros alone. Larger
classes have modules of their own.
-/
namespace Restyle.Text

/-- First and last code point of each range, in increasing order. -/
abbrev Ranges := List (Nat × Nat)

/-- Whether a range holds the code point; the search ends at the first range above it. -/
def Ranges.holds : Ranges → Nat → Bool
  | [], _ => false
  | (first, last) :: rest, code =>
    if code < first then false
    else if code ≤ last then true
    else Ranges.holds rest code

/-- The blank code points. -/
def blankRanges : Ranges :=
  [(0x9, 0xD), (0x1C, 0x20), (0x85, 0x85), (0xA0, 0xA0), (0x1680, 0x1680), (0x2000, 0x200A),
   (0x2028, 0x2029), (0x202F, 0x202F), (0x205F, 0x205F), (0x3000, 0x3000)]

/-- Whether a character is blank. -/
def isBlank (c : CodePoint) : Bool := blankRanges.holds c.toNat

/-- The text without the blanks at its front. -/
def trimStart (text : Text) : Text := text.dropWhile isBlank

/-- The text without the blanks at its end. -/
def trimEnd (text : Text) : Text := (text.reverse.dropWhile isBlank).reverse

/-- The text without the blanks at its two ends. -/
def trim (text : Text) : Text := trimEnd (trimStart text)

/-- Whether nothing but blanks is in the text. -/
def isBlankText (text : Text) : Bool := text.all isBlank

/-- The words of a text, which blank runs separate. -/
def words (text : Text) : List Text := splitNonempty isBlank text

/-- The text with every blank run made one space and the blanks at its ends removed. -/
def collapse (text : Text) : Text := join [' '] (words text)

/-- The code points of the digit zero of every script, in increasing order. -/
def digitZeros : List Nat :=
  [0x30, 0x660, 0x6F0, 0x7C0, 0x966, 0x9E6, 0xA66, 0xAE6, 0xB66, 0xBE6, 0xC66, 0xCE6, 0xD66,
   0xDE6, 0xE50, 0xED0, 0xF20, 0x1040, 0x1090, 0x17E0, 0x1810, 0x1946, 0x19D0, 0x1A80, 0x1A90,
   0x1B50, 0x1BB0, 0x1C40, 0x1C50, 0xA620, 0xA8D0, 0xA900, 0xA9D0, 0xA9F0, 0xAA50, 0xABF0,
   0xFF10, 0x104A0, 0x10D30, 0x11066, 0x110F0, 0x11136, 0x111D0, 0x112F0, 0x11450, 0x114D0,
   0x11650, 0x116C0, 0x11730, 0x118E0, 0x11950, 0x11C50, 0x11D50, 0x11DA0, 0x16A60, 0x16AC0,
   0x16B50, 0x1D7CE, 0x1D7D8, 0x1D7E2, 0x1D7EC, 0x1D7F6, 0x1E140, 0x1E2F0, 0x1E950, 0x1FBF0]

/-- The value of a decimal digit of any script. -/
def digitValue? (c : CodePoint) : Option Nat :=
  (digitZeros.find? fun first => first ≤ c.toNat && c.toNat < first + 10).map (c.toNat - ·)

/-- Whether a character is a decimal digit of any script. -/
def isDigit (c : CodePoint) : Bool := (digitValue? c).isSome

/-- Whether a character is one of the ASCII digits. -/
def isAsciiDigit (c : CodePoint) : Bool := '0' ≤ c && c ≤ '9'

/-- The number a list of digit values writes, most significant first. -/
def numberOfDigits (digits : List Nat) : Nat := digits.foldl (10 * · + ·) 0

end Restyle.Text
