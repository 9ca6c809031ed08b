import Restyle.Json.Reader
import Restyle.Text.Utf8

/-!
# Percent escapes

Any byte of a text in UTF-8 may be written as a percent sign and two hexadecimal digits. A percent
sign that starts no escape stands for itself, and so a percent sign is never escaped.
-/
namespace Restyle.Percent

/-- The characters that are never escaped. -/
def isUnreserved (c : CodePoint) : Bool :=
  Text.isAsciiDigit c || ('a' ≤ c && c ≤ 'z') || ('A' ≤ c && c ≤ 'Z') ||
    [.char '-', .char '.', .char '_', .char '~', .char '%'].contains c

/-- A hexadecimal digit. -/
def hexDigit (digit : Nat) : CodePoint :=
  Char.ofNat (if digit < 10 then '0'.toNat + digit else 'A'.toNat + (digit - 10))

/-- The escape of a byte. -/
def escapeByte (byte : UInt8) : Text :=
  [.char '%', hexDigit (byte.toNat / 16), hexDigit (byte.toNat % 16)]

/-- A text whose characters are escaped unless they are unreserved or safe. -/
def escape (isSafe : CodePoint → Bool) (text : Text) : Text :=
  text.flatMap fun c =>
    if isUnreserved c || isSafe c then [c] else (Utf8.bytes [c]).flatMap escapeByte

/-- The bytes of a text whose escapes stand for bytes. -/
def unescape : Text → List UInt8
  | '%' :: a :: b :: rest =>
    match Json.hexValue? a, Json.hexValue? b with
    | some high, some low => UInt8.ofNat (high * 16 + low) :: unescape rest
    | _, _ => Utf8.bytes [.char '%'] ++ unescape (a :: b :: rest)
  | c :: rest => Utf8.bytes [c] ++ unescape rest
  | [] => []

/-- A text with its escapes resolved. -/
def decode (text : Text) : Text := Utf8.decodeLoosely (unescape text)

end Restyle.Percent
