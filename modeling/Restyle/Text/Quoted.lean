import Restyle.Text.Printable

/-!
# Quoted text

Messages and lists show a text between quotes. The single quote is used unless the text holds
single quotes and no double quote. Inside, the quote in use and the backslash follow a
backslash, line ends and tabs have letters of their own, and every other character that is not
printable is written by its code point in as few of two, four or eight hexadecimal digits as
hold it.
-/
namespace Restyle.Text

/-- A number in `width` lower-case hexadecimal digits. -/
def hex (width : Nat) (n : Nat) : Text :=
  let digits := (Nat.toDigits 16 n).map CodePoint.char
  List.replicate (width - digits.length) (.char '0') ++ digits

/-- The quote a text is shown in. -/
def quoteMark (text : Text) : CodePoint :=
  if text.contains '\'' && !text.contains '"' then '"' else '\''

/-- A character written by its code point. -/
def codeEscape (code : Nat) : Text :=
  if code ≤ 0xFF then .char '\\' :: .char 'x' :: hex 2 code
  else if code ≤ 0xFFFF then .char '\\' :: .char 'u' :: hex 4 code
  else .char '\\' :: .char 'U' :: hex 8 code

/-- A character as it stands between two quotes of the given kind. -/
def quotedChar (mark c : CodePoint) : Text :=
  if c = mark ∨ c = '\\' then [.char '\\', c]
  else if c = '\t' then ['\\', 't']
  else if c = '\n' then ['\\', 'n']
  else if c = '\r' then ['\\', 'r']
  else if isPrintable c then [c]
  else codeEscape c.toNat

/-- The text between quotes. -/
def quoted (text : Text) : Text :=
  let mark := quoteMark text
  mark :: text.flatMap (quotedChar mark) ++ [mark]

end Restyle.Text
