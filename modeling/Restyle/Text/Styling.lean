import Restyle.Text.Basic

/-!
# Styling marks

A terminal takes some marks in a text as orders, not as text: the escape character, an opening
bracket, parameters, intermediate characters and one final character. Output that is not meant
for a terminal goes without them. An escape character that starts no whole mark is text.
-/
namespace Restyle.Text

/-- Whether a character may be a parameter of a mark. -/
def isMarkParameter (c : CodePoint) : Bool := 0x30 ≤ c.toNat && c.toNat ≤ 0x3F

/-- Whether a character may stand between the parameters and the end of a mark. -/
def isMarkIntermediate (c : CodePoint) : Bool := 0x20 ≤ c.toNat && c.toNat ≤ 0x2F

/-- Whether a character ends a mark. -/
def isMarkFinal (c : CodePoint) : Bool := 0x40 ≤ c.toNat && c.toNat ≤ 0x7E

/-- How many characters of a text belong to the mark whose escape character stands before it;
none when that starts no whole mark. -/
def markLength? : Text → Option Nat
  | '[' :: rest =>
    let after := (rest.dropWhile isMarkParameter).dropWhile isMarkIntermediate
    if (after.head?.map isMarkFinal).getD false then some (rest.length - after.length + 2)
    else none
  | _ => none

/-- The text without its styling marks; its first `skipped` characters belong to one. -/
def plainAfter (skipped : Nat) : Text → Text
  | [] => []
  | c :: rest =>
    match skipped with
    | more + 1 => plainAfter more rest
    | 0 =>
      if c = '\x1b' then
        match markLength? rest with
        | some length => plainAfter length rest
        | none => c :: plainAfter 0 rest
      else c :: plainAfter 0 rest

/-- The text without its styling marks. -/
def plain (text : Text) : Text := plainAfter 0 text

end Restyle.Text
