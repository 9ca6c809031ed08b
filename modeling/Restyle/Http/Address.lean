import Restyle.Json.Reader

/-!
# Addresses

A host may be given by the number of its address: four decimal numbers, or eight groups of
hexadecimal digits of which one run of zeros may be left out.
-/
namespace Restyle.Address

/-- Whether a text is a decimal number below 256 without needless zeros. -/
def isOctet (text : Text) : Bool :=
  !text.isEmpty && text.length ≤ 3 && text.all Text.isAsciiDigit &&
    (text == [.char '0'] || text.head? != some (.char '0')) && Number.ofAsciiDigits text < 256

/-- Whether a text is an address of four numbers. -/
def isFour (text : Text) : Bool :=
  let pieces := Text.split (· = .char '.') text
  pieces.length == 4 && pieces.all isOctet

/-- Whether a text looks like an address of four numbers: four runs of digits with points between
them. -/
def looksLikeFour (text : Text) : Bool :=
  let pieces := Text.split (· = .char '.') text
  pieces.length == 4 && pieces.all fun piece => !piece.isEmpty && piece.all Text.isAsciiDigit

/-- Whether a text is a group of an address of eight groups. -/
def isGroup (text : Text) : Bool :=
  !text.isEmpty && text.length ≤ 4 && text.all fun c => (Json.hexValue? c).isSome

/-- Groups of which the last may be an address of four numbers, which stands for two groups. -/
def groupsOf? (pieces : List Text) : Option (List Text) :=
  let last := pieces.getLastD []
  if last.contains '.' then
    if isFour last then some (pieces.dropLast ++ [[.char '0'], [.char '0']]) else none
  else some pieces

/-- The places of the groups that are left out, the two ends apart. -/
def gapsOf (groups : List Text) : List Nat :=
  (List.range' 1 (groups.length - 2)).filter fun place => (groups[place]?.getD [.char '0']).isEmpty

/-- Whether the groups on one side of a gap are groups; an empty one says that the gap is at an
end. -/
def areGroups (groups : List Text) : Bool := groups == [[]] || groups.all isGroup

/-- Whether a text is an address of eight groups. -/
def isEight (text : Text) : Bool :=
  let pieces := Text.split (· = .char ':') text
  match groupsOf? pieces with
  | none => false
  | some groups =>
    if pieces.length < 3 || 9 < groups.length then false
    else match gapsOf groups with
      | [] => groups.length == 8 && groups.all isGroup
      | [gap] =>
        let before := groups.take gap
        let after := groups.drop (gap + 1)
        areGroups before && areGroups after &&
          ((before ++ after).filter (!·.isEmpty)).length < 8
      | _ => false

/-- Whether a text is an address of eight groups, maybe with a zone after a percent sign. -/
def isZoned (text : Text) : Bool :=
  match Text.cut? '%' text with
  | none => isEight text
  | some (address, zone) => !zone.isEmpty && !zone.contains '%' && isEight address

end Restyle.Address
