import Restyle.Http.Label

/-!
# Host names

A host name is a list of labels with dots between them. One with letters outside ASCII is sent in
ASCII, label by label. One that starts with a label which stands for letters outside ASCII is read
again, and all its labels have to stand for something.
-/
namespace Restyle

/-- Why a text is no host name. -/
inductive HostnameFault where
  /-- A label is not allowed. -/
  | label (fault : LabelFault)
  /-- The name is too long. -/
  | tooLong
deriving DecidableEq, Repr

/-- The wording of a fault. -/
def HostnameFault.message : HostnameFault → Text
  | .label fault => fault.message
  | .tooLong => "Domain too long".toText

namespace Hostname

/-- Whether a character stands between labels. -/
def isDot (c : CodePoint) : Bool := ".。．｡".toText.contains c

/-- Most characters of a name, a dot at its end apart. -/
def lengthLimit : Nat := 253

/-- The labels of a name, and whether a dot stands at its end. -/
def labelsOf (name : Text) : List Text × Bool :=
  let labels := Text.split isDot name
  if labels.getLast? == some [] then (labels.dropLast, true) else (labels, false)

/-- A name in small letters in ASCII. No name gets shorter in ASCII, so one that is too long is not
looked at. -/
def toAscii (name : Text) : Except HostnameFault Text := do
  if lengthLimit + 1 < name.length then .error .tooLong
  let (labels, isClosed) := labelsOf name
  let written ← (labels.mapM Label.toAscii).mapError .label
  let short := Text.join ['.'] written
  if lengthLimit < short.length then .error .tooLong
  return if isClosed then short ++ [.char '.'] else short

/-- Check that the labels of a name in ASCII stand for something, if the first one claims to. -/
def checkMeaning (name : Text) : Except HostnameFault Unit :=
  if !name.startsWith Label.asciiMark then .ok ()
  else if lengthLimit + 1 < name.length then .error .tooLong
  else ((labelsOf name).1.forM Label.checkWritten).mapError .label

/-- Whether a text can be a name with maybe a port behind it: it holds letters, digits, hyphens,
dots and colons. -/
def isPlain (place : Text) : Bool :=
  place.all fun c =>
    ('a' ≤ c && c ≤ 'z') || ('A' ≤ c && c ≤ 'Z') || Text.isAsciiDigit c ||
      [.char '-', .char '.', .char ':'].contains c

/-- Whether the labels of a name in ASCII have lengths that look-ups allow: none but the last
is empty, and none is too long. -/
def canBeLookedUp (name : Text) : Bool :=
  let labels := Text.split (· = .char '.') name
  labels.dropLast.all (!·.isEmpty) && labels.all (·.length ≤ Label.lengthLimit)

/-- Whether a text, maybe with a port behind it, is a name that cannot be looked up. What cannot
be a name at all is not looked up. -/
def isUnreachable (place : Text) : Bool :=
  isPlain place && !canBeLookedUp (place.takeWhile (· != .char ':'))

end Hostname

end Restyle
