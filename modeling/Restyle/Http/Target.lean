import Restyle.Http.Address
import Restyle.Http.Percent
import Restyle.Http.Spelling

/-!
# Targets of requests

What a request is aimed at: a host, a path and maybe a query of named values. Most targets are
written as a path alone. One may also start with a scheme, and with a host behind two slashes; a
path that still looks as if it did is read a second time. Control characters in front of a target,
and tabs and line ends anywhere in it, are not read.
-/
namespace Restyle

/-- Why a text is no target. -/
inductive TargetFault where
  /-- The brackets of a host do not enclose it. -/
  | brackets
  /-- What stands in the brackets is no address. -/
  | badAddress (host : Text)
  /-- An address of four numbers stands in the brackets. -/
  | fourInBrackets
  /-- An address of a kind to come is malformed. -/
  | badFutureAddress
  /-- The host holds characters that stand for separators. -/
  | disguisedSeparator (host : Text)
  /-- The name of the host is not spelled in ASCII. -/
  | badName (fault : SpellingFault)
  /-- The port is no whole number. -/
  | badPort (port : Text)
  /-- The port has too many digits. -/
  | longPort (digits : Nat)
  /-- There is no such port. -/
  | portTooGreat
deriving DecidableEq, Repr

/-- The wording of a fault. -/
def TargetFault.message : TargetFault → Text
  | .brackets => "Invalid IPv6 URL".toText
  | .badAddress host => Text.quoted host ++ " does not appear to be an IPv4 or IPv6 address".toText
  | .fourInBrackets => "An IPv4 address cannot be in brackets".toText
  | .badFutureAddress => "IPvFuture address is invalid".toText
  | .disguisedSeparator host =>
    "netloc '".toText ++ host ++
      "' contains invalid characters under NFKC normalization".toText
  | .badName fault => fault.message
  | .badPort port =>
    "Port could not be cast to integer value as ".toText ++ Text.quoted port
  | .longPort digits => Json.tooManyDigitsMessage digits
  | .portTooGreat => "Port out of range 0-65535".toText

/-- What a request is aimed at. -/
structure Target where
  /-- The host with its port, and maybe a user before it. -/
  host : Text
  /-- The path, its escapes resolved. -/
  path : Text
  /-- The query as it is written; empty when there is none. -/
  query : Text := []
deriving DecidableEq, Repr

namespace Target

/-- The parts of a target as they are written. -/
structure Parts where
  /-- The scheme in small letters; empty when there is none. -/
  scheme : Text := []
  /-- What stands behind two slashes. -/
  host : Text := []
  /-- The path. -/
  path : Text := []
  /-- What stands behind a question mark. -/
  query : Text := []
deriving DecidableEq, Repr

/-- The text that is read of a target. -/
def visible (text : Text) : Text :=
  (text.dropWhile (·.toNat ≤ 0x20)).filter fun c =>
    !([.char '\t', .char '\n', .char '\r'].contains c)

/-- Whether a text can be a scheme. -/
def isScheme : Text → Bool
  | [] => false
  | c :: rest =>
    let isLetter (c : CodePoint) : Bool := ('a' ≤ c && c ≤ 'z') || ('A' ≤ c && c ≤ 'Z')
    isLetter c && rest.all fun c => isLetter c || Text.isAsciiDigit c ||
      [.char '+', .char '.', .char '-'].contains c

/-- What stands before the first of a mark, and what stands behind it. -/
def cutOff (mark : CodePoint) (text : Text) : Text × Text := (Text.cut? mark text).getD (text, [])

/-- Characters that stand for a separator when they are put into a compatible form. -/
def disguises : List Nat :=
  [0x2047, 0x2048, 0x2049, 0x2100, 0x2101, 0x2105, 0x2106, 0x2A74, 0xFE13, 0xFE16, 0xFE55,
   0xFE56, 0xFE5F, 0xFE6B, 0xFF03, 0xFF0F, 0xFF1A, 0xFF1F, 0xFF20]

/-- The name or the address of a host, and what stands behind its colon. A user before it is
not part of it. -/
def nameAndPort (host : Text) : Text × Text :=
  let address := Text.afterLast '@' host
  match Text.cut? '[' address with
  | some (_, bracketed) =>
    let (name, behind) := cutOff ']' bracketed
    (name, (cutOff ':' behind).2)
  | none => cutOff ':' address

/-- Check an address of a kind to come: the letter v, a number in hexadecimal, a point and
more. -/
def isFutureAddress (address : Text) : Bool :=
  match Text.cut? '.' (address.drop 1) with
  | some (version, more) =>
    !version.isEmpty && version.all (fun c => (Json.hexValue? c).isSome) && !more.isEmpty &&
      !more.contains '\n'
  | none => false

/-- Check what stands in the brackets of a host. -/
def checkBracketed (address : Text) : Except TargetFault Unit :=
  if address.startsWith ['v'] then
    if isFutureAddress address then .ok () else .error .badFutureAddress
  else if Address.isFour address then .error .fourInBrackets
  else if Address.isZoned address then .ok ()
  else .error (.badAddress address)

/-- Check the brackets of a host. -/
def checkBrackets (host : Text) : Except TargetFault Unit :=
  if host.contains '[' != host.contains ']' then .error .brackets
  else if !host.contains '[' then .ok ()
  else
    let address := Text.afterLast '@' host
    match Text.cut? '[' address with
    | none => checkBracketed (cutOff ':' address).1
    | some (before, bracketed) =>
      let (inside, behind) := cutOff ']' bracketed
      if !before.isEmpty || !(behind.isEmpty || Text.startsWith behind [.char ':']) then
        .error .brackets
      else checkBracketed inside

/-- Check what a host is written with. -/
def checkHost (host : Text) : Except TargetFault Unit := do
  checkBrackets host
  if host.any fun c => disguises.contains c.toNat then .error (.disguisedSeparator host)

/-- The parts of a text. -/
def Parts.ofText (text : Text) : Except TargetFault Parts := do
  let text := visible text
  let (scheme, rest) := match Text.cut? ':' text with
    | some (scheme, rest) => if isScheme scheme then (scheme.map Number.lower, rest) else ([], text)
    | none => ([], text)
  let isHostEnd (c : CodePoint) : Bool := "/?#".toText.contains c
  let (host, rest) : Text × Text := match rest with
    | '/' :: '/' :: behind => (behind.takeWhile (!isHostEnd ·), behind.dropWhile (!isHostEnd ·))
    | rest => ([], rest)
  checkHost host
  let (path, query) := cutOff '?' (cutOff '#' rest).1
  return { scheme, host, path, query }

/-- The name of a host in small letters, up to the zone of an address. -/
def smallName (name : Text) : Text :=
  let before := name.takeWhile (· != .char '%')
  Text.toSmall before ++ name.drop before.length

/-- The port that a text states; none for no port. -/
def portOf (port : Text) : Except TargetFault (Option Int) :=
  if port.isEmpty then .ok none
  else if !port.all Text.isAsciiDigit then .error (.badPort port)
  else match Number.readWhole port with
    | .value number => if number ≤ 65535 then .ok (some number) else .error .portTooGreat
    | .tooLong digits => .error (.longPort digits)
    | .malformed => .error (.badPort port)

/-- What a user's name holds that is not escaped. -/
def userHolds (c : CodePoint) : Bool := "!$&'()*+,;=".toText.contains c

/-- The user before a host, with an at sign behind it; nothing for a user without a name. -/
def userOf (host : Text) : Text :=
  let address := Text.afterLast '@' host
  let (name, password) := cutOff ':' (host.take (host.length - address.length - 1))
  let escape : Text → Text := Percent.escape userHolds
  if name.isEmpty then []
  else escape name ++ (if password.isEmpty then [] else .char ':' :: escape password) ++ [.char '@']

/-- A host in its normal form. -/
def normalHost (host : Text) : Except TargetFault Text := do
  let (name, port) := nameAndPort host
  let name ← (Spelling.ofName (smallName name)).mapError .badName
  let written := if name.contains ':' then .char '[' :: name ++ [.char ']'] else name
  let suffix ← portOf port
  let place := match suffix with
    | none | some 0 => written
    | some port => written ++ .char ':' :: Text.ofInt port
  return userOf host ++ place

/-- A path in its normal form: a scheme or a host that it starts with is put into normal form. -/
def normalPath (path : Text) : Except TargetFault Text := do
  let parts ← Parts.ofText path
  let host ← normalHost parts.host
  let rooted :=
    if host.isEmpty then parts.path
    else if parts.path.isEmpty || parts.path.startsWith ['/'] then
      .char '/' :: .char '/' :: host ++ parts.path
    else .char '/' :: .char '/' :: host ++ .char '/' :: parts.path
  return if parts.scheme.isEmpty then rooted else parts.scheme ++ .char ':' :: rooted

/-- A host without the port that goes without saying for its scheme. -/
def withoutStandardPort (scheme host : Text) : Text :=
  let ending (schemes : List String) (port : String) : Bool :=
    schemes.contains (Text.toString scheme) && host.endsWith port.toText
  if ending ["http", "ws"] ":80" then host.take (host.length - 3)
  else if ending ["https", "wss"] ":443" then host.take (host.length - 4)
  else host

/-- The target that a text writes. -/
def read (text : Text) : Except TargetFault Target := do
  let outer ← Parts.ofText text
  let inner ← Parts.ofText
    (outer.path ++ if outer.query.isEmpty then [] else .char '?' :: outer.query)
  let path ← normalPath inner.path
  let host ← normalHost (if outer.host.isEmpty then "localhost".toText else outer.host)
  checkBrackets host
  let scheme := if outer.scheme.isEmpty then "http".toText else outer.scheme
  return ⟨withoutStandardPort scheme host, Percent.decode path, inner.query⟩

/-- The path with one slash at its front; an empty one has none. -/
def rootedPath (target : Target) : Text :=
  if target.path.isEmpty then [] else .char '/' :: target.path.dropWhile (· = .char '/')

/-- A text of a query: a plus sign is a space. -/
def decodeQuery (text : Text) : Text :=
  Percent.decode (text.map fun c => if c = .char '+' then .char ' ' else c)

/-- The named values of the query, in order. -/
def values (target : Target) : List (Text × Text) :=
  (Text.splitNonempty (· = .char '&') target.query).map fun part =>
    let (name, value) := cutOff '=' part
    (decodeQuery name, decodeQuery value)

end Target

end Restyle
