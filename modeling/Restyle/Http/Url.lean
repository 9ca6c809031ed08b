import Restyle.Http.Address
import Restyle.Http.Hostname
import Restyle.Http.Percent

/-!
# URLs

A URL has a scheme, a user, a host, a port, a path, a query and a fragment, most of which may be
missing. It is kept in its normal form: scheme and host in small letters, characters that a part
does not hold escaped, no port that goes without saying, and no `.` and `..` components in the
path. What has no normal form is no URL. A URL may be extended by a longer path.
-/
namespace Restyle

/-- Why a text is no URL. -/
inductive UrlFault where
  /-- The text is too long. -/
  | tooLong
  /-- A part is too long. -/
  | partTooLong (part : String)
  /-- A control character stands at a position. -/
  | control (c : CodePoint) (position : Nat)
  /-- The port is no whole number. -/
  | badPort (port : Text)
  /-- The host looks like an address of four numbers, but is none. -/
  | badFour (host : Text)
  /-- The host stands in brackets, but is no address of eight groups. -/
  | badEight (host : Text)
  /-- The host is a name that cannot be written in ASCII. -/
  | badName (host : Text)
  /-- A path behind a host does not start with a slash. -/
  | pathNotRooted
  /-- A path without a scheme and a host starts with two slashes. -/
  | pathLikeHost
  /-- A path without a scheme and a host starts with a colon. -/
  | pathLikeScheme
deriving DecidableEq, Repr

/-- The wording of a fault. -/
def UrlFault.message : UrlFault → Text
  | .tooLong => "URL too long".toText
  | .partTooLong part => ("URL component '" ++ part ++ "' too long").toText
  | .control c position =>
    "Invalid non-printable ASCII character in URL, ".toText ++ Text.quoted [c] ++
      " at position ".toText ++ Text.ofNat position ++ [.char '.']
  | .badPort port => "Invalid port: ".toText ++ Text.quoted port
  | .badFour host => "Invalid IPv4 address: ".toText ++ Text.quoted host
  | .badEight host => "Invalid IPv6 address: ".toText ++ Text.quoted host
  | .badName host => "Invalid IDNA hostname: ".toText ++ Text.quoted host
  | .pathNotRooted => "For absolute URLs, path must be empty or begin with '/'".toText
  | .pathLikeHost => "Relative URLs cannot have a path starting with '//'".toText
  | .pathLikeScheme => "Relative URLs cannot have a path starting with ':'".toText

/-- A URL in its normal form. -/
structure Url where
  /-- The scheme; empty when there is none. -/
  scheme : Text
  /-- The user, maybe with a password after a colon; empty when there is none. -/
  user : Text
  /-- The host; empty when there is none. -/
  host : Text
  /-- The port, unless it goes without saying. -/
  port : Option Int
  /-- The path. -/
  path : Text
  /-- The query. -/
  query : Option Text
  /-- The fragment. -/
  fragment : Option Text
deriving DecidableEq, Repr

namespace Url

/-- The parts of a URL as they are written. -/
structure Parts where
  /-- What stands before the first colon, if it can be a scheme. -/
  scheme : Text := []
  /-- What stands behind two slashes. -/
  authority : Text := []
  /-- The path. -/
  path : Text := []
  /-- What stands behind a question mark. -/
  query : Option Text := none
  /-- What stands behind a hash sign. -/
  fragment : Option Text := none
deriving DecidableEq, Repr

/-- Most characters of a URL and of each of its parts. -/
def lengthLimit : Nat := 65536

/-- Whether a text can be a scheme. -/
def isScheme : Text → Bool
  | [] => true
  | c :: rest =>
    let isLetter (c : CodePoint) : Bool := ('a' ≤ c && c ≤ 'z') || ('A' ≤ c && c ≤ 'Z')
    isLetter c && rest.all fun c => isLetter c || Text.isAsciiDigit c ||
      [.char '+', .char '.', .char '-'].contains c

/-- What stands before the first of a mark in a text, and what stands behind it, if it is there. -/
def cutOff (mark : CodePoint) (text : Text) : Text × Option Text :=
  match Text.cut? mark text with
  | some (before, after) => (before, some after)
  | none => (text, none)

/-- The parts of a text. -/
def Parts.ofText (text : Text) : Parts :=
  let (scheme, rest) := match Text.cut? ':' text with
    | some (scheme, rest) => if isScheme scheme then (scheme, rest) else ([], text)
    | none => ([], text)
  let (rest, fragment) := cutOff '#' rest
  let (rest, query) := cutOff '?' rest
  match rest with
  | '/' :: '/' :: behind =>
    let authority := behind.takeWhile (· != .char '/')
    { scheme, authority, path := behind.drop authority.length, query, fragment }
  | path => { scheme, path, query, fragment }

/-- The user, the host and the port of an authority. -/
def splitAuthority (authority : Text) : Text × Text × Text :=
  let address := Text.afterLast '@' authority
  let user := authority.take (authority.length - address.length - 1)
  let closed := (address.reverse.dropWhile (· != .char ']')).reverse
  let host : Text :=
    if address.startsWith ['['] && !closed.isEmpty then closed
    else address.takeWhile (· != .char ':')
  let behind := address.drop host.length
  (user, host, if Text.startsWith behind [.char ':'] then behind.drop 1 else behind)

/-- Whether a part may hold a printable ASCII character. -/
def holds (others : String) (c : CodePoint) : Bool :=
  0x20 < c.toNat && c.toNat < 0x7F &&
    !([.char '"', .char '#', .char '<', .char '>'].contains c || others.toText.contains c)

/-- What a path holds. -/
def pathHolds : CodePoint → Bool := holds "?`\x7b\x7d"

/-- What a query holds. -/
def queryHolds : CodePoint → Bool := holds ""

/-- What a fragment holds. -/
def fragmentHolds (c : CodePoint) : Bool := c = '#' || holds "`" c

/-- What a user holds. -/
def userHolds : CodePoint → Bool := holds "?`\x7b\x7d/;=@[\\]^|"

/-- What the name of a host holds. -/
def hostHolds (c : CodePoint) : Bool := "!$&'()*+,;=\"`\x7b\x7d%|\\".toText.contains c

/-- The port that goes without saying for a scheme. -/
def standardPort? (scheme : Text) : Option Int :=
  [("ftp", 21), ("http", 80), ("https", 443), ("ws", 80), ("wss", 443)].lookup
    (Text.toString scheme)

/-- A host in its normal form, without the brackets of an address. -/
def normalHost (host : Text) : Except UrlFault Text :=
  if Address.looksLikeFour host then
    if Address.isFour host then .ok host else .error (.badFour host)
  else if host.startsWith ['['] && host.endsWith [']'] then
    let address := (host.drop 1).dropLast
    if Address.isZoned address then .ok address else .error (.badEight host)
  else if host.all (·.toNat < 0x80) then .ok (Percent.escape hostHolds (host.map Number.lower))
  else (Hostname.toAscii (Text.toSmall host)).mapError fun _ => .badName host

/-- A port in its normal form. -/
def normalPort (scheme port : Text) : Except UrlFault (Option Int) :=
  if port.isEmpty then .ok none
  else match Number.readWhole port with
    | .value number => .ok (if standardPort? scheme = some number then none else some number)
    | _ => .error (.badPort port)

/-- The components of a path without those that stay in a folder or go up from it; `kept` holds
the earlier ones, last one first. -/
def settle (kept : List Text) : List Text → List Text
  | [] => kept.reverse
  | ['.'] :: rest => settle kept rest
  | ['.', '.'] :: rest => settle (if kept = [[]] then kept else kept.drop 1) rest
  | step :: rest => settle (step :: kept) rest

/-- A path in its normal form. -/
def normalPath (path : Text) : Text := Text.join ['/'] (settle [] (Text.split (· = .char '/') path))

/-- Why a path cannot stand behind what comes before it. -/
def pathFault? (hasScheme hasHost : Bool) (path : Text) : Option UrlFault :=
  if hasHost then
    if path.isEmpty || path.startsWith ['/'] then none else some .pathNotRooted
  else if hasScheme then none
  else if path.startsWith ['/', '/'] then some .pathLikeHost
  else if path.startsWith [':'] then some .pathLikeScheme
  else none

/-- The URL that parts make. -/
def ofParts (parts : Parts) : Except UrlFault Url := do
  let scheme := parts.scheme.map Number.lower
  let (user, name, number) := splitAuthority parts.authority
  let user := Percent.escape userHolds user
  let host ← normalHost name
  let port ← normalPort scheme number
  let hasHost := !user.isEmpty || !host.isEmpty || port.isSome
  match pathFault? (!scheme.isEmpty) hasHost parts.path with
  | some fault => .error fault
  | none =>
    let path := if hasHost || !scheme.isEmpty then normalPath parts.path else parts.path
    return {
      scheme, user, host, port
      path := Percent.escape pathHolds path
      query := parts.query.map (Percent.escape queryHolds)
      fragment := parts.fragment.map (Percent.escape fragmentHolds) }

/-- Whether a character is an ASCII control character. -/
def isControl (c : CodePoint) : Bool := c.toNat < 0x20 || c.toNat = 0x7F

/-- The URL that a text writes. -/
def read (text : Text) : Except UrlFault Url :=
  if lengthLimit < text.length then .error .tooLong
  else match text.find? isControl with
    | some c => .error (.control c (text.takeWhile (· != c)).length)
    | none => ofParts (.ofText text)

/-- The host and the port as they are written. -/
def place (url : Url) : Text :=
  (if url.host.contains ':' then .char '[' :: url.host ++ [.char ']'] else url.host) ++
    ((url.port.map fun port => .char ':' :: Text.ofInt port).getD [])

/-- The user, the host and the port as they are written. -/
def authority (url : Url) : Text :=
  (if url.user.isEmpty then [] else url.user ++ [.char '@']) ++ url.place

/-- The path and the query as they are written; no path is that of the top. -/
def target (url : Url) : Text :=
  (if url.path.isEmpty then [.char '/'] else url.path) ++
    ((url.query.map fun query => .char '?' :: query).getD [])

/-- The text of a URL. -/
def write (url : Url) : Text :=
  (if url.scheme.isEmpty then [] else url.scheme ++ [.char ':']) ++
    (if url.authority.isEmpty then [] else .char '/' :: .char '/' :: url.authority) ++ url.path ++
    ((url.query.map fun query => .char '?' :: query).getD []) ++
    ((url.fragment.map fun fragment => .char '#' :: fragment).getD [])

/-- The text of a URL without the mark of an empty fragment. -/
def shown (url : Url) : Text :=
  if url.write.endsWith ['#'] then url.write.dropLast else url.write

/-- Whether the text of a URL, up to the last hash sign, starts with what can be taken for a
scheme: a colon behind other characters, of which none is a slash. -/
def namesScheme (url : Url) : Bool :=
  let text := url.write
  let last := Text.afterLast '#' text
  let unmarked := if text.contains '#' then text.take (text.length - last.length - 1) else text
  match Text.cut? ':' unmarked with
  | some (before, _) => !before.isEmpty && !before.contains '/'
  | none => false

/-- The part that is too long, if there is one. -/
def tooLong? (parts : Parts) : Option String :=
  let named : List (String × Text) :=
    [("scheme", parts.scheme), ("authority", parts.authority), ("path", parts.path),
      ("query", parts.query.getD []), ("fragment", parts.fragment.getD [])]
  (named.find? fun part => lengthLimit < part.2.length).map Prod.fst

/-- The URL with another path and query. -/
def withTarget (url : Url) (target : Text) : Except UrlFault Url :=
  let (path, query) := cutOff '?' target
  let parts : Parts :=
    { scheme := url.scheme, authority := url.authority, path, query, fragment := url.fragment }
  match tooLong? parts with
  | some part => .error (.partTooLong part)
  | none => ofParts parts

/-- The URL with a slash at the end of its path and query. -/
def withSlash (url : Url) : Except UrlFault Url :=
  if url.target.endsWith ['/'] then .ok url else url.withTarget (url.target ++ [.char '/'])

/-- The URL with more behind its path and query. -/
def extend (url : Url) (path : String) : Except UrlFault Url :=
  url.withTarget (url.target ++ path.toText)

end Url

end Restyle
