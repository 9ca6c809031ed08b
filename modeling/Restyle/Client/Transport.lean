import Restyle.Agent.Routes
import Restyle.Client.Basic
import Restyle.Json.Writer

/-!
# Transports

The calls of a client are carried by a transport. One is a script, whose replies are laid down
beforehand and that keeps the calls it carried. Another is an agent in the same program: each call
becomes a request, and the response becomes the reply. The members of objects are put in the order
of their names on the way. The path of a request is held in bytes, one for each character of the
path of the call, which are read as a text in UTF-8 again.
-/
namespace Restyle

/-- Replies to come, and calls that were carried. -/
structure Script where
  /-- The replies to come; past them the agent is not reached. -/
  replies : List Reply
  /-- The calls, first one first. -/
  calls : List Call := []

/-- Carry a call. -/
def Script.carry (script : Script) (call : Call) : Reply × Script :=
  (script.replies.headD .unreachable,
    { replies := script.replies.drop 1, calls := script.calls ++ [call] })

/-- The first characters of a path that stand for no byte, with their position. -/
def wideCharacters? (path : Text) : Option (Text × Nat) :=
  let isByte (c : CodePoint) : Bool := c.toNat < 256
  match path.dropWhile isByte with
  | [] => none
  | wide => some (wide.takeWhile (!isByte ·), path.length - wide.length)

/-- What the request for a URL is aimed at. -/
def Url.requestTarget (url : Url) : Except CarriageFault Target := do
  if (url.port.getD 0) = 0 && url.scheme != "http".toText && url.scheme != "https".toText then
    .error (.unknownScheme url.scheme)
  let path := Percent.decode (if url.path.isEmpty then ['/'] else url.path)
  match wideCharacters? path with
  | some (characters, position) => .error (.wideCharacters characters position)
  | none =>
    let bytes := path.map fun c => UInt8.ofNat c.toNat
    return ⟨url.place, Utf8.decodeLoosely bytes, url.query.getD []⟩

/-- The request of a call. -/
def Call.request (call : Call) : Except CarriageFault Request := do
  return {
    method := call.method.toText
    target := ← call.url.requestTarget
    contentType := call.body.map fun _ => Http.jsonType.toText
    body := call.body.map Json.write }

/-- The reply of a response. -/
def Response.reply (response : Response) : Reply :=
  .answered response.status ((response.body.map fun value => value.sorted.write).getD [])

/-- The transport to an agent at hand. -/
def Agent.carry (agent : Agent) (call : Call) : Reply × Agent :=
  match call.request with
  | .error fault => (.uncarried fault, agent)
  | .ok request =>
    let (response, agent) := agent.handle request
    (response.reply, agent)

end Restyle
