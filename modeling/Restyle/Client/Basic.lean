import Restyle.Change.Event
import Restyle.Http.Message
import Restyle.Http.Target
import Restyle.Http.Url
import Restyle.Json.Body

/-!
# The client

A client sends calls to an agent at a base URL. What carries a call is a transport, a function
on a state of its own, so that a client needs no network to be reasoned about. Whatever keeps a
call from an answer that is a JSON object is a fault. A change that the agent could not apply is
no fault: its answer is an object.
-/
namespace Restyle

/-- What is sent to an agent. -/
structure Call where
  /-- The method, in capitals. -/
  method : String
  /-- The URL. -/
  url : Url
  /-- The value in the body. -/
  body : Option Json := none

/-- Why a transport has no way to carry a call. -/
inductive CarriageFault where
  /-- There is no port that goes without saying for the scheme. -/
  | unknownScheme (scheme : Text)
  /-- Characters of the path, from a position on, stand for no byte. -/
  | wideCharacters (characters : Text) (position : Nat)
deriving DecidableEq, Repr

/-- The wording of a fault. -/
def CarriageFault.message : CarriageFault → Text
  | .unknownScheme scheme => Text.quoted scheme
  | .wideCharacters characters position =>
    let (what, place) : Text × Text := match characters with
      | [c] =>
        ("character '".toText ++ Text.codeEscape c.toNat ++ [.char '\''], Text.ofNat position)
      | _ => ("characters".toText,
          Text.ofNat position ++ .char '-' :: Text.ofNat (position + characters.length - 1))
    "'latin-1' codec can't encode ".toText ++ what ++ " in position ".toText ++ place ++
      ": ordinal not in range(256)".toText

/-- What becomes of a call. -/
inductive Reply where
  /-- The agent answers with a status and a text. -/
  | answered (status : Nat) (text : Text)
  /-- No answer in time. -/
  | late
  /-- The agent is not reached, or the connection breaks. -/
  | unreachable
  /-- The call is not carried. -/
  | uncarried (fault : CarriageFault)
deriving DecidableEq, Repr

/-- Carries calls. -/
abbrev Transport (σ : Type) := σ → Call → Reply × σ

/-- Why a call has no answer. -/
inductive ClientFault where
  /-- No answer in time. -/
  | late
  /-- The agent is not reached. -/
  | unreachable
  /-- The answer is no object. -/
  | notAnObject (status : Nat)
  /-- The agent failed. -/
  | agentFailed (detail : Text)
  /-- The detail that an answer brings has no text. -/
  | undisplayed (fault : Json.DisplayFault)
  /-- The value cannot be sent. -/
  | unsendable (fault : CoercionFault)
  /-- The base URL, or the URL of a call, is none. -/
  | badUrl (fault : UrlFault)
  /-- The host of a call stands for no name. -/
  | badName (fault : HostnameFault)
  /-- The answer comes from a URL without a scheme. -/
  | noScheme (url : Text)
  /-- The answer comes from a URL with a malformed host. -/
  | badHost (fault : TargetFault)
  /-- The call is not carried. -/
  | uncarried (fault : CarriageFault)
  /-- The answer holds a list or an object inside too many others. -/
  | tooDeep (holder : Json.Holder)
deriving DecidableEq, Repr

/-- The wording of a fault. -/
def ClientFault.message : ClientFault → Text
  | .late => "Request timeout - server not responding".toText
  | .unreachable => "Server connection failed - is server running?".toText
  | .notAnObject status =>
    "Server responded with ".toText ++ Text.ofNat status ++ ": ".toText ++
      (Http.phrase status).toText
  | .agentFailed detail => detail
  | .undisplayed fault => fault.message
  | .unsendable fault => fault.message
  | .badUrl fault => fault.message
  | .badName fault => fault.message
  | .noScheme url => "unknown url type: ".toText ++ Text.quoted url
  | .badHost fault => fault.message
  | .uncarried fault => fault.message
  | .tooDeep holder => (Json.Misread.tooDeep holder).message

/-- Whether a fault lies with the agent or the way to it. -/
def ClientFault.isAgents : ClientFault → Bool
  | .late | .unreachable | .notAnObject _ | .agentFailed _ => true
  | _ => false

/-- The members of the object that an answer brings. -/
def membersOfAnswer (status : Nat) (text : Text) : Except ClientFault (List (Text × Json)) :=
  match Json.readBody text with
  | .ok (.object members) =>
    if 500 ≤ status && (Json.member? members "success").isNone then
      match ((Json.member? members "error").map (Json.display Json.standardRoom)).getD
        (.ok text) with
      | .ok detail => .error (.agentFailed detail)
      | .error fault => .error (.undisplayed fault)
    else .ok members
  | .error (.tooDeep holder) => .error (.tooDeep holder)
  | _ => .error (.notAnObject status)

/-- The members of the object that the reply to a call of a URL brings. -/
def Reply.members (reply : Reply) (url : Url) : Except ClientFault (List (Text × Json)) :=
  match reply with
  | .late => .error .late
  | .unreachable => .error .unreachable
  | .uncarried fault => .error (.uncarried fault)
  | .answered status text =>
    if !url.namesScheme then .error (.noScheme url.shown)
    else match Target.Parts.ofText url.write with
      | .error fault => .error (.badHost fault)
      | .ok _ => membersOfAnswer status text

/-- A client of the agent at a base URL. -/
structure Client where
  /-- The base URL. A slash ends its path and query. -/
  base : Url

namespace Client

/-- The URL that an agent has unless it is told another one. -/
def standardUrl : String := "http://localhost:3001"

/-- The client of the agent at a URL. -/
def ofUrl (url : Text) : Except UrlFault Client := do
  let base ← Url.read url
  return ⟨← base.withSlash⟩

/-- The URL of a path of the agent. -/
def urlOf (client : Client) (path : String) : Except ClientFault Url :=
  (client.base.extend path).mapError .badUrl

/-- A call whose host stands for a name, if it claims to. -/
def checked (call : Call) : Except ClientFault Call :=
  ((Hostname.checkMeaning call.url.host).mapError .badName).map fun _ => call

/-- The call that asks for the status. -/
def statusCall (client : Client) : Except ClientFault Call := do
  checked ⟨"GET", ← client.urlOf "status", none⟩

/-- The call that configures a project. -/
def configureCall (client : Client) (root : Text) (mappings : OrderedMap Text Text) :
    Except ClientFault Call := do
  let value := Json.record [("projectPath", .string root),
    ("domainMappings", .object (mappings.mapValues .string).entries)]
  checked ⟨"POST", ← client.urlOf "set-project-configuration", some value⟩

/-- The call that sends the members that a value states. -/
def applyCall (client : Client) (value : Json) : Except ClientFault Call := do
  let pairs ← value.toPairs.mapError .unsendable
  let url ← client.urlOf "apply-css-change"
  let body ← (Json.ofPairs pairs).mapError .unsendable
  checked ⟨"POST", url, some body⟩

variable {σ : Type}

/-- Send a call over a transport. A call that there is not is not sent. -/
def send (transport : Transport σ) (state : σ) (call : Except ClientFault Call) :
    Except ClientFault (List (Text × Json)) × σ :=
  match call with
  | .error fault => (.error fault, state)
  | .ok call =>
    let (reply, state) := transport state call
    (reply.members call.url, state)

/-- Ask for the status. -/
def status (client : Client) (transport : Transport σ) (state : σ) :
    Except ClientFault (List (Text × Json)) × σ :=
  send transport state client.statusCall

/-- Configure a project. -/
def configure (client : Client) (transport : Transport σ) (state : σ) (root : Text)
    (mappings : OrderedMap Text Text) : Except ClientFault (List (Text × Json)) × σ :=
  send transport state (client.configureCall root mappings)

/-- Have the change applied that a value states. -/
def apply (client : Client) (transport : Transport σ) (state : σ) (value : Json) :
    Except ClientFault (List (Text × Json)) × σ :=
  send transport state (client.applyCall value)

/-- Have an event applied. -/
def applyEvent (client : Client) (transport : Transport σ) (state : σ) (event : Event) :
    Except ClientFault (List (Text × Json)) × σ :=
  client.apply transport state event.toJson

end Client

end Restyle
