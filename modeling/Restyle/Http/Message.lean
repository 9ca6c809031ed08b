import Restyle.Http.Target
import Restyle.Json.Body

/-!
# Messages of the agent

A request has a method, a target and maybe a body of some content type. A response has a status,
maybe a JSON body, and says whether pages of other origins may read it. Most statuses have a phrase
that names them.
-/
namespace Restyle

/-- A request. -/
structure Request where
  /-- The method, in capitals. -/
  method : Text
  /-- What it is aimed at. -/
  target : Target
  /-- The content type of the body. -/
  contentType : Option Text := none
  /-- The body. -/
  body : Option Text := none
deriving DecidableEq, Repr

/-- Why there is no request. -/
inductive RequestFault where
  /-- The target is none. -/
  | target (fault : TargetFault)
  /-- The content type does not stand in one line. -/
  | lineEnd
deriving DecidableEq, Repr

/-- The wording of a fault. -/
def RequestFault.message : RequestFault → Text
  | .target fault => fault.message
  | .lineEnd => "Header values must not contain newline characters.".toText

/-- The request with a method in letters of any case, for what a text is aimed at. -/
def Request.make (method target : Text) (contentType body : Option Text) :
    Except RequestFault Request := do
  let target ← (Target.read target).mapError .target
  if contentType.any fun value => value.contains '\n' || value.contains '\r' then .error .lineEnd
  return { method := method.map CodePoint.toUpper, target, contentType, body }

/-- A response. -/
structure Response where
  /-- The status. -/
  status : Nat
  /-- The body, if it is a JSON value. -/
  body : Option Json
  /-- Whether pages of other origins may read the response. -/
  shared : Bool

namespace Http

/-- The content type of JSON. -/
def jsonType : String := "application/json"

/-- Whether a content type is one of JSON. -/
def isJsonType (contentType : Text) : Bool :=
  let kind : Text := (Text.trim (contentType.takeWhile (· != .char ';'))).map Number.lower
  kind == jsonType.toText ||
    (kind.startsWith "application/".toText && kind.endsWith "+json".toText)

/-- The JSON value of a request's body; null when there is none. A body whose value stands inside
too many others has no answer. -/
def jsonOf (request : Request) : Except Json.Holder Json :=
  match request.contentType, request.body with
  | some contentType, some body =>
    if isJsonType contentType then
      match Json.readBody body with
      | .ok value => .ok value
      | .error .malformed => .ok .null
      | .error (.tooDeep holder) => .error holder
    else .ok .null
  | _, _ => .ok .null

/-- The statuses that have a phrase. -/
def phrases : List (Nat × String) :=
  [(100, "Continue"), (101, "Switching Protocols"), (102, "Processing"), (103, "Early Hints"),
   (200, "OK"), (201, "Created"), (202, "Accepted"), (203, "Non-Authoritative Information"),
   (204, "No Content"), (205, "Reset Content"), (206, "Partial Content"), (207, "Multi-Status"),
   (208, "Already Reported"), (226, "IM Used"),
   (300, "Multiple Choices"), (301, "Moved Permanently"), (302, "Found"), (303, "See Other"),
   (304, "Not Modified"), (305, "Use Proxy"), (307, "Temporary Redirect"),
   (308, "Permanent Redirect"),
   (400, "Bad Request"), (401, "Unauthorized"), (402, "Payment Required"), (403, "Forbidden"),
   (404, "Not Found"), (405, "Method Not Allowed"), (406, "Not Acceptable"),
   (407, "Proxy Authentication Required"), (408, "Request Timeout"), (409, "Conflict"),
   (410, "Gone"), (411, "Length Required"), (412, "Precondition Failed"),
   (413, "Request Entity Too Large"), (414, "Request-URI Too Long"),
   (415, "Unsupported Media Type"), (416, "Requested Range Not Satisfiable"),
   (417, "Expectation Failed"), (418, "I'm a teapot"), (421, "Misdirected Request"),
   (422, "Unprocessable Entity"), (423, "Locked"), (424, "Failed Dependency"),
   (425, "Too Early"), (426, "Upgrade Required"), (428, "Precondition Required"),
   (429, "Too Many Requests"), (431, "Request Header Fields Too Large"),
   (451, "Unavailable For Legal Reasons"),
   (500, "Internal Server Error"), (501, "Not Implemented"), (502, "Bad Gateway"),
   (503, "Service Unavailable"), (504, "Gateway Timeout"), (505, "HTTP Version Not Supported"),
   (506, "Variant Also Negotiates"), (507, "Insufficient Storage"), (508, "Loop Detected"),
   (510, "Not Extended"), (511, "Network Authentication Required")]

/-- The phrase of a status; empty for a status without one. -/
def phrase (status : Nat) : String := (phrases.lookup status).getD ""

end Http

end Restyle
