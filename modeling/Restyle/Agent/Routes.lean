import Restyle.Agent.Basic

/-!
# Routes of the agent

The agent answers at five paths. Two are read: the status and the activity. Three are written:
the project path, the project configuration and a change. Each path answers the question which
methods it knows; other methods and other paths are refused, and those refusals are not shared
with other origins. Below `/static/` plain files would be read, of which an agent has none; slashes
side by side in such a path count as one, to which the agent then points.
-/
namespace Restyle

/-- A path of the agent. -/
inductive Route where
  /-- What the agent has indexed. -/
  | status
  /-- What happened lately. -/
  | activity
  /-- Set the project path. -/
  | projectPath
  /-- Set the project path and the domain mappings. -/
  | projectConfiguration
  /-- Apply a change. -/
  | change
deriving DecidableEq, Repr

namespace Route

/-- All routes. -/
def all : List Route := [.status, .activity, .projectPath, .projectConfiguration, .change]

/-- The path of a route. -/
def path : Route → String
  | .status => "/status"
  | .activity => "/activity"
  | .projectPath => "/set-project-path"
  | .projectConfiguration => "/set-project-configuration"
  | .change => "/apply-css-change"

/-- Whether a route is read, not written. -/
def isRead : Route → Bool
  | .status | .activity => true
  | _ => false

/-- The route of a path. -/
def ofPath? (path : Text) : Option Route := all.find? fun route => route.path.toText == path

end Route

namespace Agent

/-- A response with a body that is shared. -/
def respond (status : Nat) (members : List (String × Json)) : Response :=
  ⟨status, some (Json.record members), true⟩

/-- A response that says what went wrong. -/
def complain (status : Nat) (error : Text) : Response :=
  respond status [("success", .bool false), ("error", .string error)]

/-- A response without a body that is shared. -/
def plain (status : Nat) : Response := ⟨status, none, true⟩

/-- A response that is not shared. -/
def refuse (status : Nat) : Response := ⟨status, none, false⟩

/-- The members of the value that states the status of an agent. -/
def statusMembers (agent : Agent) : List (String × Json) :=
  ("status", .ofString "running") :: agent.shared.service.statusMembers ++
    [("pending", .ofNat agent.queue.pending)]

/-- The limit that a query asks for, if it is a whole number. -/
def limitOf (target : Target) : Option Int :=
  match target.values.find? fun entry => entry.1 = "limit".toText with
  | none => none
  | some (_, value) =>
    match Number.readWhole value with
    | .value n => some n
    | _ => none

/-- Answer with the latest activity. -/
def activity (agent : Agent) (target : Target) : Response :=
  let limit := limitOf target
  if limit.any (· < 1) then complain 400 "limit must be a positive integer".toText
  else
    respond 200 [("entries", .list ((agent.shared.log.latest limit).map Json.record))]

/-- Configure a project through the queue. -/
def configure (agent : Agent) (path : Json) (mappings : List (Text × Json)) : Response × Agent :=
  let (submitted, agent) := agent.submit (.configure path mappings)
  let response :=
    match submitted with
    | .done (.configured (.ok count)) =>
      let service := agent.shared.service
      respond 200 [("success", .bool true), ("path", Json.ofText? service.root),
        ("filesLoaded", .ofNat count),
        ("domainMappings", .object (service.mappings.mapValues .string).entries)]
    | .done (.configured (.error (.configuration fault))) => complain 400 fault.message
    | .late => complain 504 "Timed out while indexing".toText
    | _ => plain 500
  (response, agent)

/-- The members of a body that may be missing; none of a body that is no object. -/
def membersOf (body : Json) : Option (List (Text × Json)) :=
  match body with
  | .object members => some members
  | other => if other.isGiven then none else some []

/-- Set the project path that a body states. -/
def setPath (agent : Agent) (body : Json) : Response × Agent :=
  match membersOf body with
  | none => (plain 500, agent)
  | some members =>
    let path := Json.memberOrNull members "path"
    if path.isGiven then agent.configure path []
    else (complain 400 "Path is required".toText, agent)

/-- Set the project path and the domain mappings that a body states. -/
def setConfiguration (agent : Agent) (body : Json) : Response × Agent :=
  match membersOf body with
  | none => (plain 500, agent)
  | some members =>
    let project := Json.memberOrNull members "projectPath"
    let path := if project.isGiven then project else Json.memberOrNull members "rootPath"
    if !path.isGiven then (complain 400 "Path is required".toText, agent)
    else
      let mappings := Json.memberOrNull members "domainMappings"
      match mappings with
      | .object mapped => agent.configure path mapped
      | other =>
        if other.isGiven then (complain 400 "domainMappings must be an object".toText, agent)
        else agent.configure path []

/-- Whether a reason lies with the client. -/
def isClients : Reason → Bool
  | .invalidEvent | .notConfigured => true
  | _ => false

/-- Apply the change that a body states. -/
def change (agent : Agent) (body : Json) : Response × Agent :=
  let (submitted, agent) := agent.submit (.apply body)
  let response :=
    match submitted with
    | .done (.applied result) =>
      respond (if result.reason?.any isClients then 400 else 200) result.members
    | .late => complain 504 "Timed out waiting for queued change".toText
    | _ => plain 500
  (response, agent)

/-- Answer a route that is read. -/
def readRoute (agent : Agent) (route : Route) (target : Target) : Response :=
  match route with
  | .activity => agent.activity target
  | _ => respond 200 agent.statusMembers

/-- Answer a route that is written. -/
def writeRoute (agent : Agent) (route : Route) (body : Json) : Response × Agent :=
  match route with
  | .projectPath => agent.setPath body
  | .projectConfiguration => agent.setConfiguration body
  | _ => agent.change body

/-- Whether a path is one of plain files: their names start with no slash and go on in one
line. -/
def isPlainFile (path : Text) : Bool :=
  let folder := "/static/".toText
  path.startsWith folder && match path.drop folder.length with
    | [] => false
    | first :: rest => first != '/' && !rest.contains '\n'

/-- A path with one slash in the place of those that stand side by side. -/
def mergeSlashes : Text → Text
  | '/' :: '/' :: rest => mergeSlashes (.char '/' :: rest)
  | c :: rest => c :: mergeSlashes rest
  | [] => []

/-- The answer to a method at a path that is no route. -/
def refusal (path : Text) (method : String) : Response :=
  let isRead := method = "GET" || method = "HEAD"
  if isPlainFile path then
    if isRead then refuse 404
    else if method = "OPTIONS" then refuse 200
    else refuse 405
  else if isPlainFile (mergeSlashes path) then
    if isRead || method = "OPTIONS" then refuse 308 else refuse 405
  else refuse 404

/-- Answer a request. -/
def handle (agent : Agent) (request : Request) : Response × Agent :=
  let path := request.target.rootedPath
  let method := Text.toString request.method
  if Hostname.isUnreachable request.target.host then (refuse 400, agent)
  else match Route.ofPath? path with
  | none => (refusal path method, agent)
  | some route =>
    if route.isRead then
      if method = "GET" then (agent.readRoute route request.target, agent)
      else if method = "HEAD" then
        let response := agent.readRoute route request.target
        ({ response with body := none }, agent)
      else if method = "OPTIONS" then (plain 200, agent)
      else (refuse 405, agent)
    else if method = "POST" then
      match Http.jsonOf request with
      | .error _ => (plain 500, agent)
      | .ok body => agent.writeRoute route body
    else if method = "OPTIONS" then (plain 204, agent)
    else (refuse 405, agent)

end Agent

end Restyle
