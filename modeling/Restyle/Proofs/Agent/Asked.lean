import Restyle.Agent.Routes

/-!
# What a body asks for

The body of a request to a written route asks for nothing that makes sense, for something that is
refused at once, or for a job (`Ask`). Main statements: the route meets what its body asks for, and
nothing else of the request matters (`Agent.handle_of_posts`, `Agent.writeRoute_eq_meet`), and which
bodies ask for nothing (`Route.ask_eq_senseless_iff`).
-/
namespace Restyle

/-- What a body asks for. -/
inductive Ask where
  /-- Nothing: it has no members. -/
  | senseless
  /-- Something that is refused, for a reason in words. -/
  | refused (error : Text)
  /-- To configure a project. -/
  | configure (path : Json) (mappings : List (Text × Json))
  /-- To apply the event that a value states. -/
  | apply (value : Json)

/-- The job of what is asked for, if it takes one. -/
def Ask.job? : Ask → Option Job
  | .configure path mappings => some (.configure path mappings)
  | .apply value => some (.apply value)
  | .senseless | .refused _ => none

/-- What the members of a body ask for that states a project path. -/
def Ask.ofPath (members : List (Text × Json)) : Ask :=
  let path := Json.memberOrNull members "path"
  if path.isGiven then .configure path [] else .refused "Path is required".toText

/-- What is asked for with a path and with the value that domain mappings are stated by. -/
def Ask.ofParts (path mappings : Json) : Ask :=
  if path.isGiven then
    match mappings with
    | .object mapped => .configure path mapped
    | other =>
      if other.isGiven then .refused "domainMappings must be an object".toText
      else .configure path []
  else .refused "Path is required".toText

/-- What the members of a body ask for that states a project configuration. -/
def Ask.ofConfiguration (members : List (Text × Json)) : Ask :=
  let project := Json.memberOrNull members "projectPath"
  .ofParts (if project.isGiven then project else Json.memberOrNull members "rootPath")
    (Json.memberOrNull members "domainMappings")

/-- What a body asks a written route for. -/
def Route.ask (route : Route) (body : Json) : Ask :=
  match route with
  | .projectPath => ((Agent.membersOf body).map Ask.ofPath).getD .senseless
  | .projectConfiguration => ((Agent.membersOf body).map Ask.ofConfiguration).getD .senseless
  | _ => .apply body

/-- A request that posts a value to a written route. -/
structure Request.Posts (request : Request) (route : Route) (body : Json) : Prop where
  /-- The route is written. -/
  written : route.isRead = false
  /-- The request posts. -/
  method : request.method = "POST".toText
  /-- It is aimed at the route. -/
  aimed : request.target.rootedPath = route.path.toText
  /-- Its host is reached. -/
  reached : Hostname.isUnreachable request.target.host = false
  /-- The value is that of its body. -/
  stated : Http.jsonOf request = .ok body

/-- A value has no members exactly when it is given and is no object. -/
theorem Agent.membersOf_eq_none_iff {body : Json} :
    membersOf body = none ↔ body.isGiven = true ∧ ∀ members, body ≠ .object members := by
  cases body <;> simp [membersOf]

/-- The members of a body that states a project path ask for something. -/
theorem Ask.ofPath_ne (members : List (Text × Json)) : ofPath members ≠ .senseless := by
  simp only [ofPath]
  split <;> exact Ask.noConfusion

/-- A path and domain mappings ask for something. -/
theorem Ask.ofParts_ne (path mappings : Json) : ofParts path mappings ≠ .senseless := by
  unfold ofParts
  split
  · split
    · exact Ask.noConfusion
    · split <;> exact Ask.noConfusion
  · exact Ask.noConfusion

/-- A body asks for nothing when a project is to be configured and it has no members. -/
theorem Route.ask_eq_senseless_iff {route : Route} {body : Json} :
    route.ask body = .senseless ↔ (route = .projectPath ∨ route = .projectConfiguration) ∧
      body.isGiven = true ∧ ∀ members, body ≠ .object members := by
  rw [← Agent.membersOf_eq_none_iff]
  cases route with
  | status | activity | change => exact iff_of_false Ask.noConfusion (by simp)
  | projectPath =>
    cases members : Agent.membersOf body with
    | none => exact iff_of_true (by simp [ask, members]) (by simp)
    | some given =>
      exact iff_of_false (by simp [ask, members, Ask.ofPath_ne]) (by simp)
  | projectConfiguration =>
    cases members : Agent.membersOf body with
    | none => exact iff_of_true (by simp [ask, members]) (by simp)
    | some given =>
      exact iff_of_false (by simp [ask, members, Ask.ofConfiguration, Ask.ofParts_ne]) (by simp)

namespace Agent

variable {agent : Agent} {route : Route} {body : Json} {request : Request} {job : Job}

/-- The answer to what is asked for. -/
def meet (agent : Agent) : Ask → Response × Agent
  | .senseless => (plain 500, agent)
  | .refused error => (complain 400 error, agent)
  | .configure path mappings => agent.configure path mappings
  | .apply value => agent.change value

/-- A written route meets what the body asks for. -/
theorem writeRoute_eq_meet (agent : Agent) (route : Route) (body : Json) :
    agent.writeRoute route body = agent.meet (route.ask body) := by
  cases route with
  | status | activity | change => rfl
  | projectPath =>
    rw [writeRoute, setPath, Route.ask]
    cases membersOf body with
    | none => rfl
    | some members =>
      rw [Option.map_some, Option.getD_some, Ask.ofPath]
      simp only
      split <;> rfl
  | projectConfiguration =>
    rw [writeRoute, setConfiguration, Route.ask]
    cases membersOf body with
    | none => rfl
    | some members =>
      rw [Option.map_some, Option.getD_some, Ask.ofConfiguration]
      simp only
      generalize (if (Json.memberOrNull members "projectPath").isGiven
        then Json.memberOrNull members "projectPath"
        else Json.memberOrNull members "rootPath") = path
      generalize Json.memberOrNull members "domainMappings" = mappings
      unfold Ask.ofParts
      cases given : path.isGiven with
      | false => rfl
      | true =>
        cases mappings with
        | object mapped => rfl
        | null | bool _ | int _ | real _ | string _ | list _ =>
          simp only [Bool.not_true, Bool.false_eq_true, if_false, if_true]
          split <;> rfl

/-- Every route is the one of its path. -/
theorem ofPath?_path (route : Route) : Route.ofPath? route.path.toText = some route := by
  cases route <;> rfl

/-- A request that posts a value to a written route is answered by that route. -/
theorem handle_of_posts (agent : Agent) (posts : request.Posts route body) :
    agent.handle request = agent.writeRoute route body := by
  have post : request.method.toString = "POST" := by rw [posts.method]; rfl
  rw [handle]
  simp only [posts.reached, posts.aimed, ofPath?_path, posts.written, post, posts.stated,
    Bool.false_eq_true, if_false, if_true]

/-- A request leaves an agent as it is, or asks for something. -/
theorem handle_cases (agent : Agent) (request : Request) :
    (agent.handle request).2 = agent ∨ ∃ ask, agent.handle request = agent.meet ask := by
  rw [handle]
  simp only
  split
  · exact .inl rfl
  · split
    · exact .inl rfl
    · rename_i route _
      split
      · left
        split
        · rfl
        · split
          · rfl
          · split <;> rfl
      · split
        · split
          · exact .inl rfl
          · rename_i body _
            exact .inr ⟨route.ask body, agent.writeRoute_eq_meet route body⟩
        · left
          split <;> rfl

end Agent

end Restyle
