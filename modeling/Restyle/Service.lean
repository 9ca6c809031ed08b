import Restyle.Config
import Restyle.Match.Best
import Restyle.Match.Candidates
import Restyle.Notice
import Restyle.Patch

/-!
# The service

A service applies changes to the stylesheets of one project. It holds the index, the root of the
project and the roots that domains are mapped to. A change names a target path, or a domain, or
neither, and this decides the root that is searched; the best match among its rules is updated,
or a rule is created when nothing matches. A change never raises: its faults are results.
-/
namespace Restyle

/-- The state of a service. -/
structure Service where
  /-- The settings. -/
  config : Config
  /-- The index. -/
  index : Index
  /-- The root of the project, if one is configured. -/
  root : Option Text := none
  /-- The root of each mapped domain. -/
  mappings : OrderedMap Text Text := .empty

/-- What an operation of a service comes to: its answer, the state it leaves, and the notices it
gave. -/
structure Effect (α : Type) where
  /-- The answer. -/
  answer : α
  /-- The service. -/
  service : Service
  /-- The disk. -/
  disk : Disk
  /-- The notices, first one first. -/
  notices : List Notice := []

/-- The absolute path of a folder that a value names. -/
def validateFolder (place : Place) (room : Nat) (disk : Disk) (what : Text) (path : Json) :
    Except Fault Text :=
  if !path.isGiven then .error (.configuration (.required what))
  else match path.display room with
  | .error fault => .error (.coercion (.undisplayed fault))
  | .ok text =>
    if Text.isBlankText text then .error (.configuration (.required what))
    else match Path.resolve place text with
    | .error fault => .error (.noPath fault)
    | .ok absolute =>
      if !disk.leadsSomewhere place absolute then
        .error (.configuration (.doesNotExist what absolute))
      else if !disk.leadsToFolder place absolute then
        .error (.configuration (.notAFolder what absolute))
      else if !disk.leadsToOpenFolder place absolute then
        .error (.configuration (.notReadable what absolute))
      else .ok absolute

namespace Service

/-- A service without a project. An index that is given is taken only when it has entries. -/
def new (place : Place) (config : Config) (index : Option Index) : Service :=
  match index with
  | some index => { config, index := if index.entries.isEmpty then .new place else index }
  | none => { config, index := .new place }

/-- The folders that domains are mapped to. -/
def validateMappings (place : Place) (disk : Disk) (mappings : List (Text × Json)) :
    Except Fault (OrderedMap Text Text) :=
  (mappings.mapM fun (entry : Text × Json) => do
    return (entry.1,
      ← validateFolder place place.rooms.mapping disk ("Path for ".toText ++ entry.1) entry.2)).map
      .ofList

/-- Configure a project: all paths are validated before anything is changed; then the index is
made anew. The answer is the number of stylesheets of the root. -/
def configure (service : Service) (disk : Disk) (path : Json) (mappings : List (Text × Json)) :
    Effect (Except Fault Nat) :=
  let place := service.index.place
  let validated := do
    let root ← validateFolder place place.rooms.root disk "Project path".toText path
    return (root, ← validateMappings place disk mappings)
  match validated with
  | .error fault => { answer := .error fault, service, disk }
  | .ok (root, mappings) =>
    let (count, index) := service.index.clear.loadRoot disk root
    { answer := .ok count
      service := { service with index, root := some root, mappings }
      disk
      notices := [.projectConfigured root mappings, .filesIndexed root count] }

/-- The root of a domain, if the domain is mapped. A list or an object can be no domain. -/
def mapped? (service : Service) (domain : Json) : Except CoercionFault (Option Text) :=
  match domain with
  | .string name => .ok (service.mappings.get? name)
  | .list _ => .error (.notAKey domain.kindName)
  | .object _ => .error (.notAKey domain.kindName)
  | _ => .ok none

/-- The root to search: the target path, else that of the domain, else the project's. -/
def resolveRoot (service : Service) (disk : Disk) (domain target : Option Json) :
    Except Fault Text :=
  match target with
  | some path =>
    let place := service.index.place
    validateFolder place place.rooms.target disk "Target path".toText path
  | none =>
    match (domain.map service.mapped?).getD (.ok none) with
    | .error fault => .error (.coercion fault)
    | .ok (some root) => .ok root
    | .ok none =>
      match service.root with
      | some root => .ok root
      | none => .error (.configuration .noProject)

/-- Patch the best match of an event below a loaded root, or create a rule for its first
candidate. -/
def patch (service : Service) (disk : Disk) (event : Event) (root : Text) :
    Except Fault Patched × Workspace :=
  let workspace : Workspace := ⟨service.index, disk⟩
  let candidates := Match.candidates event
  match Match.best? service.config.weights candidates event.classes
      (service.index.rulesUnder root) with
  | some found => workspace.updateRule found.file found.rule event.changes
  | none =>
    workspace.createRule ((candidates.head?.map Variation.selector).getD []) event.changes root

/-- Apply an event. -/
def run (service : Service) (disk : Disk) (event : Event) : Effect (Except Fault Patched) :=
  match service.resolveRoot disk event.domain event.target with
  | .error fault => { answer := .error fault, service, disk }
  | .ok root =>
    let (scanned, index) := service.index.ensureLoaded disk root
    let service := { service with index }
    let notices := if scanned then [.filesIndexed root (index.filesUnder root).length] else []
    let (outcome, workspace) := service.patch disk event root
    let relative (patched : Patched) : Patched :=
      { patched with
        file := Path.relative patched.file (Path.absolute index.place root) }
    { answer := outcome.map relative
      service := { service with index := workspace.index }
      disk := workspace.disk
      notices }

/-- The result of an outcome. -/
def resultOf : Except Fault Patched → PatchResult
  | .ok patched => .applied patched
  | .error fault => .failed fault.message fault.reason

/-- The notice of a result. -/
def noticeOf (selector : Text) : PatchResult → Notice
  | .applied patched => .changeApplied selector (.applied patched)
  | .failed error _ => .changeFailed selector error

/-- Apply an event and tell what came of it. -/
def applyEvent (service : Service) (disk : Disk) (event : Event) : Effect PatchResult :=
  let effect := service.run disk event
  let result := resultOf effect.answer
  { effect with
    answer := result
    notices := effect.notices ++ [noticeOf event.selector result] }

/-- Apply the event that a value states, or refuse it. -/
def applyJson (service : Service) (disk : Disk) (value : Json) : Effect PatchResult :=
  match Event.ofJson service.index.place.rooms value with
  | .ok event => service.applyEvent disk event
  | .error fault =>
    let result := resultOf (.error (.ofRead fault))
    { answer := result, service, disk, notices := [noticeOf [] result] }

/-- The members of the value that states the status of a service. -/
def statusMembers (service : Service) : List (String × Json) :=
  [("rootPath", Json.ofText? service.root), ("filesIndexed", .ofNat service.index.size),
    ("domainMappings", .object (service.mappings.mapValues .string).entries)]

end Service

end Restyle
