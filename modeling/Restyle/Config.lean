import Restyle.Fault
import Restyle.Match.Score

/-!
# Settings

Settings are read from a JSON object. Every member has a default and is taken as the kind of
value it has to be, whatever kind it is given as.
-/
namespace Restyle

/-- The settings of an agent. -/
structure Config where
  /-- The host to listen at. -/
  host : Text := "127.0.0.1".toText
  /-- The port to listen at. -/
  port : Int := 3001
  /-- The path of the project; empty when there is none. -/
  root : Text := []
  /-- The path of the project of each domain. -/
  mappings : OrderedMap Text Text := .empty
  /-- Pause between queued changes, in seconds. -/
  delay : Float := 0.1
  /-- How many files are read at a time. -/
  readers : Int := 4
  /-- The weights of matching. -/
  weights : Weights := {}

namespace Config

/-- A whole number among members, or its default. -/
def wholeOr (members : List (Text × Json)) (name : String) (default : Int) : Except Fault Int :=
  (((Json.member? members name).map Json.toWhole).getD (.ok default)).mapError .coercion

/-- A decimal number among members, or its default. -/
def decimalOr (members : List (Text × Json)) (name : String) (default : Float) :
    Except Fault Float :=
  (((Json.member? members name).map Json.toDecimal).getD (.ok default)).mapError .coercion

/-- The text of a value. -/
def textOf (value : Json) : Except Fault Text :=
  (value.display Json.standardRoom).mapError fun fault => .coercion (.undisplayed fault)

/-- The text of a member, or its default. -/
def textOr (members : List (Text × Json)) (name : String) (default : Text) : Except Fault Text :=
  ((Json.member? members name).map textOf).getD (.ok default)

/-- The project path: that of `rootPath`, else that of `projectPath`. -/
def rootOf (members : List (Text × Json)) : Except Fault Text :=
  let root := Json.memberOrNull members "rootPath"
  let project := Json.memberOrNull members "projectPath"
  if root.isGiven then textOf root
  else if project.isGiven then textOf project
  else .ok []

/-- The members of the domain mappings. -/
def mappingsOf (value : Json) : Except Fault (List (Text × Json)) :=
  match value with
  | .object members => .ok members
  | other =>
    if other.isGiven then .error (.configuration .mappingsNotAnObject) else .ok []

/-- The settings that the members of an object state. -/
def ofMembers (members : List (Text × Json)) : Except Fault Config := do
  let standard : Config := {}
  let threshold ← wholeOr members "matchThreshold" standard.weights.threshold
  let stated ← mappingsOf (Json.memberOrNull members "domainMappings")
  let host ← textOr members "host" standard.host
  let port ← wholeOr members "port" standard.port
  let root ← rootOf members
  let mappings ← stated.mapM fun entry => do return (entry.1, ← textOf entry.2)
  let delay ← decimalOr members "queueDelay" standard.delay
  let readers ← wholeOr members "scanWorkers" standard.readers
  return {
    host
    port
    root
    mappings := .ofList mappings
    delay
    readers
    weights := { standard.weights with threshold } }

/-- The name of the first setting that is looked for. -/
def firstName : Text := "matchThreshold".toText

/-- Whether a value is a given text. -/
def isText (text : Text) : Json → Bool
  | .string value => value == text
  | _ => false

/-- The settings that a value states. A list or a text that holds the name of the first setting
seems to have it. -/
def ofJson : Json → Except Fault Config
  | .object members => ofMembers members
  | .list items =>
    .error (.coercion (if items.any (isText firstName) then .listByName
      else .noMembers (Json.list items).kindName))
  | .string value =>
    .error (.coercion (if Text.occursIn firstName value then .textByName
      else .noMembers (Json.string value).kindName))
  | value => .error (.coercion (.notSearchable value.kindName))

/-- The settings in the file at a path. -/
def ofFile (disk : Disk) (place : Place) (path : Text) : Except Fault Config :=
  let unreadable (detail : Text) : Except Fault Config :=
    .error (.configuration (.unreadable path detail))
  match disk.readLines place path with
  | .error fault => unreadable fault.message
  | .ok text =>
    match Json.read text with
    | .error (.tooDeep holder) => .error (.misread (.tooDeep holder))
    | .error misread => unreadable misread.message
    | .ok (.object members) => ofMembers members
    | .ok _ => .error (.configuration (.notAnObject path))

end Config

end Restyle
