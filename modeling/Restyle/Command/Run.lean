import Restyle.Agent.Routes
import Restyle.Change.Diff
import Restyle.Command.Basic
import Restyle.Json.Writer
import Restyle.Text.Styling

/-!
# Running commands

A run writes lines to the output and to the error output, may change the disk, may talk over a
transport, and ends in one of a few ways, each with its exit code. A run that breaks off keeps
what it has written until then. Lines are written without styling marks.
-/
namespace Restyle

/-- A line that a command writes. -/
inductive Line where
  /-- On the output. -/
  | out (text : Text)
  /-- On the error output. -/
  | err (text : Text)
deriving DecidableEq, Repr

/-- Why a command breaks off. -/
inductive CommandFault where
  /-- A file has no text. -/
  | unreadable (fault : TextFault)
  /-- A text is not JSON. -/
  | misread (place : Json.Misread)
  /-- Something is not done. -/
  | refused (fault : Fault)
  /-- An agent is not called, or its answer is not read. -/
  | unanswered (fault : ClientFault)
  /-- A value that an answer brings has no text. -/
  | undisplayed (fault : Json.DisplayFault)

/-- The wording of a fault. -/
def CommandFault.message : CommandFault → Text
  | .unreadable fault => fault.message
  | .misread place => place.message
  | .refused fault => fault.message
  | .unanswered fault => fault.message
  | .undisplayed fault => fault.message

/-- An agent that is ready to listen. -/
structure Listening where
  /-- The host. -/
  host : Text
  /-- The port. -/
  port : Int
  /-- Whether it is to be watched at work. -/
  debug : Bool
  /-- The agent. -/
  agent : Agent

/-- How a command ends. -/
inductive Ending where
  /-- It is done. -/
  | done
  /-- It says that something failed. -/
  | failed
  /-- It breaks off. -/
  | broken (fault : CommandFault)
  /-- It is not used as it should be. -/
  | misused
  /-- An agent is to listen from now on. -/
  | listening (listening : Listening)

/-- The exit code of an ending. -/
def Ending.exitCode : Ending → Nat
  | .done | .listening _ => 0
  | .failed | .broken _ => 1
  | .misused => 2

/-- What a run comes to. -/
structure Report (σ : Type) where
  /-- The lines that were written, first one first. -/
  lines : List Line
  /-- How it ends. -/
  ending : Ending
  /-- The disk it leaves. -/
  disk : Disk
  /-- The transport's state. -/
  link : σ

namespace Line

/-- What a line writes to the output. -/
def out? : Line → Option Text
  | .out text => some (Text.plain text ++ [.char '\n'])
  | .err _ => none

/-- What a line writes to the error output. -/
def err? : Line → Option Text
  | .out _ => none
  | .err text => some (Text.plain text ++ [.char '\n'])

/-- Whether a line is of the error output. -/
def isErr : Line → Bool
  | .out _ => false
  | .err _ => true

end Line

/-- All that is written to the output, with plain line ends. -/
def Report.output {σ : Type} (report : Report σ) : Text :=
  Text.dropReturns (report.lines.filterMap Line.out?).flatten

/-- All that is written to the error output, with plain line ends. -/
def Report.errors {σ : Type} (report : Report σ) : Text :=
  Text.dropReturns (report.lines.filterMap Line.err?).flatten

namespace Command

variable {σ : Type}

/-- The name of the program. -/
def programName : String := "csssync"

/-- The version of the program. -/
def programVersion : String := "0.3.0"

/-- The ending of a run that went through: it failed when it wrote an error. -/
def endingOf (lines : List Line) : Ending := if lines.any Line.isErr then .failed else .done

/-- The changes in a file: the items of a list, or one value alone. -/
def readChanges (disk : Disk) (place : Place) (path : Text) : Except CommandFault (List Json) :=
  match disk.readLines place path with
  | .error fault => .error (.unreadable fault)
  | .ok text =>
    match Json.read text with
    | .error place => .error (.misread place)
    | .ok (.list items) => .ok items
    | .ok value => .ok [value]

/-- The lines for the rules of a stylesheet of a folder. -/
def describeEntry (folder : Text) (entry : Entry) : List Line :=
  let heading := Path.relative entry.path folder ++ "  (".toText ++
    Text.ofNat entry.rules.length ++ " rules)".toText
  .out heading :: entry.rules.map fun rule =>
    .out ("  ".toText ++ rule.selector ++ "  [".toText ++ Text.ofInt rule.start ++ .char ':' ::
      Text.ofInt rule.stop ++ "]  ".toText ++ Text.ofNat rule.properties.size ++
      " properties".toText)

/-- The lines that list the stylesheets of a folder. -/
def scanLines (disk : Disk) (place : Place) (root : Text) : List Line :=
  let (count, index) := (Index.new place).loadRoot disk root
  (index.filesUnder root).flatMap (describeEntry (Path.absolute place root)) ++
    [.out (Text.ofNat count ++ " CSS files indexed".toText)]

/-- The line for the result of a change. -/
def describeResult : PatchResult → Line
  | .applied patched =>
    .out ((if patched.created then "Created ".toText else "Updated ".toText) ++
      patched.selector ++ " in ".toText ++ patched.file ++ ": ".toText ++
      Text.join ", ".toText patched.properties)
  | .failed error _ => .err ("Failed: ".toText ++ error)

/-- Apply changes one after the other: the lines for them, and the disk they leave. -/
def applyAll (service : Service) (disk : Disk) : List Json → List Line × Disk
  | [] => ([], disk)
  | change :: rest =>
    let effect := service.applyJson disk change
    let (lines, disk) := applyAll effect.service effect.disk rest
    (describeResult effect.answer :: lines, disk)

/-- Apply the changes in a file to the stylesheets of a folder. -/
def applyFile (disk : Disk) (place : Place) (root changes : Text) (link : σ) : Report σ :=
  let effect := (Service.new place {} none).configure disk (.string root) []
  match effect.answer with
  | .error fault => ⟨[], .broken (.refused fault), disk, link⟩
  | .ok _ =>
    match readChanges disk place changes with
    | .error fault => ⟨[], .broken fault, disk, link⟩
    | .ok events =>
      let (lines, disk) := applyAll effect.service disk events
      ⟨lines, endingOf lines, disk, link⟩

/-- The changes from one stylesheet to another as a JSON text. -/
def diffText (disk : Disk) (place : Place) (old new : Text) : Except TextFault Text := do
  let before ← disk.readLines place old
  let after ← disk.readLines place new
  return (Json.list ((Diff.events before after).map Event.toJson)).writeIndented

/-- The line for the answer of an agent to a change. -/
def describeAnswer (members : List (Text × Json)) : Except Json.DisplayFault Line :=
  let shown (name : String) : Except Json.DisplayFault Text :=
    (Json.memberOrNull members name).display Json.standardRoom
  if (Json.memberOrNull members "success").isGiven then do
    return .out ("Applied ".toText ++ (← shown "selector") ++ " in ".toText ++ (← shown "file"))
  else (shown "error").map fun error => .err ("Failed: ".toText ++ error)

/-- The ending for a call without an answer, and the line that says so. A fault that is not the
agent's breaks the run off. -/
def endUnanswered (fault : ClientFault) : List Line × Ending :=
  if fault.isAgents then ([.err ("Agent error: ".toText ++ fault.message)], .failed)
  else ([], .broken (.unanswered fault))

/-- Send changes one after the other, up to the first without an answer; `written` holds the
earlier lines. -/
def pushAll (client : Client) (transport : Transport σ) (written : List Line) (link : σ) :
    List Json → List Line × Ending × σ
  | [] => (written, endingOf written, link)
  | change :: rest =>
    match client.apply transport link change with
    | (.error fault, link) =>
      let (lines, ending) := endUnanswered fault
      (written ++ lines, ending, link)
    | (.ok members, link) =>
      match describeAnswer members with
      | .error fault => (written, .broken (.undisplayed fault), link)
      | .ok line => pushAll client transport (written ++ [line]) link rest

/-- A line with the text of a value between two others. -/
def describeValue (before : Text) (value : Json) (after : Text) : Except Json.DisplayFault Line :=
  (value.display Json.standardRoom).map fun text => .out (before ++ text ++ after)

/-- The lines up to the first that cannot be written, and the ending. -/
def linesUntil : List (Except Json.DisplayFault Line) → List Line × Ending
  | [] => ([], .done)
  | .error fault :: _ => ([], .broken (.undisplayed fault))
  | .ok line :: rest => ((line :: (linesUntil rest).1), (linesUntil rest).2)

/-- The lines for the status of an agent, and the ending. Mappings that are no object break the
run off. -/
def describeStatus (members : List (Text × Json)) : List Line × Ending :=
  let root := Json.memberOrNull members "rootPath"
  let count := (Json.member? members "filesIndexed").getD (.int 0)
  let heading :=
    [describeValue "Root:    ".toText (if root.isGiven then root else .ofString "(not set)") [],
      describeValue "Indexed: ".toText count " CSS files".toText]
  match Json.memberOrNull members "domainMappings" with
  | .object mappings =>
    linesUntil (heading ++ mappings.map fun entry =>
      describeValue ("  ".toText ++ entry.1 ++ " -> ".toText) entry.2 [])
  | other =>
    match linesUntil heading with
    | (lines, .done) =>
      if other.isGiven then
        (lines, .broken (.refused (.coercion (.noEntries other.kindName))))
      else (lines, .done)
    | broken => broken

/-- A text, unless it is empty or there is none. -/
def textOr (text : Option Text) (default : Text) : Text :=
  match text with
  | none | some [] => default
  | some known => known

/-- A number, unless it is zero or there is none. -/
def numberOr (number : Option Int) (default : Int) : Int :=
  match number with
  | none | some 0 => default
  | some known => known

/-- The settings of an agent to be started: those of its file, and above them those of the
command line. -/
def settingsOf (disk : Disk) (place : Place) (startup : Startup) : Except Fault Config := do
  let config ← match startup.config with
    | none => .ok {}
    | some path => Config.ofFile disk place path
  return { config with
    host := textOr startup.host config.host
    port := numberOr startup.port config.port
    root := textOr startup.root config.root }

/-- The agent of settings, its project configured if there is one. -/
def agentOf (disk : Disk) (place : Place) (config : Config) : Except Fault Agent :=
  let service := Service.new place config none
  if config.root.isEmpty then .ok (.new service disk)
  else
    let effect := service.configure disk (.string config.root)
      (config.mappings.mapValues .string).entries
    effect.answer.map fun _ => .new effect.service effect.disk

/-- Start an agent. -/
def start (disk : Disk) (place : Place) (startup : Startup) (link : σ) : Report σ :=
  let made := do
    let config ← settingsOf disk place startup
    return (config, ← agentOf disk place config)
  match made with
  | .error (.configuration fault) =>
    ⟨[.err ("Configuration error: ".toText ++ fault.message)], .failed, disk, link⟩
  | .error fault => ⟨[], .broken (.refused fault), disk, link⟩
  | .ok (config, agent) =>
    let line := "CSS DevTools Sync agent running on http://".toText ++ config.host ++ .char ':' ::
      Text.ofInt config.port
    ⟨[.out line], .listening ⟨config.host, config.port, startup.debug, agent⟩, disk, link⟩

/-- Send the changes in a file to an agent. -/
def pushFile (disk : Disk) (place : Place) (transport : Transport σ) (link : σ)
    (url changes : Text) : Report σ :=
  match Client.ofUrl url with
  | .error fault => ⟨[], .broken (.unanswered (.badUrl fault)), disk, link⟩
  | .ok client =>
    match readChanges disk place changes with
    | .error fault => ⟨[], .broken fault, disk, link⟩
    | .ok events =>
      let (lines, ending, link) := pushAll client transport [] link events
      ⟨lines, ending, disk, link⟩

/-- Print the status of an agent. -/
def askStatus (disk : Disk) (transport : Transport σ) (link : σ) (url : Text) : Report σ :=
  match Client.ofUrl url with
  | .error fault => ⟨[], .broken (.unanswered (.badUrl fault)), disk, link⟩
  | .ok client =>
    let (answer, link) := client.status transport link
    let (lines, ending) := match answer with
      | .error fault => endUnanswered fault
      | .ok members => describeStatus members
    ⟨lines, ending, disk, link⟩

/-- Do a command. -/
def perform (disk : Disk) (place : Place) (transport : Transport σ) (link : σ) :
    Command → Report σ
  | .serve startup => start disk place startup link
  | .scan root => ⟨scanLines disk place root, .done, disk, link⟩
  | .apply root changes => applyFile disk place root changes link
  | .diff old new =>
    match diffText disk place old new with
    | .error fault => ⟨[], .broken (.unreadable fault), disk, link⟩
    | .ok text => ⟨[.out text], .done, disk, link⟩
  | .push url changes => pushFile disk place transport link url changes
  | .status url => askStatus disk transport link url

/-- How the program is used. -/
def usage : List String :=
  ["Usage: csssync [--verbose] COMMAND", "",
    "  serve [--host HOST] [--port PORT] [--root ROOT] [--config FILE] [--debug]",
    "  scan ROOT", "  apply --root ROOT CHANGES", "  diff OLD NEW", "  push [--url URL] CHANGES",
    "  status [--url URL]"]

end Command

/-- Do what a command line asks for. -/
def Invocation.run {σ : Type} (disk : Disk) (place : Place) (transport : Transport σ) (link : σ)
    (words : List Text) : Report σ :=
  match Invocation.ofWords? words with
  | none => ⟨[], .misused, disk, link⟩
  | some .help => ⟨Command.usage.map fun line => .out line.toText, .done, disk, link⟩
  | some .version =>
    let line := Command.programName ++ ", version " ++ Command.programVersion
    ⟨[.out line.toText], .done, disk, link⟩
  | some (.command name arguments) =>
    match Command.ofArguments disk place name arguments with
    | .error .misused => ⟨[], .misused, disk, link⟩
    | .error (.noPath fault) => ⟨[], .broken (.refused (.noPath fault)), disk, link⟩
    | .ok asked => asked.perform disk place transport link

end Restyle
