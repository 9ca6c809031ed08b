import Restyle.Client.Basic
import Restyle.Command.Arguments
import Restyle.Disk.Basic

/-!
# Commands

What a command line asks for: an agent to be started, stylesheets to be listed, changes to be
applied or sent, two stylesheets to be compared, or an agent to be asked for its status. The
values that a command is given are checked before anything is done, the options first; the first
value that is refused decides how the command line is refused.
-/
namespace Restyle

/-- What a command line may say about an agent to be started. -/
structure Startup where
  /-- The host. -/
  host : Option Text
  /-- The port. -/
  port : Option Int
  /-- The path of the project. -/
  root : Option Text
  /-- The file of the settings. -/
  config : Option Text
  /-- Whether the agent is to be watched at work. -/
  debug : Bool
deriving DecidableEq, Repr

/-- A command. -/
inductive Command where
  /-- Start an agent. -/
  | serve (startup : Startup)
  /-- List the stylesheets of a folder and their rules. -/
  | scan (root : Text)
  /-- Apply the changes in a file to the stylesheets of a folder. -/
  | apply (root changes : Text)
  /-- Print the changes from one stylesheet to another. -/
  | diff (old new : Text)
  /-- Send the changes in a file to an agent. -/
  | push (url changes : Text)
  /-- Print the status of an agent. -/
  | status (url : Text)
deriving DecidableEq, Repr

/-- What a command line asks for. -/
inductive Invocation where
  /-- How the program is used. -/
  | help
  /-- Which version it is. -/
  | version
  /-- A command, by its name, with arguments. -/
  | command (name : String) (arguments : Arguments)
deriving DecidableEq, Repr

/-- Why arguments are refused. -/
inductive Rejection where
  /-- The command is not used as it should be. -/
  | misused
  /-- A path names nothing. -/
  | noPath (fault : NameFault)
deriving DecidableEq, Repr

namespace Command

/-- The option that asks how something is used. -/
def helpFlag : Flag := .switch "--help"

/-- The options of a command; none for what is no command. -/
def flagsOf? : String → Option (List Flag)
  | "serve" =>
    some [.valued "--host", .valued "--port" .whole, .valued "--root" .noFile,
      .valued "--config" .file, .switch "--debug", .switch "--no-debug", helpFlag]
  | "apply" => some [.valued "--root" .folder, helpFlag]
  | "push" => some [.valued "--url", helpFlag]
  | "status" => some [.valued "--url", helpFlag]
  | "scan" => some [helpFlag]
  | "diff" => some [helpFlag]
  | _ => none

/-- What the operands of a command must be. -/
def operandsOf : String → List Demand
  | "scan" => [.folder]
  | "apply" => [.file]
  | "push" => [.file]
  | "diff" => [.file, .file]
  | _ => []

/-- The whole number that an option states; none when it is no whole number. -/
def wholeOf? (value : Option Text) : Option (Option Int) :=
  match value with
  | none => some none
  | some text =>
    match Number.readWhole text with
    | .value n => some (some n)
    | _ => none

/-- Whether the latest of the two debug options asks for it. -/
def debugOf (arguments : Arguments) : Bool :=
  match arguments.options.find? fun option => option.1 = "--debug" || option.1 = "--no-debug" with
  | some option => option.1 = "--debug"
  | none => false

/-- The URL of the agent. -/
def urlOf (arguments : Arguments) : Text :=
  (arguments.value? "--url").getD Client.standardUrl.toText

/-- The command of a name with arguments; none when there are too few or too many. -/
def build? (name : String) (arguments : Arguments) : Option Command :=
  match name, arguments.operands with
  | "serve", [] =>
    (wholeOf? (arguments.value? "--port")).map fun port =>
      .serve {
        host := arguments.value? "--host"
        port
        root := arguments.value? "--root"
        config := arguments.value? "--config"
        debug := debugOf arguments }
  | "scan", [root] => some (.scan root)
  | "apply", [changes] => (arguments.value? "--root").map fun root => .apply root changes
  | "diff", [old, new] => some (.diff old new)
  | "push", [changes] => some (.push (urlOf arguments) changes)
  | "status", [] => some (.status (urlOf arguments))
  | _, _ => none

/-- Whether a path leads to a file. -/
def isFile (disk : Disk) (place : Place) (path : Text) : Bool :=
  disk.leadsSomewhere place path && !disk.leadsToFolder place path

/-- Check a value. -/
def check (disk : Disk) (place : Place) (demand : Demand) (value : Text) :
    Except Rejection Unit :=
  let isKept : Bool := match demand with
    | .text => true
    | .whole => (wholeOf? (some value)).isSome
    | .file => isFile disk place value
    | .folder => disk.leadsToFolder place value
    | .noFile => !isFile disk place value
  let isPath := demand != .text && demand != .whole
  match if isPath then nameFault? value else none with
  | some fault => .error (.noPath fault)
  | none => if isKept then .ok () else .error .misused

/-- Check the values of arguments: those of the options, then the operands. -/
def checkAll (disk : Disk) (place : Place) (name : String) (arguments : Arguments) :
    Except Rejection Unit := do
  arguments.values.forM fun option =>
    let flag := ((flagsOf? name).getD []).find? fun flag => flag.name = option.1
    check disk place ((flag.map Flag.demand).getD .text) option.2
  ((operandsOf name).zip arguments.operands).forM fun operand =>
    check disk place operand.1 operand.2

/-- The command of a name with arguments. -/
def ofArguments (disk : Disk) (place : Place) (name : String) (arguments : Arguments) :
    Except Rejection Command := do
  checkAll disk place name arguments
  match build? name arguments with
  | some command => .ok command
  | none => .error .misused

end Command

namespace Invocation

/-- The options that stand before the command. -/
def flags : List Flag :=
  [.switch "--version", .switch "--verbose" (some (.char 'v')), Command.helpFlag]

/-- What the options before the command ask for: of the version and the help the one that is
asked for first. -/
def ofOptions? (arguments : Arguments) : Option Invocation :=
  (arguments.options.reverse.find? fun option => option.1 != "--verbose").map fun option =>
    if option.1 = "--version" then .version else .help

/-- What the words after the options ask for. Words of which the first is no command may still
be options. -/
def ofOperands? : List Text → Option Invocation
  | [] => none
  | name :: words =>
    match Command.flagsOf? (Text.toString name) with
    | none => (Arguments.split flags false (name :: words)).bind ofOptions?
    | some flags =>
      match Arguments.split flags true words with
      | none => none
      | some arguments =>
        if arguments.has Command.helpFlag.name then some .help
        else some (.command (Text.toString name) arguments)

/-- What a command line asks for; none when it is misused. -/
def ofWords? (words : List Text) : Option Invocation :=
  (Arguments.split flags false words).bind fun arguments =>
    (ofOptions? arguments).or (ofOperands? arguments.operands)

end Invocation

end Restyle
