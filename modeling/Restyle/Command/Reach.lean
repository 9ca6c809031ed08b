import Restyle.Command.Run

/-!
# What commands reach

The paths that a command may read or write below: those that it names itself, and those that the
files it names hold. Nothing else of a disk matters to it.
-/
namespace Restyle

/-- The path that a change names as its project. -/
def targetOf? : Json → Option Text
  | .object members =>
    (Event.given? (Json.memberOrNull members "targetPath")).bind fun value =>
      (value.display Json.standardRoom).toOption
  | _ => none

/-- The paths that the files of a command hold. -/
def Command.furtherPaths (disk : Disk) (place : Place) : Command → List Text
  | .serve startup =>
    match Command.settingsOf disk place startup with
    | .ok config => config.root :: config.mappings.entries.map Prod.snd
    | .error _ => []
  | .apply _ changes =>
    match Command.readChanges disk place changes with
    | .ok events => events.filterMap targetOf?
    | .error _ => []
  | _ => []

/-- The paths that a command line may name: its operands, and the values of two options. -/
def Invocation.paths : Invocation → List Text
  | .command _ arguments =>
    arguments.operands ++ ["--root", "--config"].filterMap arguments.value?
  | _ => []

/-- The paths that the files of a command line hold. -/
def Invocation.furtherPaths (disk : Disk) (place : Place) : Invocation → List Text
  | .command name arguments =>
    match Command.ofArguments disk place name arguments with
    | .ok asked => asked.furtherPaths disk place
    | .error _ => []
  | _ => []

/-- The trails that a path may lead to: as it stands, and with its tilde put into full. -/
def trailsOf (place : Place) (path : Text) : List Trail :=
  if path.isEmpty then []
  else [Path.names (Path.clean (Path.append place.folder path)),
    Path.names (Path.absolute place path)].eraseDups

end Restyle
