import Restyle.Change.Event
import Restyle.Change.Result
import Restyle.Index

/-!
# Faults

Everything that can keep a change or a configuration from going through, with its wording and
the reason that a result gives for it.
-/
namespace Restyle

/-- Why a project or its settings are not accepted. -/
inductive ConfigurationFault where
  /-- No path is given. -/
  | required (what : Text)
  /-- Nothing is at the path. -/
  | doesNotExist (what path : Text)
  /-- The path does not lead to a folder. -/
  | notAFolder (what path : Text)
  /-- The folder may not be listed and entered. -/
  | notReadable (what path : Text)
  /-- No project is configured. -/
  | noProject
  /-- The settings cannot be read. -/
  | unreadable (path detail : Text)
  /-- The settings are no object. -/
  | notAnObject (path : Text)
  /-- The domain mappings are no object. -/
  | mappingsNotAnObject
deriving DecidableEq, Repr

/-- The wording of a fault. -/
def ConfigurationFault.message : ConfigurationFault → Text
  | .required what => what ++ " is required".toText
  | .doesNotExist what path => what ++ " does not exist: ".toText ++ path
  | .notAFolder what path => what ++ " must be a directory: ".toText ++ path
  | .notReadable what path => what ++ " is not readable: ".toText ++ path
  | .noProject => "Project path not set".toText
  | .unreadable path detail => "Cannot read config ".toText ++ path ++ ": ".toText ++ detail
  | .notAnObject path => "Config ".toText ++ path ++ " must contain a JSON object".toText
  | .mappingsNotAnObject => "'domainMappings' must be an object".toText

/-- Why something is not done. -/
inductive Fault where
  /-- The event is not valid. -/
  | event (fault : EventFault)
  /-- A value is of a kind that cannot be converted. -/
  | coercion (fault : CoercionFault)
  /-- A text is not JSON. -/
  | misread (place : Json.Misread)
  /-- The project or its settings are not accepted. -/
  | configuration (fault : ConfigurationFault)
  /-- A path has no absolute form. -/
  | noPath (fault : NameFault)
  /-- A file could not be read or parsed. -/
  | skipped (fault : SkipFault)
  /-- The file is not in the index. -/
  | notIndexed (path : Text)
  /-- The rule is not among those of its file. -/
  | ruleGone (selector path : Text)
  /-- The file could not be written. -/
  | writeFailed (path : Text) (fault : WriteFault)
  /-- A new rule would have no properties. -/
  | noProperties (selector : Text)

namespace Fault

/-- A fault of reading an event. -/
def ofRead : ReadFault → Fault
  | .event fault => .event fault
  | .coercion fault => .coercion fault

/-- The wording of a write fault. -/
def writeMessage (path : Text) : WriteFault → Text
  | .path (.unnamed fault) => fault.message
  | .path fault => "Failed to write ".toText ++ path ++ ": ".toText ++ fault.wording
  | .refused refusal => "Failed to write ".toText ++ path ++ ": ".toText ++ refusal.message
  | .surrogates refused => refused.message

/-- The wording of a fault. -/
def message : Fault → Text
  | .event fault => fault.message
  | .coercion fault => fault.message
  | .misread place => place.message
  | .configuration fault => fault.message
  | .noPath fault => fault.message
  | .skipped fault => fault.message
  | .notIndexed path => "File data not found: ".toText ++ path
  | .ruleGone selector path =>
    "Rule ".toText ++ Text.quoted selector ++ " is no longer in ".toText ++ path
  | .writeFailed path fault => writeMessage path fault
  | .noProperties selector =>
    "No properties to write for new rule ".toText ++ Text.quoted selector

/-- The reason that a result gives for a fault. -/
def reason : Fault → Reason
  | .event _ => .invalidEvent
  | .coercion _ => .internal
  | .misread _ => .internal
  | .noPath _ => .internal
  | .configuration _ => .notConfigured
  | .skipped (.badPath _) => .internal
  | .skipped _ => .parseFailure
  | .notIndexed _ => .staleIndex
  | .ruleGone _ _ => .staleIndex
  | .writeFailed _ (.path (.unnamed _)) => .internal
  | .writeFailed _ (.surrogates _) => .internal
  | .writeFailed _ _ => .writeFailure
  | .noProperties _ => .noProperties

end Fault

end Restyle
