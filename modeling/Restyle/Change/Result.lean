import Restyle.Change.Property

/-!
# Results of applying a change

A change was applied, and the result says which rule of which file was written and whether the
rule is new; or it failed, and the result says why.
-/
namespace Restyle

/-- What a change that was applied has written. -/
structure Patched where
  /-- The file of the rule. -/
  file : Text
  /-- The selector of the rule. -/
  selector : Text
  /-- The changed properties, in order. -/
  properties : List Text
  /-- Whether the rule is new. -/
  created : Bool
deriving DecidableEq, Repr

/-- The kind of reason for which a change fails. -/
inductive Reason where
  /-- The event is not valid. -/
  | invalidEvent
  /-- No project is configured, or its path is not a directory. -/
  | notConfigured
  /-- The file or rule is no longer in the index. -/
  | staleIndex
  /-- The file could not be written. -/
  | writeFailure
  /-- The file could not be read again. -/
  | parseFailure
  /-- A new rule would have no properties. -/
  | noProperties
  /-- Anything else. -/
  | internal
deriving DecidableEq, Repr

/-- The name of a reason. -/
def Reason.name : Reason → String
  | .invalidEvent => "invalid_event"
  | .notConfigured => "not_configured"
  | .staleIndex => "stale_index"
  | .writeFailure => "write_failure"
  | .parseFailure => "parse_failure"
  | .noProperties => "no_properties"
  | .internal => "internal"

/-- What came of a change. -/
inductive PatchResult where
  /-- It was applied. -/
  | applied (patched : Patched)
  /-- It failed. -/
  | failed (error : Text) (reason : Reason)
deriving DecidableEq, Repr

namespace PatchResult

/-- The members of the value that states a result. -/
def members : PatchResult → List (String × Json)
  | .applied patched =>
    [("success", .bool true), ("file", .string patched.file),
      ("selector", .string patched.selector), ("changedProperties", .ofTexts patched.properties)] ++
      if patched.created then [("created", .bool true)] else []
  | .failed error _ => [("success", .bool false), ("error", .string error)]

/-- The value that states a result. -/
def toJson (result : PatchResult) : Json := Json.record result.members

/-- Why the change failed, if it did. -/
def reason? : PatchResult → Option Reason
  | .applied _ => none
  | .failed _ reason => some reason

end PatchResult

end Restyle
