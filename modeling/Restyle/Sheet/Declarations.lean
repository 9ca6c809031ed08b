import Restyle.OrderedMap
import Restyle.Sheet.Comment

/-!
# Declarations

The body of a rule block is a sequence of declarations, each a property name, a colon and a
value, ended by a semicolon. Reading drops comments and every piece that lacks a name, a colon
or a value; a repeated name keeps its first place and takes its last value. Writing gives each
declaration a line of its own, indented by two spaces.
-/
namespace Restyle

/-- The properties of a rule, in order. -/
abbrev Properties := OrderedMap Text Text

namespace Sheet

/-- The declaration that one piece of a body states. -/
def readDeclaration? (piece : Text) : Option (Text × Text) :=
  match Text.cut? ':' piece with
  | none => none
  | some (name, value) =>
    let name := Text.trim name
    let value := Text.trim value
    if name.isEmpty || value.isEmpty then none else some (name, value)

/-- The properties that a body states. -/
def readDeclarations (body : Text) : Properties :=
  .ofList ((Text.split (· = .char ';') (withoutComments body)).filterMap readDeclaration?)

/-- One written declaration. -/
def writeDeclaration (entry : Text × Text) : Text :=
  .char ' ' :: .char ' ' :: entry.1 ++ .char ':' :: .char ' ' :: entry.2 ++ [.char ';', .char '\n']

/-- The written declarations of a rule. -/
def writeDeclarations (properties : Properties) : Text :=
  properties.entries.flatMap writeDeclaration

end Sheet

end Restyle
