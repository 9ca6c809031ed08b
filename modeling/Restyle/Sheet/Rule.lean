import Restyle.Sheet.Declarations

/-!
# Rules

A rule is a selector with its properties and the span of text it was read from. The span covers
the whole block, from the first character of the selector to just after the closing brace, and
means nothing against any other text.
-/
namespace Restyle

/-- A selector, its properties, and the span of its block. -/
structure Rule where
  /-- The selector. -/
  selector : Text
  /-- The properties in order. -/
  properties : Properties
  /-- Offset of the first character of the block. -/
  start : Int
  /-- Offset just after the last character of the block. -/
  stop : Int
  /-- A block is not empty. -/
  ordered : start < stop
deriving DecidableEq

namespace Rule

/-- A span that ends where it starts, or before. -/
structure OffsetsOutOfOrder where
  /-- Where the span starts. -/
  start : Int
  /-- Where the span ends. -/
  stop : Int
deriving DecidableEq, Repr

/-- The wording for a span out of order. -/
def OffsetsOutOfOrder.message (fault : OffsetsOutOfOrder) : Text :=
  "Rule offsets out of order: ".toText ++ Text.ofInt fault.start ++ " >= ".toText ++
    Text.ofInt fault.stop

/-- A rule with a given span. -/
def spanning (selector : Text) (properties : Properties) (start stop : Int) :
    Except OffsetsOutOfOrder Rule :=
  if ordered : start < stop then .ok ⟨selector, properties, start, stop, ordered⟩
  else .error ⟨start, stop⟩

/-- Whether two rules say the same of the same span; the order of properties does not count. -/
def same (first second : Rule) : Bool :=
  first.selector == second.selector && first.properties.agrees second.properties &&
    first.start == second.start && first.stop == second.stop

/-- The written block of a selector and its properties. -/
def write (selector : Text) (properties : Properties) : Text :=
  selector ++ .char ' ' :: .char '\x7b' :: .char '\n' :: Sheet.writeDeclarations properties ++
    [.char '\x7d']

end Rule

end Restyle
