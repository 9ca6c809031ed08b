import Restyle.Text.Class

/-!
# Scoring selectors

How well a selector of a stylesheet fits a candidate selector: full marks when they are equal,
otherwise points for each class of the element that it mentions and for each part of the
candidate that it has, less a penalty when it is very short. Scores are never negative.
-/
namespace Restyle

/-- The points that scoring gives and the score that a match has to exceed. -/
structure Weights where
  /-- Points for an equal selector. -/
  exact : Int := 100
  /-- Points for each class that is mentioned. -/
  classHit : Int := 30
  /-- Points for each part that is shared. -/
  tokenHit : Int := 20
  /-- Points taken from a short selector. -/
  shortPenalty : Int := 10
  /-- Selectors below this length are short. -/
  shortLength : Int := 3
  /-- A match scores more than this. -/
  threshold : Int := 50
deriving DecidableEq, Repr

namespace Match

/-- Whether a character separates the parts of a selector. -/
def isCombinator (c : CodePoint) : Bool := Text.isBlank c || c = '>' || c = '+' || c = '~'

/-- The parts of a selector. -/
def tokens (selector : Text) : List Text := Text.splitNonempty isCombinator selector

/-- Whether a selector mentions a class. -/
def mentions (selector name : Text) : Bool := Text.occursIn (.char '.' :: name) selector

/-- The score of the stylesheet selector `selector` for the candidate `target` of an element
with the given classes. -/
def score (weights : Weights) (selector target : Text) (classes : List Text) : Int :=
  if selector = target then weights.exact
  else
    let clean := Text.collapse selector
    let parts := tokens clean
    let classPoints := weights.classHit * (classes.countP (mentions clean) : Nat)
    let goal := tokens (Text.collapse target)
    let tokenPoints := weights.tokenHit * (goal.countP parts.contains : Nat)
    let penalty := if clean.length < weights.shortLength then weights.shortPenalty else 0
    max 0 (classPoints + tokenPoints - penalty)

end Match

end Restyle
