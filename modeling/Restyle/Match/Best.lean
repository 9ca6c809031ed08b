import Restyle.Change.Variation
import Restyle.Match.Score
import Restyle.Sheet.Rule

/-!
# The best match

The rule that an event means is the best of all pairs of a rule and a candidate: an equal
selector outranks every score, a greater score outranks a smaller one, and among equals the
first pair wins, rules before candidates. A match whose score is not above the threshold is
none.
-/
namespace Restyle.Match

/-- A rule that fits a candidate. -/
structure Found where
  /-- The file of the rule. -/
  file : Text
  /-- The rule. -/
  rule : Rule
  /-- The selector of the candidate. -/
  candidate : Text
  /-- The score of the pair. -/
  score : Int
deriving DecidableEq

/-- What a pair is ranked by: whether the selectors are equal, then the score. -/
structure Rank where
  /-- Whether the selectors are equal. -/
  exact : Bool
  /-- The score. -/
  score : Int
deriving DecidableEq, Repr

/-- Whether one rank is below another. -/
def Rank.lt (first second : Rank) : Bool :=
  if first.exact = second.exact then first.score < second.score else second.exact

/-- The rank of a rule's selector for a candidate. -/
def rank (weights : Weights) (selector candidate : Text) (classes : List Text) : Rank :=
  if selector = candidate then ⟨true, weights.exact⟩
  else ⟨false, Match.score weights selector candidate classes⟩

/-- A pair as a match, with its rank. -/
def pairing (weights : Weights) (classes : List Text) (file : Text) (rule : Rule)
    (candidate : Text) : Rank × Found :=
  let rank := rank weights rule.selector candidate classes
  (rank, ⟨file, rule, candidate, rank.score⟩)

/-- All pairs: rules in order, and for each the candidates in order. -/
def pairings (weights : Weights) (classes : List Text) (variations : List Variation)
    (space : List (Text × Rule)) : List (Rank × Found) :=
  space.flatMap fun place =>
    variations.map fun variation =>
      pairing weights classes place.1 place.2 variation.selector

/-- The better of the best pair so far and the next one; the earlier one of equals. -/
def better (best : Rank × Option Found) (next : Rank × Found) : Rank × Option Found :=
  if best.1.lt next.1 then (next.1, some next.2) else best

/-- The best match among rules, if one is above the threshold. -/
def best? (weights : Weights) (variations : List Variation) (classes : List Text)
    (space : List (Text × Rule)) : Option Found :=
  match ((pairings weights classes variations space).foldl better (⟨false, 0⟩, none)).2 with
  | none => none
  | some found => if found.score ≤ weights.threshold then none else some found

end Restyle.Match
