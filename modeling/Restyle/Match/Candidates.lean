import Restyle.Change.Event

/-!
# Candidate selectors of an event

The selectors that the rule of an event may have, those of greatest priority first and each one
once. An event that was sent without candidates has its reported selector, each of its classes,
all of its classes together, and its tag with each of its classes.
-/
namespace Restyle.Match

/-- Keep the first variation of each selector. -/
def firstOfEach (variations : List Variation) : List Variation :=
  variations.foldl
    (fun kept variation =>
      if kept.any (·.selector == variation.selector) then kept else kept ++ [variation])
    []

/-- The variations of greater priority first; those of equal priority in their order. -/
def byPriority (variations : List Variation) : List Variation :=
  variations.mergeSort fun first second => decide (second.priority ≤ first.priority)

/-- Whether a tag name may go on with the character. -/
def continuesTag (c : CodePoint) : Bool :=
  ('a' ≤ c && c ≤ 'z') || ('A' ≤ c && c ≤ 'Z') || ('0' ≤ c && c ≤ '9')

/-- The tag name that a selector starts with. -/
def tagOf? : Text → Option Text
  | [] => none
  | c :: rest =>
    if ('a' ≤ c && c ≤ 'z') || ('A' ≤ c && c ≤ 'Z') then
      some (c :: rest.takeWhile continuesTag)
    else none

/-- The candidates derived from a reported selector and the classes of the element, in the
order in which they are derived. -/
def derived (selector : Text) (classes : List Text) : List Variation :=
  let names := classes.filter (!·.isEmpty)
  let single := names.mapIdx fun index name =>
    (⟨.char '.' :: name, 10 - (index : Int), .individualClass⟩ : Variation)
  let combined :=
    if names.length > 1 then
      [(⟨names.flatMap (.char '.' :: ·), 5, .combinedClasses⟩ : Variation)]
    else []
  let tagged :=
    match tagOf? selector with
    | none => []
    | some tag => names.mapIdx fun index name =>
      (⟨tag ++ .char '.' :: name, 8 - (index : Int), .elementClass⟩ : Variation)
  ⟨selector, 1, .reported⟩ :: single ++ combined ++ tagged

/-- The candidates derived from a reported selector and the classes of the element. -/
def generate (selector : Text) (classes : List Text) : List Variation :=
  firstOfEach (byPriority (derived selector classes))

/-- The candidates of an event: those that were sent, else those derived from it. -/
def candidates (event : Event) : List Variation :=
  if event.variations.isEmpty then generate event.selector event.classes
  else firstOfEach (byPriority event.variations)

end Restyle.Match
