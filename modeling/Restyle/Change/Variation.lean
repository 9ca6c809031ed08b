import Restyle.Change.Fault

/-!
# Selector variations

A variation is a candidate selector for the rule that an event means, with a priority and the
way it was made. Variations come with an event or are derived from it.
-/
namespace Restyle

/-- How a candidate selector was made. -/
inductive VariationKind where
  /-- It is the reported selector. -/
  | reported
  /-- One class of the element. -/
  | individualClass
  /-- All classes of the element together. -/
  | combinedClasses
  /-- The element's tag with one class. -/
  | elementClass
deriving DecidableEq, Repr

namespace VariationKind

/-- All kinds. -/
def all : List VariationKind := [.reported, .individualClass, .combinedClasses, .elementClass]

/-- The name of a kind on the wire. -/
def name : VariationKind → String
  | .reported => "original"
  | .individualClass => "individual_class"
  | .combinedClasses => "combined_classes"
  | .elementClass => "element_class"

/-- The kind a value names; a value that names none counts as reported. Such a value is shown, which
fails when it is too deep. -/
def ofJson (room : Nat) : Json → Except ReadFault VariationKind
  | .string value => .ok ((all.find? fun kind => kind.name.toText == value).getD .reported)
  | value =>
    match value.shown room with
    | .error .tooDeep => .error (.coercion (.undisplayed .tooDeep))
    | _ => .ok .reported

end VariationKind

/-- A candidate selector. -/
structure Variation where
  /-- The selector. -/
  selector : Text
  /-- Candidates of greater priority come first. -/
  priority : Int
  /-- How it was made. -/
  kind : VariationKind
deriving DecidableEq, Repr

namespace Variation

/-- The value that states a variation. -/
def toJson (variation : Variation) : Json :=
  Json.record [("selector", .string variation.selector), ("priority", .int variation.priority),
    ("type", .ofString variation.kind.name)]

/-- The priority a value states. Infinity is refused otherwise than what is no number. -/
def priorityOf (value : Json) : Except ReadFault Int :=
  match value.toWhole with
  | .ok n => .ok n
  | .error .wholeOfInfinity => .error (.coercion .wholeOfInfinity)
  | .error _ => .error (.event .priorityNotWhole)

/-- The variation a value states. The kind may be named `type` or `kind`; the priority is one
unless it is stated. -/
def ofJson (room : Nat) : Json → Except ReadFault Variation
  | .object members =>
    match Json.memberOrNull members "selector" with
    | .string selector =>
      if Text.isBlankText selector then .error (.event .variationWithoutSelector)
      else
        let named := (Json.member? members "type").getD (Json.memberOrNull members "kind")
        match VariationKind.ofJson room named with
        | .error fault => .error fault
        | .ok kind =>
          match priorityOf ((Json.member? members "priority").getD (.int 1)) with
          | .error fault => .error fault
          | .ok priority => .ok ⟨selector, priority, kind⟩
    | _ => .error (.event .variationWithoutSelector)
  | value => .error (.coercion (.noMembers value.kindName))

end Variation

end Restyle
