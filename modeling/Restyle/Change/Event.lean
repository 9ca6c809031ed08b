import Restyle.Change.Property
import Restyle.Change.Variation

/-!
# Change events

An event is one observed style change on one element: the selector the element was reported
under, its classes, the changed properties, and optionally the domain it was seen on, the path
of the project it belongs to and candidate selectors. `Event.ofJson` validates what a client
sends and converts it.
-/
namespace Restyle

/-- One observed style change. -/
structure Event where
  /-- The reported selector. -/
  selector : Text
  /-- The changes by property. -/
  changes : Changes
  /-- The classes of the element. -/
  classes : List Text := []
  /-- The domain, as it was sent, if given. -/
  domain : Option Json := none
  /-- The project path, as it was sent, if given. -/
  target : Option Json := none
  /-- The candidate selectors that were sent. -/
  variations : List Variation := []

namespace Event

/-- A value that is given. -/
def given? (value : Json) : Option Json := if value.isGiven then some value else none

/-- The texts of all values that read as something. -/
def classNames (room : Nat) (items : List Json) : Except ReadFault (List Text) :=
  (items.mapM (Json.readable room)).map fun texts => texts.filter (!·.isEmpty)

/-- The class list a value states: a text by its words, any other sequence by its items. -/
def classesOf (room : Nat) (value : Json) : Except ReadFault (List Text) :=
  match given? value with
  | none => .ok []
  | some (.string value) => .ok (Text.words value)
  | some value => (value.toItems.mapError .coercion).bind (classNames room)

/-- The changes that members state; members whose name is blank state none. -/
def changesOf (room : Nat) (members : List (Text × Json)) : Except ReadFault Changes :=
  let named := members.filter fun member => !Text.isBlankText member.1
  match named.mapM fun member =>
    do return (Text.trim member.1, ← PropertyChange.ofJson room member.2)
  with
  | .error fault => .error fault
  | .ok entries =>
    if entries.isEmpty then .error (.event .changesRequired) else .ok (.ofList entries)

/-- The variations a value states. -/
def variationsOf (room : Nat) (value : Json) : Except ReadFault (List Variation) :=
  match given? value with
  | none => .ok []
  | some (.list items) => items.mapM (Variation.ofJson room)
  | some _ => .error (.event .variationsNotAList)

/-- The selector of an event: the stated one, else that of the first variation. -/
def selectorOf (value : Json) (variations : List Variation) : Except EventFault Text :=
  let fallback : Except EventFault Text :=
    match variations with
    | [] => .error .selectorRequired
    | first :: _ => .ok first.selector
  match value with
  | .string selector => if Text.isBlankText selector then fallback else .ok selector
  | _ => fallback

/-- The event a value states. -/
def ofJson (rooms : Json.Rooms) : Json → Except ReadFault Event
  | .object members => do
    let stated ← match Json.memberOrNull members "changes" with
      | .object [] => .error (.event .changesRequired)
      | .object stated => .ok stated
      | _ => .error (.event .changesRequired)
    let variations ← variationsOf rooms.kind (Json.memberOrNull members "selectorVariations")
    let selector ←
      (selectorOf (Json.memberOrNull members "selector") variations).mapError .event
    let changes ← changesOf rooms.change stated
    let classes ← classesOf rooms.className (Json.memberOrNull members "classList")
    return {
      selector := Text.trim selector
      changes
      classes
      domain := given? (Json.memberOrNull members "domain")
      target := given? (Json.memberOrNull members "targetPath")
      variations }
  | _ => .error (.event .notAnObject)

/-- The value that states an event. -/
def toJson (event : Event) : Json :=
  let given (name : String) : Option Json → List (String × Json)
    | none => []
    | some value => [(name, value)]
  let variations :=
    if event.variations.isEmpty then []
    else [("selectorVariations", Json.list (event.variations.map Variation.toJson))]
  Json.record ([("selector", .string event.selector), ("classList", .ofTexts event.classes),
    ("changes", .object (event.changes.mapValues PropertyChange.toJson).entries)] ++
    given "domain" event.domain ++ given "targetPath" event.target ++ variations)

end Event

end Restyle
