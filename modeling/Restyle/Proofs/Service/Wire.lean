import Restyle.Proofs.Change.Wire
import Restyle.Proofs.Index
import Restyle.Service

/-!
# Events that are sent

An event that was read, and an event of a difference between two stylesheets, may be applied as it
is or be sent and applied where it arrives: the effect is the same on every service and every disk,
though a removal arrives with the deletion mark (`applyJson_toJson`).
-/
namespace Restyle.Service

variable {event : Event}

/-- A patch of a marked event is that of the event. -/
theorem patch_marked (service : Service) (disk : Disk) (event : Event) (root : Text) :
    service.patch disk event.marked root = service.patch disk event root := by
  have update : ∀ (workspace : Workspace) (path : Text) (rule : Rule),
      workspace.updateRule path rule event.changes.marked =
        workspace.updateRule path rule event.changes := by
    intro workspace path rule
    simp only [Workspace.updateRule, Changes.applyTo_marked, Changes.keys_marked]
  have create : ∀ (workspace : Workspace) (selector : Text),
      workspace.createRule selector event.changes.marked root =
        workspace.createRule selector event.changes root := by
    intro workspace selector
    simp only [Workspace.createRule, Changes.applyTo_marked, Changes.keys_marked]
  have candidates : Match.candidates event.marked = Match.candidates event := rfl
  have classes : event.marked.classes = event.classes := rfl
  have changes : event.marked.changes = event.changes.marked := rfl
  simp only [patch, candidates, classes, changes, update, create]

/-- Applying a marked event is applying the event. -/
theorem applyEvent_marked (service : Service) (disk : Disk) (event : Event) :
    service.applyEvent disk event.marked = service.applyEvent disk event := by
  have domain : event.marked.domain = event.domain := rfl
  have target : event.marked.target = event.target := rfl
  have selector : event.marked.selector = event.selector := rfl
  simp only [applyEvent, run, domain, target, selector, patch_marked]

/-- An event that was read or that comes of a difference is read back when it is sent, but for the
mark of its removals; it is sent again as it was; and it has one effect on a service and a disk,
applied as it is or sent. -/
theorem applyJson_toJson
    (made : (∃ rooms value, Event.ofJson rooms value = .ok event) ∨
      ∃ old new, event ∈ Diff.events old new) :
    let arrived : Event :=
      { event with
        changes := event.changes.mapValues fun change =>
          { change with becomes := some (change.becomes.getD deletionMark) } }
    (∀ rooms, Event.ofJson rooms event.toJson = .ok arrived) ∧ arrived.toJson = event.toJson ∧
      ∀ (service : Service) (disk : Disk),
        service.applyJson disk event.toJson = service.applyEvent disk event := by
  intro arrived
  have sendable : event.Sendable := by
    rcases made with ⟨rooms, value, accepted⟩ | ⟨old, new, listed⟩
    · exact Event.sendable_of_ofJson accepted
    · exact Diff.sendable_of_mem_events listed
  have arrives : ∀ rooms, Event.ofJson rooms event.toJson = .ok event.marked := fun rooms =>
    Event.ofJson_toJson rooms sendable
  refine ⟨arrives, event.toJson_marked, fun service disk => ?_⟩
  simp only [applyJson, arrives]
  exact applyEvent_marked service disk event

/-- The law at an event whose selector is that of its candidate, with a removal by null and one by
an object among its changes, and at the event of a difference that removes a property. -/
theorem applyJson_toJson_removal :
    let value := Json.record
      [("selectorVariations", .list [Json.record
          [("selector", .string " .a ".toText), ("priority", .string "3".toText)]]),
        ("classList", .string " a  b ".toText), ("domain", .bool false),
        ("changes", Json.record [(" x ", .null), ("y", .int 1),
          ("x", Json.record [("from", .int 2), ("to", .null)])])]
    let event : Event :=
      { selector := ".a".toText
        changes := .ofList [("x".toText, ⟨none, some "2".toText⟩),
          ("y".toText, ⟨some "1".toText, none⟩)]
        classes := ["a".toText, "b".toText]
        variations := [⟨" .a ".toText, 3, .reported⟩] }
    let arrived : Event :=
      { event with
        changes := .ofList [("x".toText, ⟨some deletionMark, some "2".toText⟩),
          ("y".toText, ⟨some "1".toText, none⟩)] }
    let old := ".a\x7bx:1;y:2\x7d".toText
    let new := ".a\x7by:2\x7d".toText
    let gone : Event :=
      { selector := ".a".toText
        changes := .ofList [("x".toText, ⟨some deletionMark, some "1".toText⟩)]
        classes := ["a".toText] }
    Event.ofJson {} value = .ok event ∧ gone ∈ Diff.events old new ∧
      Event.ofJson {} event.toJson = .ok arrived ∧ arrived.toJson = event.toJson ∧
      Event.ofJson {} gone.toJson = .ok gone ∧
      ∀ (service : Service) (disk : Disk),
        service.applyJson disk event.toJson = service.applyEvent disk event ∧
          service.applyJson disk gone.toJson = service.applyEvent disk gone := by
  intro value event arrived old new gone
  have accepted : Event.ofJson {} value = .ok event := rfl
  have listed : gone ∈ Diff.events old new := by
    have held : (gone.selector, gone.changes) ∈ (Diff.betweenSheets old new).entries := by
      decide +kernel
    exact List.mem_map.2 ⟨_, held, rfl⟩
  obtain ⟨arrives, again, same⟩ := applyJson_toJson (.inl ⟨{}, value, accepted⟩)
  obtain ⟨arrives', _, same'⟩ := applyJson_toJson (.inr ⟨old, new, listed⟩)
  exact ⟨accepted, listed, arrives {}, again, arrives' {},
    fun service disk => ⟨same service disk, same' service disk⟩⟩

end Restyle.Service
