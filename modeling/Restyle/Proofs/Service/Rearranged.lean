import Mathlib.Data.List.Permutation
import Restyle.Proofs.Service.Patch

/-!
# Candidates in another order

Of the candidates of an event only the set of their selectors decides which rule it is written to,
and of its classes only which there are and how often: their order, the priorities and kinds of the
candidates and their repetition decide nothing but the selector of a new rule. Main statement:
`applyEvent_rearranged`.
-/
namespace Restyle

/-- Two events that were sent with the same candidate selectors, in whatever order, with whatever
priorities and kinds and however often, and with the same classes in whatever order. The reported
selectors may differ; where candidates were sent no rule is looked for by them. -/
structure Event.Rearranged (event other : Event) : Prop where
  /-- The changes are the same. -/
  changes : other.changes = event.changes
  /-- The domain is the same. -/
  domain : other.domain = event.domain
  /-- The project path is the same. -/
  target : other.target = event.target
  /-- The classes are the same, each as often. -/
  classes : event.classes.Perm other.classes
  /-- Candidates were sent. -/
  given : event.variations ≠ []
  /-- The candidates have the same selectors. -/
  candidates : ∀ selector, selector ∈ event.variations.map Variation.selector ↔
    selector ∈ other.variations.map Variation.selector

namespace Service

variable {event other : Event} {service : Service} {disk : Disk} {root : Text}

/-- Rearranged events have the same candidates by their selectors. -/
theorem selectors_rearranged (alike : event.Rearranged other) (selector : Text) :
    selector ∈ event.selectors ↔ selector ∈ other.selectors := by
  have given : other.variations ≠ [] := by
    intro nothing
    obtain ⟨variation, listed⟩ := List.exists_mem_of_ne_nil _ alike.given
    have known := (alike.candidates variation.selector).1 (List.mem_map.2 ⟨variation, listed, rfl⟩)
    simp [nothing] at known
  rw [Event.mem_selectors_iff alike.given, Event.mem_selectors_iff given, alike.candidates]

/-- An event finds the same rule with the same score when it is rearranged. -/
theorem match?_rearranged (alike : event.Rearranged other) (service : Service) (root : Text) :
    (service.match? event root).map (fun found => (found.spot, found.score)) =
      (service.match? other root).map fun found => (found.spot, found.score) :=
  Match.map_spot_best?_of_alike alike.classes (selectors_rearranged alike) _ _

/-- A patch is the same for a rearranged event, if there is a match or a new rule would have the
same selector. -/
theorem patch_rearranged (alike : event.Rearranged other)
    (fixed : service.match? event root ≠ none ∨ other.newSelector = event.newSelector) :
    service.patch disk other root = service.patch disk event root := by
  have spots := match?_rearranged alike service root
  rw [patch, patch, alike.changes]
  cases matched : service.match? event root with
  | none =>
    rw [matched, Option.map_none, eq_comm, Option.map_eq_none_iff] at spots
    rw [match?] at matched spots
    simp only [matched, spots]
    exact congrArg (Workspace.createRule _ · _ _) (fixed.resolve_left (absurd matched))
  | some found =>
    rw [matched, Option.map_some, eq_comm] at spots
    obtain ⟨found', matched', same⟩ := Option.map_eq_some_iff.1 spots
    obtain ⟨spot, _⟩ := Prod.mk.inj same
    obtain ⟨file, rule⟩ := Prod.mk.inj spot
    rw [match?] at matched matched'
    simp only [matched, matched', file, rule]

/-- The order, the repetition, the priorities and the kinds of the candidates of an event and the
order of its classes decide nothing but the selector of a new rule: below every root a rearranged
event finds the same rule of the same file with the same score, or neither event finds one; and
applied it has the same result and leaves the same disk and the same service, unless neither event
finds a rule and their first candidates differ. -/
theorem applyEvent_rearranged (alike : event.Rearranged other) (service : Service) (disk : Disk) :
    let one := service.applyEvent disk event
    let two := service.applyEvent disk other
    (∀ root, (service.match? event root).map
        (fun found => (found.file, found.rule, found.score)) =
      (service.match? other root).map fun found => (found.file, found.rule, found.score)) ∧
    ((two.answer = one.answer ∧ two.service = one.service ∧ two.disk = one.disk ∧
        (other.selector = event.selector → two.notices = one.notices)) ∨
      ∃ root, service.resolveRoot disk event.domain event.target = .ok root ∧
        (service.loaded disk root).match? event root = none ∧
        (service.loaded disk root).match? other root = none ∧
        other.newSelector ≠ event.newSelector) := by
  intro one two
  refine ⟨fun root => ?_, ?_⟩
  · have spots := congrArg (Option.map fun place : (Text × Rule) × Int =>
      (place.1.1, place.1.2, place.2)) (match?_rearranged alike service root)
    rw [Option.map_map, Option.map_map] at spots
    exact spots
  · cases resolved : service.resolveRoot disk event.domain event.target with
    | error fault =>
      left
      simp only [one, two, applyEvent, run, alike.domain, alike.target, resolved, true_and]
      intro same
      rw [same]
    | ok root =>
      by_cases fixed : (service.loaded disk root).match? event root ≠ none ∨
          other.newSelector = event.newSelector
      · left
        have patched : (service.loaded disk root).patch disk other root =
            (service.loaded disk root).patch disk event root := patch_rearranged alike fixed
        rw [loaded] at patched
        simp only [one, two, applyEvent, run, alike.domain, alike.target, resolved, patched,
          true_and]
        intro same
        rw [same]
      · rw [not_or, not_not] at fixed
        have spots := match?_rearranged alike (service.loaded disk root) root
        rw [fixed.1, Option.map_none, eq_comm, Option.map_eq_none_iff] at spots
        exact .inr ⟨root, rfl, fixed.1, spots, fixed.2⟩

/-- The law at two rules and two candidates that all score the same: each event finds another
candidate first, and both find the first rule. -/
theorem applyEvent_rearranged_tied :
    let place : Place := ⟨"/w".toText, "/h".toText, [], {}⟩
    let disk := Disk.empty.put ["p".toText, "a.css".toText]
      (.file (Utf8.bytes "ul .a.b\x7bx:1\x7d ol .a.b\x7bx:2\x7d".toText) true)
    let index := ((Index.new place).loadRoot disk "/p".toText).2
    let service : Service := { config := {}, index, root := some "/p".toText }
    let event : Event :=
      { selector := "i".toText
        changes := .ofList [("x".toText, ⟨some "3".toText, none⟩)]
        classes := ["a".toText, "b".toText]
        variations := [⟨".a.b".toText, 1, .reported⟩, ⟨"b .a.b".toText, 9, .combinedClasses⟩] }
    let other : Event :=
      { event with
        classes := ["b".toText, "a".toText]
        variations := [⟨"b .a.b".toText, 2, .reported⟩, ⟨".a.b".toText, 5, .elementClass⟩,
          ⟨"b .a.b".toText, 0, .reported⟩] }
    let rule : Rule :=
      ⟨"ul .a.b".toText, .ofList [("x".toText, "1".toText)], 0, 12, by decide⟩
    let one := service.applyEvent disk event
    let two := service.applyEvent disk other
    event.Rearranged other ∧
      service.match? event "/p".toText =
        some ⟨"/p/a.css".toText, rule, "b .a.b".toText, 80⟩ ∧
      service.match? other "/p".toText = some ⟨"/p/a.css".toText, rule, ".a.b".toText, 80⟩ ∧
      one.answer = .applied ⟨"a.css".toText, "ul .a.b".toText, ["x".toText], false⟩ ∧
      two.answer = one.answer ∧ two.service = one.service ∧ two.disk = one.disk ∧
      two.notices = one.notices := by
  intro place disk index service event other rule one two
  have alike : event.Rearranged other := {
    changes := rfl
    domain := rfl
    target := rfl
    classes := by decide
    given := by decide
    candidates := by
      intro selector
      simp only [event, other, List.map_cons, List.map_nil, List.mem_cons, List.not_mem_nil]
      tauto }
  have order : Match.candidates event = [⟨"b .a.b".toText, 9, .combinedClasses⟩,
      ⟨".a.b".toText, 1, .reported⟩] := by cbv
  have order' : Match.candidates other = [⟨".a.b".toText, 5, .elementClass⟩,
      ⟨"b .a.b".toText, 2, .reported⟩] := by cbv
  have matched : service.match? event "/p".toText =
      some ⟨"/p/a.css".toText, rule, "b .a.b".toText, 80⟩ := by
    rw [match?, order]
    decide +kernel
  have matched' : service.match? other "/p".toText =
      some ⟨"/p/a.css".toText, rule, ".a.b".toText, 80⟩ := by
    rw [match?, order']
    decide +kernel
  have resolved : service.resolveRoot disk event.domain event.target = .ok "/p".toText := rfl
  have applied : one.answer =
      .applied ⟨"a.css".toText, "ul .a.b".toText, ["x".toText], false⟩ := by
    rw [(applyEvent_eq resolved).1, patch, order]
    decide +kernel
  refine ⟨alike, matched, matched', applied, ?_⟩
  rcases (applyEvent_rearranged alike service disk).2 with
    ⟨answer, services, disks, notices⟩ | ⟨root, resolved', unmatched, _⟩
  · exact ⟨answer, services, disks, notices rfl⟩
  · obtain rfl : "/p".toText = root := Except.ok.inj resolved'
    refine absurd unmatched ?_
    rw [match?, order]
    decide +kernel

end Service

end Restyle
