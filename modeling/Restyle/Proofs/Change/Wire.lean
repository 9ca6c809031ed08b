import Restyle.Proofs.Change.Diff
import Restyle.Proofs.Except
import Restyle.Proofs.Match.Classes
import Restyle.Proofs.Sheet.Update
import Restyle.Proofs.Text.Trim

/-!
# Events on the wire

An event that is sent and read again says what it said: only a removal without a new value comes
back with the deletion mark. This holds of every event whose texts are as reading leaves them
(`Event.Sendable`), so of every event that was read (`Event.sendable_of_ofJson`) and of every event
of a difference (`Diff.sendable_of_mem_events`). Main statement: `Event.ofJson_toJson`.
-/
namespace Restyle

namespace Text

/-- A text that is not empty and has no blanks around it. -/
structure Tidy (text : Text) : Prop where
  /-- The text is not empty. -/
  given : text ≠ []
  /-- The text has no blanks around it. -/
  trimmed : trim text = text

/-- A text that is not blank is tidy when it is trimmed. -/
theorem tidy_trim {text : Text} (seen : isBlankText text = false) : Tidy (trim text) := by
  refine ⟨fun nothing => ?_, trim_trim text⟩
  obtain ⟨front, back, whole, before, behind⟩ := exists_trim text
  rw [nothing, List.nil_append] at whole
  have blank : isBlankText text = true := by
    rw [isBlankText, whole, List.all_append, List.all_eq_true.2 before, List.all_eq_true.2 behind]
    rfl
  simp [blank] at seen

/-- A tidy text is not blank. -/
theorem Tidy.isBlankText_eq {text : Text} (tidy : Tidy text) : isBlankText text = false := by
  cases text with
  | nil => exact absurd rfl tidy.given
  | cons c rest => simp [isBlankText, not_isBlank_of_trim tidy.trimmed]

end Text

namespace Json

/-- The members of a record are found by their names. -/
theorem memberOrNull_record (members : List (String × Json)) (name : String) :
    memberOrNull (members.map fun member => (member.1.toText, member.2)) name =
      (Entries.lookup name members).getD .null := by
  rw [memberOrNull, member?]
  congr 1
  induction members with
  | nil => rfl
  | cons member rest ih =>
    rw [List.map_cons, Entries.lookup, Entries.lookup, ih]
    simp only [Text.toText_inj]

end Json

namespace PropertyChange

/-- The change with its removal, if it is one, marked. -/
def marked (change : PropertyChange) : PropertyChange :=
  { change with becomes := some (change.becomes.getD deletionMark) }

/-- What is given for a text or for none is read as it. -/
theorem textOf?_ofText? (room : Nat) (text : Option Text) :
    textOf? room (Json.ofText? text) = .ok text := by
  cases text <;> rfl

/-- A change that states both its values is read as it is. -/
theorem ofJson_record (room : Nat) (was : Option Text) (value : Text) :
    ofJson room (Json.record [("from", Json.ofText? was), ("to", .string value)]) =
      .ok ⟨some value, was⟩ := by
  have plain : textOf? room (.string value) = .ok (some value) := rfl
  simp only [ofJson, Json.record, Json.member?, Json.memberOrNull, Entries.lookup, List.map_cons,
    List.map_nil, Text.toText_inj, if_true, reduceIte, String.reduceEq, Option.getD_some, plain,
    textOf?_ofText?]
  rfl

/-- A change that is sent comes back marked. -/
theorem ofJson_toJson (room : Nat) (change : PropertyChange) :
    ofJson room change.toJson = .ok change.marked := by
  obtain ⟨becomes, was⟩ := change
  cases becomes with
  | none => exact ofJson_record room was deletionMark
  | some value =>
    cases was with
    | some old => exact ofJson_record room (some old) value
    | none =>
      simp only [toJson]
      split
      · rename_i mark
        subst mark
        exact ofJson_record room none deletionMark
      · rfl

/-- A marked change is sent as the change itself. -/
theorem toJson_marked (change : PropertyChange) : change.marked.toJson = change.toJson := by
  obtain ⟨becomes, was⟩ := change
  cases becomes with
  | none => cases was <;> rfl
  | some value => rfl

/-- A marked change removes what the change removes, and writes what it writes. -/
theorem value?_marked (change : PropertyChange) :
    Changes.value? change.marked = Changes.value? change := by
  obtain ⟨becomes, was⟩ := change
  cases becomes <;> rfl

end PropertyChange

namespace Changes

/-- The changes with their removals marked. -/
def marked (changes : Changes) : Changes := changes.mapValues PropertyChange.marked

/-- Marked changes are of the same properties. -/
theorem keys_marked (changes : Changes) : changes.marked.keys = changes.keys := by
  simp [marked, OrderedMap.keys, OrderedMap.mapValues, Function.comp_def]

/-- Marked changes make the same of all properties. -/
theorem applyTo_marked (changes : Changes) (properties : Properties) :
    changes.marked.applyTo properties = changes.applyTo properties := by
  have step : ∀ (merged : Properties) (name : Text) (change : PropertyChange),
      applyOne merged name change.marked = applyOne merged name change := by
    intro merged name change
    rw [applyOne_eq, applyOne_eq, change.value?_marked]
  simp only [marked, applyTo, OrderedMap.mapValues, List.foldl_map, step]

end Changes

namespace Variation

/-- A variation that is sent comes back as it was. -/
theorem ofJson_toJson (room : Nat) {variation : Variation}
    (seen : Text.isBlankText variation.selector = false) :
    ofJson room variation.toJson = .ok variation := by
  obtain ⟨selector, priority, kind⟩ := variation
  simp only at seen
  have same : VariationKind.ofJson room (.ofString kind.name) = .ok kind := by
    cases kind <;> rfl
  simp [toJson, ofJson, Json.record, Json.member?, Json.memberOrNull, Entries.lookup, seen,
    priorityOf, Json.toWhole, same]

/-- The selector of a variation that was read is not blank. -/
theorem isBlankText_of_ofJson {room : Nat} {value : Json} {variation : Variation}
    (accepted : ofJson room value = .ok variation) :
    Text.isBlankText variation.selector = false := by
  unfold ofJson at accepted
  split at accepted
  · split at accepted
    · split at accepted
      · simp at accepted
      · rename_i seen
        simp only at accepted
        split at accepted
        · simp at accepted
        · split at accepted
          · simp at accepted
          · rw [← Except.ok.inj accepted]
            simpa using seen
    · simp at accepted
  · simp at accepted

end Variation

namespace Event

/-- An event with its texts as reading leaves them. -/
structure Sendable (event : Event) : Prop where
  /-- The selector is tidy. -/
  selector : Text.Tidy event.selector
  /-- Some property is changed. -/
  changed : event.changes.entries ≠ []
  /-- The names of the changed properties are tidy. -/
  names : ∀ name ∈ event.changes.keys, Text.Tidy name
  /-- No class is empty. -/
  classes : ∀ name ∈ event.classes, name ≠ []
  /-- A domain that is there is given. -/
  domain : ∀ value, event.domain = some value → value.isGiven = true
  /-- A target path that is there is given. -/
  target : ∀ value, event.target = some value → value.isGiven = true
  /-- No candidate is blank. -/
  variations : ∀ variation ∈ event.variations, Text.isBlankText variation.selector = false

/-- The event with its removals marked. -/
def marked (event : Event) : Event := { event with changes := event.changes.marked }

variable {event : Event} {value : Json} {room : Nat} {rooms : Json.Rooms}

/-- The members of the value that states an event. -/
theorem exists_toJson_eq (event : Event) :
    ∃ members, event.toJson = .object members ∧
      Json.memberOrNull members "selector" = .string event.selector ∧
      Json.memberOrNull members "classList" = .ofTexts event.classes ∧
      Json.memberOrNull members "changes" =
        .object (event.changes.mapValues PropertyChange.toJson).entries ∧
      Json.memberOrNull members "domain" = event.domain.getD .null ∧
      Json.memberOrNull members "targetPath" = event.target.getD .null ∧
      Json.memberOrNull members "selectorVariations" =
        if event.variations.isEmpty then .null
        else .list (event.variations.map Variation.toJson) := by
  refine ⟨_, rfl, ?_⟩
  simp only [Json.memberOrNull_record]
  cases event.domain <;> cases event.target <;> cases event.variations.isEmpty <;>
    simp [Entries.lookup]

/-- A value that is there is given or is none. -/
theorem given?_getD {sent : Option Json}
    (given : ∀ value, sent = some value → value.isGiven = true) :
    given? (sent.getD .null) = sent := by
  cases sent with
  | none => rfl
  | some value => rw [Option.getD_some, given?, if_pos (given value rfl)]

/-- What is kept of a value is given. -/
theorem isGiven_of_given? {kept : Json} (same : given? value = some kept) :
    kept.isGiven = true := by
  rw [given?] at same
  split at same
  · rename_i given
    rw [← Option.some.inj same]
    exact given
  · simp at same

/-- Classes that are sent come back as they were. -/
theorem classesOf_ofTexts (room : Nat) {classes : List Text}
    (named : ∀ name ∈ classes, name ≠ []) :
    classesOf room (.ofTexts classes) = .ok classes := by
  cases classes with
  | nil => rfl
  | cons first rest =>
    have shown : ((first :: rest).map Json.string).mapM (Json.readable room) =
        .ok (first :: rest) := by
      rw [List.mapM_map]
      have each : ∀ name ∈ first :: rest, Json.readable room (.string name) = .ok (id name) :=
        fun _ _ => rfl
      exact (mapM_eq_ok each).trans (by rw [List.map_id])
    have kept : (first :: rest).filter (!·.isEmpty) = first :: rest := by
      rw [List.filter_eq_self]
      intro name listed
      simp [named name listed]
    have read : classesOf room (.ofTexts (first :: rest)) =
        classNames room ((first :: rest).map .string) := rfl
    rw [read, classNames, shown]
    exact congrArg Except.ok kept

/-- No class that was read is empty. -/
theorem ne_nil_of_classesOf {classes : List Text} (read : classesOf room value = .ok classes) :
    ∀ name ∈ classes, name ≠ [] := by
  intro name listed
  unfold classesOf at read
  split at read
  · rw [← Except.ok.inj read] at listed
    simp at listed
  · rw [← Except.ok.inj read, Text.words, Text.splitNonempty] at listed
    simpa using (List.mem_filter.1 listed).2
  · obtain ⟨items, _, made⟩ := exists_of_bind_eq_ok read
    obtain ⟨texts, _, rfl⟩ := exists_of_map_eq_ok made
    simpa using (List.mem_filter.1 listed).2

/-- Variations that are sent come back as they were. -/
theorem variationsOf_toJson (room : Nat) {variations : List Variation}
    (seen : ∀ variation ∈ variations, Text.isBlankText variation.selector = false) :
    variationsOf room
        (if variations.isEmpty then .null else .list (variations.map Variation.toJson)) =
      .ok variations := by
  cases variations with
  | nil => rfl
  | cons first rest =>
    have each : ∀ variation ∈ first :: rest,
        Variation.ofJson room variation.toJson = .ok (id variation) := fun variation listed =>
      Variation.ofJson_toJson room (seen variation listed)
    have read : variationsOf room (if (first :: rest).isEmpty then .null
          else .list ((first :: rest).map Variation.toJson)) =
        ((first :: rest).map Variation.toJson).mapM (Variation.ofJson room) := rfl
    rw [read, List.mapM_map]
    exact (mapM_eq_ok each).trans (by rw [List.map_id])

/-- The selectors of variations that were read are not blank. -/
theorem isBlankText_of_variationsOf {variations : List Variation}
    (read : variationsOf room value = .ok variations) :
    ∀ variation ∈ variations, Text.isBlankText variation.selector = false := by
  intro variation listed
  unfold variationsOf at read
  split at read
  · rw [← Except.ok.inj read] at listed
    simp at listed
  · obtain ⟨item, _, accepted⟩ := exists_of_mem_mapM read variation listed
    exact Variation.isBlankText_of_ofJson accepted
  · simp at read

/-- A selector that was read is not blank when no variation is. -/
theorem isBlankText_of_selectorOf {variations : List Variation} {selector : Text}
    (seen : ∀ variation ∈ variations, Text.isBlankText variation.selector = false)
    (read : selectorOf value variations = .ok selector) : Text.isBlankText selector = false := by
  rw [selectorOf.eq_def] at read
  extract_lets fallback at read
  have taken : fallback = .ok selector → Text.isBlankText selector = false := by
    intro taken
    cases variations with
    | nil => simp [fallback] at taken
    | cons first rest =>
      rw [← Except.ok.inj taken]
      exact seen first (by simp)
  split at read
  · split at read
    · exact taken read
    · rename_i stated
      rw [← Except.ok.inj read]
      simpa using stated
  · exact taken read

/-- Changes that are sent come back marked. -/
theorem changesOf_toJson (room : Nat) {changes : Changes} (changed : changes.entries ≠ [])
    (names : ∀ name ∈ changes.keys, Text.Tidy name) :
    changesOf room (changes.mapValues PropertyChange.toJson).entries = .ok changes.marked := by
  have tidy : ∀ entry ∈ changes.entries, Text.Tidy entry.1 := fun entry listed =>
    names entry.1 (List.mem_map.2 ⟨entry, listed, rfl⟩)
  have kept : (changes.mapValues PropertyChange.toJson).entries.filter
      (fun member => !Text.isBlankText member.1) =
        (changes.mapValues PropertyChange.toJson).entries := by
    rw [List.filter_eq_self]
    intro member listed
    obtain ⟨entry, held, rfl⟩ := List.mem_map.1 listed
    simp [(tidy entry held).isBlankText_eq]
  have each : (changes.mapValues PropertyChange.toJson).entries.mapM
      (fun member => do return (Text.trim member.1, ← PropertyChange.ofJson room member.2)) =
        Except.ok changes.marked.entries := by
    rw [OrderedMap.mapValues, List.mapM_map]
    refine mapM_eq_ok fun entry listed => ?_
    simp only [Function.comp_apply, PropertyChange.ofJson_toJson, (tidy entry listed).trimmed]
    rfl
  have given : changes.marked.entries.isEmpty = false := by
    simpa [Changes.marked, OrderedMap.mapValues] using changed
  have whole : OrderedMap.ofList changes.marked.entries = changes.marked :=
    OrderedMap.ext_entries (OrderedMap.entries_ofList changes.marked.distinct)
  rw [changesOf]
  simp only [kept, each, given, whole]
  rfl

/-- Changes that were read are of some property, and the names of their properties are tidy. -/
theorem tidy_of_changesOf {stated : List (Text × Json)} {changes : Changes}
    (read : changesOf room stated = .ok changes) :
    changes.entries ≠ [] ∧ ∀ name ∈ changes.keys, Text.Tidy name := by
  rw [changesOf] at read
  split at read
  · simp at read
  · rename_i entries each
    split at read
    · simp at read
    · rename_i given
      obtain rfl := Except.ok.inj read
      refine ⟨fun nothing => given ?_, fun name known => ?_⟩
      · have keys : (OrderedMap.ofList entries).keys = [] := by rw [OrderedMap.keys, nothing]; rfl
        cases entries with
        | nil => rfl
        | cons first rest =>
          have listed := OrderedMap.mem_keys_ofList_cons first rest
          simp [keys] at listed
      · obtain ⟨change, held⟩ := Option.isSome_iff_exists.1
          ((OrderedMap.contains_iff _ name).2 known)
        have listed := OrderedMap.mem_of_get?_ofList held
        obtain ⟨member, kept, made⟩ := exists_of_mem_mapM each _ listed
        obtain ⟨_, _, same⟩ := exists_of_bind_eq_ok made
        obtain ⟨rfl, _⟩ := Prod.mk.inj (Except.ok.inj same)
        exact Text.tidy_trim (by simpa using (List.mem_filter.1 kept).2)

/-- What members state when they state an event. -/
theorem ofJson_eq_ok_iff {members : List (Text × Json)} :
    ofJson rooms (.object members) = .ok event ↔
      ∃ stated variations selector changes classes,
        Json.memberOrNull members "changes" = .object stated ∧ stated ≠ [] ∧
        variationsOf rooms.kind (Json.memberOrNull members "selectorVariations") =
          .ok variations ∧
        selectorOf (Json.memberOrNull members "selector") variations = .ok selector ∧
        changesOf rooms.change stated = .ok changes ∧
        classesOf rooms.className (Json.memberOrNull members "classList") = .ok classes ∧
        event = {
          selector := Text.trim selector
          changes
          classes
          domain := given? (Json.memberOrNull members "domain")
          target := given? (Json.memberOrNull members "targetPath")
          variations } := by
  constructor
  · intro accepted
    rw [ofJson] at accepted
    split at accepted
    · simp [bind, Except.bind] at accepted
    · rename_i stated some same
      obtain ⟨_, taken, accepted⟩ := exists_of_bind_eq_ok accepted
      obtain rfl := Except.ok.inj taken
      obtain ⟨variations, given, accepted⟩ := exists_of_bind_eq_ok accepted
      obtain ⟨selector, chosen, accepted⟩ := exists_of_bind_eq_ok accepted
      obtain ⟨changes, changed, accepted⟩ := exists_of_bind_eq_ok accepted
      obtain ⟨classes, listed, accepted⟩ := exists_of_bind_eq_ok accepted
      exact ⟨stated, variations, selector, changes, classes, same, some, given,
        eq_ok_of_mapError_eq_ok chosen, changed, listed, (Except.ok.inj accepted).symm⟩
    · simp [bind, Except.bind] at accepted
  · rintro ⟨stated, variations, selector, changes, classes, same, some, given, chosen, changed,
      listed, rfl⟩
    obtain ⟨first, rest, rfl⟩ := List.exists_cons_of_ne_nil some
    simp only [ofJson, same, given, chosen, changed, listed, Except.mapError, bind, Except.bind,
      pure, Except.pure]

/-- An event that was read has its texts as reading leaves them. -/
theorem sendable_of_ofJson (accepted : ofJson rooms value = .ok event) : event.Sendable := by
  cases value with
  | object members =>
    obtain ⟨stated, variations, selector, changes, classes, _, _, given, chosen, changed, listed,
      rfl⟩ := ofJson_eq_ok_iff.1 accepted
    obtain ⟨some, names⟩ := tidy_of_changesOf changed
    have seen := isBlankText_of_variationsOf given
    exact {
      selector := Text.tidy_trim (isBlankText_of_selectorOf seen chosen)
      changed := some
      names
      classes := ne_nil_of_classesOf listed
      domain := fun _ same => isGiven_of_given? same
      target := fun _ same => isGiven_of_given? same
      variations := seen }
  | _ => simp [ofJson] at accepted

/-- An event with its texts as reading leaves them comes back marked when it is sent. -/
theorem ofJson_toJson (rooms : Json.Rooms) (sendable : event.Sendable) :
    ofJson rooms event.toJson = .ok event.marked := by
  obtain ⟨members, stated, selector, classes, changes, domain, target, variations⟩ :=
    event.exists_toJson_eq
  have chosen : selectorOf (.string event.selector) event.variations = .ok event.selector := by
    rw [selectorOf.eq_def]
    simp [sendable.selector.isBlankText_eq]
  rw [stated, ofJson_eq_ok_iff, selector, classes, changes, domain, target, variations]
  refine ⟨_, event.variations, event.selector, event.changes.marked, event.classes, rfl, ?_,
    variationsOf_toJson rooms.kind sendable.variations, chosen,
    changesOf_toJson rooms.change sendable.changed sendable.names,
    classesOf_ofTexts rooms.className sendable.classes, ?_⟩
  · simpa [OrderedMap.mapValues] using sendable.changed
  · rw [given?_getD sendable.domain, given?_getD sendable.target, sendable.selector.trimmed]
    rfl

/-- A marked event is sent as the event itself. -/
theorem toJson_marked (event : Event) : event.marked.toJson = event.toJson := by
  have same : event.changes.marked.mapValues PropertyChange.toJson =
      event.changes.mapValues PropertyChange.toJson :=
    OrderedMap.ext_entries (by
      simp [Changes.marked, OrderedMap.mapValues, PropertyChange.toJson_marked])
  simp only [toJson, marked, same]
  rfl

end Event

namespace Sheet

/-- A stylesheet gives values only to tidy names under tidy selectors. -/
theorem tidy_of_styleOf {text selector name : Text} (given : styleOf text selector name ≠ none) :
    Text.Tidy selector ∧ Text.Tidy name := by
  obtain ⟨value, given⟩ := Option.ne_none_iff_exists'.1 given
  rw [styleOf_eq] at given
  obtain ⟨_, listed, rfl, stated⟩ := exists_of_declared given
  obtain ⟨rule, held, rfl⟩ := List.mem_map.1 listed
  obtain ⟨fit, legible⟩ := of_mem_rules held
  have declaration := legible _ ((OrderedMap.get?_eq_some_iff _ _ _).1 stated)
  exact ⟨⟨fit.given, fit.trimmed⟩, ⟨declaration.named, declaration.trimmed⟩⟩

end Sheet

/-- An event between two stylesheets has its texts as reading leaves them. -/
theorem Diff.sendable_of_mem_events {old new : Text} {event : Event}
    (listed : event ∈ events old new) : event.Sendable := by
  have leads := leads_of_mem_events listed
  have tidy : ∀ name, Sheet.styleOf old event.selector name ≠
      Sheet.styleOf new event.selector name →
        Text.Tidy event.selector ∧ Text.Tidy name := by
    intro name differs
    by_cases before : Sheet.styleOf old event.selector name = none
    · exact Sheet.tidy_of_styleOf fun after => differs (before.trans after.symm)
    · exact Sheet.tidy_of_styleOf before
  obtain ⟨name, differs⟩ := exists_differs_of_mem_events listed
  have changed : event.changes.get? name ≠ none := by
    rw [leads.changes, change?, if_neg differs]
    simp
  refine ⟨(tidy name differs).1, fun nothing => changed ?_, fun other known => ?_, ?_, ?_, ?_, ?_⟩
  · rw [OrderedMap.get?, nothing]
    rfl
  · have held := (OrderedMap.contains_iff _ other).2 known
    refine (tidy other fun same => ?_).2
    rw [OrderedMap.contains, leads.changes, change?, if_pos same] at held
    simp at held
  · intro name listed
    rw [leads.classes] at listed
    rintro rfl
    have whole := (Match.isClass_of_mem_classesOf listed).whole [] (by simp)
    simp [Match.className?] at whole
  · simp [leads.undomained]
  · simp [leads.untargeted]
  · simp [leads.derived]

end Restyle
