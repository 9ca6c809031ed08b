import Restyle.Change.Diff
import Restyle.Proofs.Change.Property
import Restyle.Proofs.Sheet.Declared

/-!
# What a difference says

The changes between two sets of properties name the properties that differ, with their new value
or with the deletion mark (`get?_changesBetween`). The events between two stylesheets are those of
the selectors that some property differs for, one for each (`leads_of_mem_events`,
`exists_mem_events`, `nodup_events`).
-/
namespace Restyle.Diff

variable {old new : Properties} {name : Text}

/-- The change of a property that may be absent before and after. -/
def change? (before after : Option Text) : Option PropertyChange :=
  if before = after then none else some ⟨some (after.getD deletionMark), before⟩

/-- Written and removed properties are all different. -/
theorem nodup_written_removed (old new : Properties) :
    ((new.entries.filterMap (fun entry =>
        if old.get? entry.1 = some entry.2 then none
        else some (entry.1, (⟨some entry.2, old.get? entry.1⟩ : PropertyChange))) ++
      old.entries.filterMap (fun entry =>
        if new.contains entry.1 then none
        else some (entry.1, (⟨some deletionMark, some entry.2⟩ : PropertyChange)))).map
          Prod.fst).Nodup := by
  rw [List.map_append, List.nodup_append]
  refine ⟨?_, ?_, ?_⟩
  · refine (Entries.sublist_filterMap (fun entry entry' same => ?_) new.entries).nodup new.distinct
    split at same
    · simp at same
    · rw [← Option.some.inj same]
  · refine (Entries.sublist_filterMap (fun entry entry' same => ?_) old.entries).nodup old.distinct
    split at same
    · simp at same
    · rw [← Option.some.inj same]
  · intro one written two removed
    simp only [List.mem_map, List.mem_filterMap] at written removed
    obtain ⟨_, ⟨entry, listed, same⟩, rfl⟩ := written
    obtain ⟨_, ⟨entry', _, same'⟩, rfl⟩ := removed
    split at same
    · simp at same
    · split at same'
      · simp at same'
      · rename_i absent
        rw [← Option.some.inj same, ← Option.some.inj same']
        simp only
        intro equal
        have known : new.contains entry.1 = true :=
          (OrderedMap.contains_iff _ _).2 (List.mem_map.2 ⟨entry, listed, rfl⟩)
        exact absent (equal ▸ known)

/-- A property is written with its new value when it has not got it before. -/
theorem mem_written_iff {change : PropertyChange} :
    (name, change) ∈ new.entries.filterMap (fun entry =>
        if old.get? entry.1 = some entry.2 then none
        else some (entry.1, (⟨some entry.2, old.get? entry.1⟩ : PropertyChange))) ↔
      ∃ value, new.get? name = some value ∧ old.get? name ≠ some value ∧
        change = ⟨some value, old.get? name⟩ := by
  rw [List.mem_filterMap]
  constructor
  · rintro ⟨⟨_, value⟩, listed, same⟩
    split at same
    · simp at same
    · rename_i differs
      obtain ⟨rfl, rfl⟩ := Prod.mk.inj (Option.some.inj same)
      exact ⟨value, (OrderedMap.get?_eq_some_iff _ _ _).2 listed, differs, rfl⟩
  · rintro ⟨value, held, differs, rfl⟩
    exact ⟨(name, value), (OrderedMap.get?_eq_some_iff _ _ _).1 held, if_neg differs⟩

/-- A property is removed when it is there before and not after. -/
theorem mem_removed_iff {change : PropertyChange} :
    (name, change) ∈ old.entries.filterMap (fun entry =>
        if new.contains entry.1 then none
        else some (entry.1, (⟨some deletionMark, some entry.2⟩ : PropertyChange))) ↔
      ∃ value, old.get? name = some value ∧ new.get? name = none ∧
        change = ⟨some deletionMark, some value⟩ := by
  rw [List.mem_filterMap]
  constructor
  · rintro ⟨⟨_, value⟩, listed, same⟩
    split at same
    · simp at same
    · rename_i absent
      obtain ⟨rfl, rfl⟩ := Prod.mk.inj (Option.some.inj same)
      refine ⟨value, (OrderedMap.get?_eq_some_iff _ _ _).2 listed, ?_, rfl⟩
      simpa [OrderedMap.contains] using absent
  · rintro ⟨value, held, absent, rfl⟩
    refine ⟨(name, value), (OrderedMap.get?_eq_some_iff _ _ _).1 held, ?_⟩
    simp [OrderedMap.contains, absent]

/-- A property has a change exactly when it differs. -/
theorem get?_changesBetween (old new : Properties) (name : Text) :
    (changesBetween old new).get? name = change? (old.get? name) (new.get? name) := by
  refine Option.ext fun change => ?_
  rw [changesBetween, OrderedMap.get?_ofList_eq_some_iff (nodup_written_removed old new),
    List.mem_append, mem_written_iff, mem_removed_iff, change?]
  cases before : old.get? name with
  | none =>
    cases after : new.get? name with
    | none => simp
    | some value => simp [eq_comm]
  | some old =>
    cases after : new.get? name with
    | none => simp [eq_comm]
    | some value =>
      by_cases same : old = value
      · simp [same]
      · simp [same, eq_comm]

/-- There are no changes exactly when no property differs. -/
theorem isEmpty_changesBetween_iff (old new : Properties) :
    (changesBetween old new).isEmpty = true ↔ ∀ name, old.get? name = new.get? name := by
  rw [OrderedMap.isEmpty_iff]
  refine forall_congr' fun name => ?_
  rw [get?_changesBetween, change?]
  split
  · simp [*]
  · simp [*]

/-- What a property that is changed, or is not, comes to where its change is merged. -/
theorem get?_applyTo_of_change? {changes : Changes} {before after : Text → Option Text}
    (differ : ∀ name, changes.get? name = change? (before name) (after name))
    (properties : Properties) (name : Text) :
    (changes.applyTo properties).get? name =
      if before name = after name then properties.get? name
      else if after name = some deletionMark then none
      else after name := by
  rw [Changes.get?_applyTo, differ, change?]
  by_cases same : before name = after name
  · simp [same]
  · simp only [if_neg same, Changes.value?, PropertyChange.isDeletion]
    cases held : after name with
    | none => simp
    | some value => by_cases marked : value = deletionMark <;> simp [marked]

/-- The selectors of both versions, each once. -/
theorem nodup_kept_gone {α : Type} (before after : OrderedMap Text Properties)
    (change : Text × Properties → α) (remove : Text × Properties → α) :
    ((after.entries.map (fun entry => (entry.1, change entry)) ++
      (before.keepKeys (!after.contains ·)).entries.map fun entry => (entry.1, remove entry)).map
        Prod.fst).Nodup := by
  rw [List.map_append, List.map_map, List.map_map, List.nodup_append]
  refine ⟨after.distinct, (before.keepKeys _).distinct, fun one kept two gone => ?_⟩
  have known : one ∈ after.keys := kept
  have absent : two ∈ (before.keepKeys (!after.contains ·)).keys := gone
  rw [OrderedMap.keys_keepKeys, List.mem_filter] at absent
  rintro rfl
  simp [(OrderedMap.contains_iff after one).2 known] at absent

/-- Selectors whose entries come to changes have those of their properties. -/
theorem mem_map_entries_iff {sheet : OrderedMap Text Properties} {selector : Text}
    {changes : Changes} (change : Text × Properties → Changes) :
    (selector, changes) ∈ (sheet.entries.map fun entry => (entry.1, change entry)) ↔
      ∃ given, sheet.get? selector = some given ∧ changes = change (selector, given) := by
  constructor
  · intro listed
    obtain ⟨entry, held, same⟩ := List.mem_map.1 listed
    obtain ⟨rfl, rfl⟩ := Prod.mk.inj same
    exact ⟨entry.2, (OrderedMap.get?_eq_some_iff _ _ _).2 held, rfl⟩
  · rintro ⟨given, held, rfl⟩
    exact List.mem_map.2 ⟨(selector, given), (OrderedMap.get?_eq_some_iff _ _ _).1 held, rfl⟩

/-- A selector that is gone is one of the old version only. -/
theorem get?_gone_eq_some_iff {before after : OrderedMap Text Properties} {selector : Text}
    {given : Properties} :
    (before.keepKeys (!after.contains ·)).get? selector = some given ↔
      before.get? selector = some given ∧ after.get? selector = none := by
  rw [OrderedMap.get?_keepKeys]
  cases known : after.get? selector <;> simp [OrderedMap.contains, known]

/-- A selector has the changes between its two versions, if there are any. -/
theorem get?_betweenSheets_eq_some_iff (old new selector : Text) (changes : Changes) :
    (betweenSheets old new).get? selector = some changes ↔
      changes = changesBetween (Sheet.propertiesOf (Sheet.bySelector old) selector)
        (Sheet.propertiesOf (Sheet.bySelector new) selector) ∧ changes.isEmpty = false := by
  have distinct := nodup_kept_gone (Sheet.bySelector old) (Sheet.bySelector new)
    (fun entry => changesBetween (Sheet.propertiesOf (Sheet.bySelector old) entry.1) entry.2)
    (fun entry => changesBetween entry.2 .empty)
  have once := (List.filter_sublist (p := fun entry => !entry.2.isEmpty)).map _ |>.nodup distinct
  refine (OrderedMap.get?_ofList_eq_some_iff once selector changes).trans ?_
  generalize Sheet.bySelector old = before
  generalize Sheet.bySelector new = after
  have filtered : (selector, changes) ∈ List.filter (fun entry => !entry.2.isEmpty)
        (after.entries.map (fun entry =>
          (entry.1, changesBetween (Sheet.propertiesOf before entry.1) entry.2)) ++
        (before.keepKeys (!after.contains ·)).entries.map fun entry =>
          (entry.1, changesBetween entry.2 .empty)) ↔
      ((∃ given, after.get? selector = some given ∧
          changes = changesBetween (Sheet.propertiesOf before selector) given) ∨
        ∃ given, (before.get? selector = some given ∧ after.get? selector = none) ∧
          changes = changesBetween given .empty) ∧ changes.isEmpty = false := by
    rw [List.mem_filter, List.mem_append, Bool.not_eq_true',
      mem_map_entries_iff fun entry => changesBetween (Sheet.propertiesOf before entry.1) entry.2,
      mem_map_entries_iff fun entry => changesBetween entry.2 .empty]
    simp only [get?_gone_eq_some_iff]
  refine filtered.trans (and_congr_left fun some => ?_)
  simp only [Sheet.propertiesOf]
  cases after.get? selector with
  | some given => simp
  | none =>
    cases before.get? selector with
    | some given => simp
    | none =>
      simp only [Option.getD_none]
      constructor
      · rintro (⟨_, absurd, _⟩ | ⟨_, ⟨absurd, _⟩, _⟩)
        · simp at absurd
        · simp at absurd
      · rintro rfl
        exact absurd some (by decide)

/-- An event that changes each property of its selector that differs between two styles, and names
nothing but its selector and the classes of it. -/
structure Leads (before after : Text → Text → Option Text) (event : Event) : Prop where
  /-- It names no domain. -/
  undomained : event.domain = none
  /-- It names no target path. -/
  untargeted : event.target = none
  /-- It brings no candidates. -/
  derived : event.variations = []
  /-- Its classes are those of its selector. -/
  classes : event.classes = Match.classesOf event.selector
  /-- Its changes are those of the properties that differ. -/
  changes : ∀ name,
    event.changes.get? name = change? (before event.selector name) (after event.selector name)

/-- The events between two stylesheets lead from the one to the other. -/
theorem leads_of_mem_events {old new : Text} {event : Event} (listed : event ∈ events old new) :
    Leads (Sheet.styleOf old) (Sheet.styleOf new) event := by
  obtain ⟨⟨selector, changes⟩, held, rfl⟩ := List.mem_map.1 listed
  rw [← OrderedMap.get?_eq_some_iff, get?_betweenSheets_eq_some_iff] at held
  obtain ⟨rfl, _⟩ := held
  exact ⟨rfl, rfl, rfl, rfl, fun name => get?_changesBetween _ _ name⟩

/-- A selector with a property that differs has an event. -/
theorem exists_mem_events {old new selector name : Text}
    (differs : Sheet.styleOf old selector name ≠ Sheet.styleOf new selector name) :
    ∃ event ∈ events old new, event.selector = selector := by
  let changes := changesBetween (Sheet.propertiesOf (Sheet.bySelector old) selector)
    (Sheet.propertiesOf (Sheet.bySelector new) selector)
  have given : changes.isEmpty = false := by
    rw [Bool.eq_false_iff]
    exact fun empty => differs ((isEmpty_changesBetween_iff _ _).1 empty name)
  have held := (get?_betweenSheets_eq_some_iff old new selector changes).2 ⟨rfl, given⟩
  rw [OrderedMap.get?_eq_some_iff] at held
  exact ⟨_, List.mem_map.2 ⟨_, held, rfl⟩, rfl⟩

/-- Every event between two stylesheets is for a selector with a property that differs. -/
theorem exists_differs_of_mem_events {old new : Text} {event : Event}
    (listed : event ∈ events old new) :
    ∃ name, Sheet.styleOf old event.selector name ≠ Sheet.styleOf new event.selector name := by
  obtain ⟨⟨selector, changes⟩, held, rfl⟩ := List.mem_map.1 listed
  rw [← OrderedMap.get?_eq_some_iff, get?_betweenSheets_eq_some_iff] at held
  obtain ⟨rfl, given⟩ := held
  rw [Bool.eq_false_iff, Ne, isEmpty_changesBetween_iff] at given
  exact not_forall.1 given

/-- The events between two stylesheets have different selectors. -/
theorem nodup_events (old new : Text) : ((events old new).map Event.selector).Nodup := by
  rw [events, List.map_map]
  exact (betweenSheets old new).distinct

end Restyle.Diff
