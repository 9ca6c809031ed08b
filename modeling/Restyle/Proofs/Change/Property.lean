import Restyle.Change.Property
import Restyle.Proofs.OrderedMap

/-!
# Merging changes

What merged properties hold is settled name by name: a changed name has its new value or none, and
every other name is as before (`get?_applyTo`). In order they are the properties there were and then
the new names (`entries_applyTo`). Merged into no properties, changes leave what they write, in
their own order (`applyTo_empty`).
-/
namespace Restyle.Changes

/-- The new value that a change gives, if it does not remove the property. -/
def value? (change : PropertyChange) : Option Text :=
  if change.isDeletion then none else change.becomes

/-- A change gives its new value unless this is the deletion mark. -/
theorem value?_eq_some_iff (change : PropertyChange) (value : Text) :
    value? change = some value ↔ change.becomes = some value ∧ value ≠ deletionMark := by
  obtain ⟨becomes, was⟩ := change
  cases becomes with
  | none => simp [value?, PropertyChange.isDeletion]
  | some new =>
    simp only [value?, PropertyChange.isDeletion, beq_iff_eq, reduceCtorEq, Bool.or_eq_true,
      Option.some.injEq, false_or, ite_eq_iff]
    constructor
    · rintro (⟨_, absurd⟩ | ⟨plain, rfl⟩)
      · simp at absurd
      · exact ⟨rfl, plain⟩
    · rintro ⟨rfl, plain⟩
      exact .inr ⟨plain, rfl⟩

/-- Merging one change is putting its new value or removing its name. -/
theorem applyOne_eq (properties : Properties) (name : Text) (change : PropertyChange) :
    applyOne properties name change =
      match value? change with
      | none => properties.erase name
      | some value => properties.insert name value := by
  obtain ⟨becomes, was⟩ := change
  cases becomes with
  | none => simp [applyOne, value?, PropertyChange.isDeletion]
  | some value =>
    simp only [applyOne, value?]
    split <;> rfl

/-- Merging one change gives its name its new value or none. -/
theorem get?_applyOne (properties : Properties) (name : Text) (change : PropertyChange)
    (other : Text) :
    (applyOne properties name change).get? other =
      if other = name then value? change else properties.get? other := by
  rw [applyOne_eq]
  cases value? change with
  | none => exact OrderedMap.get?_erase properties name other
  | some value => exact OrderedMap.get?_insert properties name other value

/-- Merging the changes of entries gives each name the value of its entry. -/
theorem get?_foldl_applyOne {entries : List (Text × PropertyChange)}
    (distinct : (entries.map Prod.fst).Nodup) (properties : Properties) (other : Text) :
    (entries.foldl (fun merged entry => applyOne merged entry.1 entry.2) properties).get? other =
      match Entries.lookup other entries with
      | some change => value? change
      | none => properties.get? other := by
  induction entries generalizing properties with
  | nil => rfl
  | cons entry rest ih =>
    obtain ⟨name, change⟩ := entry
    rw [List.map_cons, List.nodup_cons] at distinct
    rw [List.foldl_cons, ih distinct.2, Entries.lookup, get?_applyOne]
    by_cases same : other = name
    · subst same
      have absent : Entries.lookup other rest = none := by
        rw [← Option.not_isSome_iff_eq_none, Entries.isSome_lookup]
        exact distinct.1
      simp [absent]
    · simp [same]

/-- A changed name has the new value of its change, every other name the value it had. -/
theorem get?_applyTo (changes : Changes) (properties : Properties) (name : Text) :
    (changes.applyTo properties).get? name =
      match changes.get? name with
      | some change => value? change
      | none => properties.get? name :=
  get?_foldl_applyOne changes.distinct properties name

/-- What entries of changes write: the names that are not removed, with their new values. -/
def keptEntries (entries : List (Text × PropertyChange)) : List (Text × Text) :=
  entries.filterMap fun entry => (value? entry.2).map (entry.1, ·)

/-- What is written is named by some of the changes, in their order. -/
theorem keptEntries_sublist (entries : List (Text × PropertyChange)) :
    ((keptEntries entries).map Prod.fst).Sublist (entries.map Prod.fst) := by
  refine Entries.sublist_filterMap (fun entry entry' same => ?_) entries
  obtain ⟨_, _, rfl⟩ := Option.map_eq_some_iff.1 same
  rfl

/-- The changes that are not deletions, as properties. -/
def kept (changes : Changes) : Properties :=
  ⟨keptEntries changes.entries, (keptEntries_sublist changes.entries).nodup changes.distinct⟩

/-- What becomes of a property that entries of changes are merged into: it has the new value of its
name, or is left out. -/
def revise (entries : List (Text × PropertyChange)) (property : Text × Text) :
    Option (Text × Text) :=
  match Entries.lookup property.1 entries with
  | none => some property
  | some change => (value? change).map (property.1, ·)

/-- A property whose name is not changed stays. -/
theorem revise_of_not_mem {entries : List (Text × PropertyChange)} {property : Text × Text}
    (unchanged : property.1 ∉ entries.map Prod.fst) : revise entries property = some property := by
  have absent : Entries.lookup property.1 entries = none := by
    rw [← Option.not_isSome_iff_eq_none, Entries.isSome_lookup]
    exact unchanged
  rw [revise, absent]

/-- Properties whose names are not changed stay. -/
theorem filterMap_revise_of_not_mem {entries : List (Text × PropertyChange)}
    {properties : List (Text × Text)}
    (unchanged : ∀ property ∈ properties, property.1 ∉ entries.map Prod.fst) :
    properties.filterMap (revise entries) = properties := by
  rw [List.filterMap_congr fun property held => revise_of_not_mem (unchanged property held)]
  exact List.filterMap_some

/-- Revising by one change and then by changes of other names is revising by all of them. -/
theorem filterMap_revise_revise {name : Text} {change : PropertyChange}
    {rest : List (Text × PropertyChange)} (unique : name ∉ rest.map Prod.fst)
    (properties : List (Text × Text)) :
    (properties.filterMap (revise [(name, change)])).filterMap (revise rest) =
      properties.filterMap (revise ((name, change) :: rest)) := by
  rw [List.filterMap_filterMap]
  refine List.filterMap_congr fun property _ => ?_
  by_cases same : property.1 = name
  · cases given : value? change with
    | none => simp [revise, Entries.lookup, same, given]
    | some value =>
      have stays : revise rest (property.1, value) = some (property.1, value) :=
        revise_of_not_mem (by rw [same]; exact unique)
      have first : revise [(name, change)] property = some (property.1, value) := by
        simp [revise, Entries.lookup, same, given]
      have whole : revise ((name, change) :: rest) property = some (property.1, value) := by
        simp [revise, Entries.lookup, same, given]
      rw [first, whole, Option.bind_some, stays]
  · have first : revise [(name, change)] property = some property :=
      revise_of_not_mem (by simpa using same)
    rw [first, Option.bind_some, revise, revise, Entries.lookup, if_neg same]

/-- Merging one change revises the properties there are, and writes a new name behind them. -/
theorem entries_applyOne (properties : Properties) (name : Text) (change : PropertyChange) :
    (applyOne properties name change).entries =
      properties.entries.filterMap (revise [(name, change)]) ++
        if name ∈ properties.keys then [] else keptEntries [(name, change)] := by
  rw [applyOne_eq]
  cases given : value? change with
  | none =>
    have written : keptEntries [(name, change)] = [] := by simp [keptEntries, given]
    rw [written, ite_self, List.append_nil]
    show properties.entries.filter _ = _
    rw [← List.filterMap_eq_filter]
    refine List.filterMap_congr fun property _ => ?_
    by_cases same : property.1 = name
    · simp [revise, Entries.lookup, same, given, Option.guard]
    · simp [revise, Entries.lookup, same, Option.guard]
  | some value =>
    have written : keptEntries [(name, change)] = [(name, value)] := by simp [keptEntries, given]
    simp only [written]
    by_cases known : name ∈ properties.keys
    · rw [if_pos known]
      obtain ⟨⟨key, old⟩, listed, rfl⟩ := List.mem_map.1 known
      obtain ⟨front, back, parted⟩ := List.append_of_mem listed
      have distinct := properties.distinct
      rw [parted, List.map_append, List.map_cons, List.nodup_append, List.nodup_cons] at distinct
      have revised : revise [(key, change)] (key, old) = some (key, value) := by
        simp [revise, Entries.lookup, given]
      rw [OrderedMap.entries_insert_of_entries_eq parted, List.append_nil, parted,
        List.filterMap_append, List.filterMap_cons, revised, filterMap_revise_of_not_mem,
        filterMap_revise_of_not_mem]
      · intro property held
        rw [List.map_singleton, List.mem_singleton]
        exact fun same => distinct.2.1.1 (List.mem_map.2 ⟨property, held, same⟩)
      · intro property held
        rw [List.map_singleton, List.mem_singleton]
        exact fun same => distinct.2.2 property.1 (List.mem_map.2 ⟨property, held, rfl⟩) key
          (by simp) same
    · rw [if_neg known]
      have absent : properties.get? name = none := by
        rw [← Option.not_isSome_iff_eq_none]
        exact fun given => known ((OrderedMap.contains_iff _ _).1 given)
      rw [OrderedMap.entries_insert_of_get?_eq_none absent, filterMap_revise_of_not_mem]
      intro property held
      rw [List.map_singleton, List.mem_singleton]
      exact fun same => known (List.mem_map.2 ⟨property, held, same⟩)

/-- Merging the changes of entries revises the properties there are, and writes the new names
behind them. -/
theorem entries_foldl_applyOne {entries : List (Text × PropertyChange)}
    (distinct : (entries.map Prod.fst).Nodup) (properties : Properties) :
    (entries.foldl (fun merged entry => applyOne merged entry.1 entry.2) properties).entries =
      properties.entries.filterMap (revise entries) ++
        keptEntries (entries.filter fun entry => entry.1 ∉ properties.keys) := by
  induction entries generalizing properties with
  | nil => simp [keptEntries, filterMap_revise_of_not_mem]
  | cons entry rest ih =>
    obtain ⟨name, change⟩ := entry
    rw [List.map_cons, List.nodup_cons] at distinct
    obtain ⟨unique, distinct⟩ := distinct
    have step := entries_applyOne properties name change
    -- a later change has another name, so it meets the name of this one neither there nor new
    have keys : ∀ later ∈ rest,
        (later.1 ∈ (applyOne properties name change).keys ↔ later.1 ∈ properties.keys) := by
      intro later listed
      have apart : later.1 ≠ name := fun same => unique (List.mem_map.2 ⟨later, listed, same⟩)
      rw [← OrderedMap.contains_iff, ← OrderedMap.contains_iff, OrderedMap.contains,
        OrderedMap.contains, get?_applyOne, if_neg apart]
    have new : keptEntries (rest.filter fun later =>
          later.1 ∉ (applyOne properties name change).keys) =
        keptEntries (rest.filter fun later => later.1 ∉ properties.keys) := by
      congr 1
      refine List.filter_congr fun later listed => ?_
      simp only [keys later listed]
    rw [List.foldl_cons, ih distinct, step, List.filterMap_append,
      filterMap_revise_revise unique, new, List.append_assoc]
    congr 1
    by_cases known : name ∈ properties.keys
    · simp [known]
    · have stay : (keptEntries [(name, change)]).filterMap (revise rest) =
          keptEntries [(name, change)] := by
        refine filterMap_revise_of_not_mem fun property held => ?_
        have listed := (keptEntries_sublist [(name, change)]).subset
          (List.mem_map.2 ⟨property, held, rfl⟩)
        rw [List.map_singleton, List.mem_singleton] at listed
        rw [listed]
        exact unique
      rw [if_neg known, stay, List.filter_cons, if_pos (by simpa using known)]
      simp only [keptEntries]
      rw [← List.filterMap_append, List.singleton_append]

/-- Merged properties are those there were, revised, and then the new names with their values. -/
theorem entries_applyTo (changes : Changes) (properties : Properties) :
    (changes.applyTo properties).entries =
      properties.entries.filterMap (revise changes.entries) ++
        keptEntries (changes.entries.filter fun entry => entry.1 ∉ properties.keys) :=
  entries_foldl_applyOne changes.distinct properties

/-- Changes that were merged into properties are merged into them already. -/
theorem applyTo_applyTo (changes : Changes) (properties : Properties) :
    changes.applyTo (changes.applyTo properties) = changes.applyTo properties := by
  have merged := changes.get?_applyTo properties
  have stay : ∀ property ∈ (changes.applyTo properties).entries,
      revise changes.entries property = some property := by
    intro property held
    rw [← OrderedMap.get?_eq_some_iff, merged, OrderedMap.get?] at held
    rw [revise]
    split at held <;> rename_i found <;> rw [found]
    simp only [held, Option.map_some]
  have nothing : keptEntries (changes.entries.filter fun entry =>
      entry.1 ∉ (changes.applyTo properties).keys) = [] := by
    refine List.filterMap_eq_nil_iff.2 fun entry listed => ?_
    obtain ⟨listed, absent⟩ := List.mem_filter.1 listed
    have change := (OrderedMap.get?_eq_some_iff changes _ _).2 listed
    rw [decide_eq_true_eq, ← OrderedMap.contains_iff, OrderedMap.contains, merged, change] at absent
    cases given : value? entry.2 with
    | none => rfl
    | some value => simp [given] at absent
  exact OrderedMap.ext_entries <| by
    rw [entries_applyTo, nothing, List.append_nil, List.filterMap_congr stay, List.filterMap_some]

/-- Merged into no properties, changes leave those that are not deletions. -/
theorem applyTo_empty (changes : Changes) : changes.applyTo .empty = changes.kept :=
  OrderedMap.ext_entries <| by
    rw [entries_applyTo, OrderedMap.keys_empty]
    simp [OrderedMap.empty, kept]

end Restyle.Changes
