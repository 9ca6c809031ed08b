import Restyle.Change.Property
import Restyle.Proofs.Change.Property

/-!
# Changes as a merge

Main statement: merged properties are those there were without the removed ones, in their order, and
then the new names in the order of the changes; merging the same changes again makes no difference,
and changes of different names may be merged in either order (`applyTo_merges`).
-/
namespace Restyle

/-- A change is a deletion when it gives no new value, and when it gives the deletion mark. -/
theorem PropertyChange.isDeletion_iff (change : PropertyChange) :
    change.isDeletion = true ↔ change.becomes = none ∨ change.becomes = some deletionMark := by
  simp [isDeletion]

namespace Changes

variable {changes other : Changes} {properties : Properties}

/-- Whether changes remove a name. -/
def removes (changes : Changes) (name : Text) : Bool :=
  (changes.get? name).any PropertyChange.isDeletion

/-- A change that is no deletion has a new value. -/
theorem isSome_value? (change : PropertyChange) :
    (value? change).isSome = !change.isDeletion := by
  rw [value?]
  split
  · rename_i deletion
    rw [deletion]
    rfl
  · rename_i kept
    cases given : change.becomes with
    | none => exact absurd (change.isDeletion_iff.2 (.inl given)) kept
    | some value => rw [Bool.not_eq_true] at kept; rw [kept]; rfl

/-- A change of the changes removes its name when it is a deletion. -/
theorem removes_of_mem {entry : Text × PropertyChange} (listed : entry ∈ changes.entries) :
    changes.removes entry.1 = entry.2.isDeletion := by
  have held := (OrderedMap.get?_eq_some_iff changes entry.1 entry.2).2 listed
  rw [removes, held, Option.any_some]

/-- Of properties that are revised those stay whose names are not removed. -/
theorem map_fst_filterMap_revise (changes : Changes) (entries : List (Text × Text)) :
    (entries.filterMap (revise changes.entries)).map Prod.fst =
      (entries.map Prod.fst).filter fun name => !changes.removes name := by
  induction entries with
  | nil => rfl
  | cons property rest ih =>
    rw [List.map_cons, List.filter_cons, ← ih, removes, OrderedMap.get?]
    cases found : Entries.lookup property.1 changes.entries with
    | none =>
      have stays : revise changes.entries property = some property := by rw [revise, found]
      rw [List.filterMap_cons_some stays]
      rfl
    | some change =>
      have revised : revise changes.entries property = (value? change).map (property.1, ·) := by
        rw [revise, found]
      rw [Option.any_some, ← isSome_value?]
      cases given : value? change with
      | none =>
        have gone : revise changes.entries property = none := by
          rw [revised, given, Option.map_none]
        rw [List.filterMap_cons_none gone]
        rfl
      | some value =>
        have stays : revise changes.entries property = some (property.1, value) := by
          rw [revised, given, Option.map_some]
        rw [List.filterMap_cons_some stays]
        rfl

/-- Of changes those write that are no deletions. -/
theorem map_fst_keptEntries (entries : List (Text × PropertyChange)) :
    (keptEntries entries).map Prod.fst =
      (entries.filter fun entry => !entry.2.isDeletion).map Prod.fst := by
  induction entries with
  | nil => rfl
  | cons entry rest ih =>
    rw [List.filter_cons, ← isSome_value?]
    cases given : value? entry.2 with
    | none =>
      have silent : keptEntries (entry :: rest) = keptEntries rest := by simp [keptEntries, given]
      rw [silent, ih]
      rfl
    | some value =>
      have written : keptEntries (entry :: rest) = (entry.1, value) :: keptEntries rest := by
        simp [keptEntries, given]
      rw [written, List.map_cons, ih]
      rfl

/-- The names of merged properties are those there were and are not removed, and then the new ones
that the changes give a value. -/
theorem keys_applyTo (changes : Changes) (properties : Properties) :
    (changes.applyTo properties).keys =
      (properties.keys.filter fun name => !changes.removes name) ++
        changes.keys.filter fun name => !changes.removes name && !properties.contains name := by
  have new : ∀ entry ∈ changes.entries,
      (!entry.2.isDeletion && decide (entry.1 ∉ properties.keys)) =
        (!changes.removes entry.1 && !properties.contains entry.1) := by
    intro entry listed
    have known : decide (entry.1 ∈ properties.keys) = properties.contains entry.1 := by
      rw [Bool.eq_iff_iff, decide_eq_true_iff, OrderedMap.contains_iff]
    rw [removes_of_mem listed, decide_not, known]
  have old : (properties.entries.filterMap (revise changes.entries)).map Prod.fst =
      properties.keys.filter fun name => !changes.removes name :=
    map_fst_filterMap_revise changes properties.entries
  have added : (keptEntries (changes.entries.filter fun entry =>
        entry.1 ∉ properties.keys)).map Prod.fst =
      changes.keys.filter fun name => !changes.removes name && !properties.contains name := by
    rw [map_fst_keptEntries, List.filter_filter, List.filter_congr new, OrderedMap.keys,
      List.filter_map]
    rfl
  rw [OrderedMap.keys, entries_applyTo, List.map_append, old, added]

/-- Changes of different names may be merged in either order. -/
theorem get?_applyTo_comm (apart : ∀ name ∈ changes.keys, name ∉ other.keys)
    (properties : Properties) (name : Text) :
    (other.applyTo (changes.applyTo properties)).get? name =
      (changes.applyTo (other.applyTo properties)).get? name := by
  rw [get?_applyTo, get?_applyTo, get?_applyTo, get?_applyTo]
  cases one : changes.get? name with
  | none => cases other.get? name <;> rfl
  | some change =>
    cases two : other.get? name with
    | none => rfl
    | some change' =>
      exact absurd (OrderedMap.mem_keys_of_get? two)
        (apart name (OrderedMap.mem_keys_of_get? one))

/-- Merging keeps the properties that are not removed in their order, with the new value of each
that is changed, and puts the new ones behind them in the order of the changes. Merged a second time
the same changes make no difference, and of changes of different names either may be merged first.
-/
theorem applyTo_merges (changes : Changes) (properties : Properties) :
    (changes.applyTo properties).keys =
        (properties.keys.filter fun name => !changes.removes name) ++
          changes.keys.filter (fun name => !changes.removes name && !properties.contains name) ∧
      (∀ name, (changes.applyTo properties).get? name =
        match changes.get? name with
        | some change => if change.isDeletion then none else change.becomes
        | none => properties.get? name) ∧
      changes.applyTo (changes.applyTo properties) = changes.applyTo properties ∧
      ∀ other : Changes, (∀ name ∈ changes.keys, name ∉ other.keys) → ∀ name,
        (other.applyTo (changes.applyTo properties)).get? name =
          (changes.applyTo (other.applyTo properties)).get? name := by
  refine ⟨keys_applyTo changes properties, ?_, applyTo_applyTo changes properties, ?_⟩
  · intro name
    exact get?_applyTo changes properties name
  · intro other apart name
    exact get?_applyTo_comm apart properties name

/-- Of three properties one is removed and one gets a new value, a removal of none leaves nothing,
and a new one goes to the end. With other changes before or after it goes to another place, with the
same value. -/
theorem applyTo_merges_mixed :
    let properties : Properties :=
      .ofList [("x".toText, "1".toText), ("y".toText, "2".toText), ("z".toText, "3".toText)]
    let changes : Changes := .ofList [("z".toText, ⟨none, none⟩),
      ("new".toText, ⟨some "4".toText, none⟩), ("x".toText, ⟨some "5".toText, none⟩),
      ("none".toText, ⟨some deletionMark, none⟩)]
    let other : Changes := .ofList [("late".toText, ⟨some "6".toText, none⟩)]
    (changes.applyTo properties).entries =
        [("x".toText, "5".toText), ("y".toText, "2".toText), ("new".toText, "4".toText)] ∧
      (∀ name ∈ changes.keys, name ∉ other.keys) ∧
      (other.applyTo (changes.applyTo properties)).keys ≠
        (changes.applyTo (other.applyTo properties)).keys ∧
      ∀ name, (other.applyTo (changes.applyTo properties)).get? name =
        (changes.applyTo (other.applyTo properties)).get? name := by
  intro properties changes other
  obtain ⟨_, _, _, exchanged⟩ := applyTo_merges changes properties
  have apart : ∀ name ∈ changes.keys, name ∉ other.keys := by decide +kernel
  exact ⟨by decide +kernel, apart, by decide +kernel, exchanged other apart⟩

end Changes

end Restyle
