import Restyle.Text.Basic

/-!
# Ordered maps

A map that keeps its entries in the order in which their keys were first put. A new value for a
known key takes the place of the old one; a new key goes to the end; removing an entry leaves
the others in order. The view of a map is `OrderedMap.get?` together with the list
`OrderedMap.keys`, and each operation has its equation for both.
-/
namespace Restyle

namespace Entries

variable {κ α : Type} [DecidableEq κ]

/-- The value that the first entry of a key gives it. -/
def lookup (key : κ) : List (κ × α) → Option α
  | [] => none
  | (k, v) :: rest => if key = k then some v else lookup key rest

/-- Give a key a value: in the key's place, or at the end. -/
def put (key : κ) (value : α) : List (κ × α) → List (κ × α)
  | [] => [(key, value)]
  | (k, v) :: rest => if key = k then (k, value) :: rest else (k, v) :: put key value rest

/-- Put entries one after the other: a repeated key keeps its first place and takes its last
value. -/
def merge (entries : List (κ × α)) : List (κ × α) :=
  entries.foldl (fun merged entry => put entry.1 entry.2 merged) []

/-- Putting changes no key and adds one only when it is new. -/
theorem map_fst_put (key : κ) (value : α) (entries : List (κ × α)) :
    (put key value entries).map Prod.fst =
      if key ∈ entries.map Prod.fst then entries.map Prod.fst
      else entries.map Prod.fst ++ [key] := by
  induction entries with
  | nil => simp [put]
  | cons entry rest ih =>
    obtain ⟨k, v⟩ := entry
    by_cases same : key = k
    · simp [put, same]
    · simp only [put, same, if_false, List.map_cons, ih, List.mem_cons, false_or]
      split <;> simp

/-- Putting keeps keys distinct. -/
theorem nodup_put (key : κ) (value : α) {entries : List (κ × α)}
    (distinct : (entries.map Prod.fst).Nodup) : ((put key value entries).map Prod.fst).Nodup := by
  rw [map_fst_put]
  split
  · exact distinct
  · rename_i absent
    rw [List.nodup_append]
    refine ⟨distinct, by simp, ?_⟩
    intro a held b last
    simp only [List.mem_singleton] at last
    subst last
    intro equal
    exact absent (equal ▸ held)

/-- The value last put under a key, and every other value as before. -/
theorem lookup_put (key other : κ) (value : α) (entries : List (κ × α)) :
    lookup other (put key value entries) =
      if other = key then some value else lookup other entries := by
  induction entries with
  | nil => simp [put, lookup]
  | cons entry rest ih =>
    obtain ⟨k, v⟩ := entry
    by_cases placed : key = k
    · by_cases same : other = k <;> simp [put, lookup, placed, same]
    · by_cases here : other = k
      · subst here
        have apart : ¬ other = key := fun equal => placed equal.symm
        simp [put, placed, lookup, apart]
      · simp [put, placed, lookup, here, ih]

/-- A filter on keys keeps the value of a key that passes. -/
theorem lookup_filter (keep : κ → Bool) (key : κ) (entries : List (κ × α)) :
    lookup key (entries.filter fun entry => keep entry.1) =
      if keep key then lookup key entries else none := by
  induction entries with
  | nil => simp [lookup]
  | cons entry rest ih =>
    obtain ⟨k, v⟩ := entry
    by_cases here : key = k
    · subst here
      cases kept : keep key
      · simpa [kept] using ih
      · simp [kept, lookup]
    · cases kept : keep k
      · simpa [kept, lookup, here] using ih
      · simpa [kept, lookup, here] using ih

/-- A key has a value exactly when it is a key of an entry. -/
theorem isSome_lookup (key : κ) (entries : List (κ × α)) :
    (lookup key entries).isSome = true ↔ key ∈ entries.map Prod.fst := by
  induction entries with
  | nil => simp [lookup]
  | cons entry rest ih =>
    obtain ⟨k, v⟩ := entry
    by_cases here : key = k
    · simp [lookup, here]
    · simpa [lookup, here] using ih

end Entries

/-- Entries in the order of their keys' first insertion; no key stands twice. -/
structure OrderedMap (κ α : Type) where
  /-- Keys with their values, in order. -/
  entries : List (κ × α)
  /-- No key stands twice. -/
  distinct : (entries.map Prod.fst).Nodup
deriving DecidableEq

namespace OrderedMap

variable {κ α β : Type} [DecidableEq κ]

/-- The map without entries. -/
def empty : OrderedMap κ α := ⟨[], by simp⟩

instance : Inhabited (OrderedMap κ α) := ⟨empty⟩

/-- The keys in order. -/
def keys (map : OrderedMap κ α) : List κ := map.entries.map Prod.fst

/-- The value of a key. -/
def get? (map : OrderedMap κ α) (key : κ) : Option α := Entries.lookup key map.entries

/-- Whether the map has no entry. -/
def isEmpty (map : OrderedMap κ α) : Bool := map.entries.isEmpty

/-- The number of entries. -/
def size (map : OrderedMap κ α) : Nat := map.entries.length

/-- Whether the key has a value. -/
def contains (map : OrderedMap κ α) (key : κ) : Bool := (map.get? key).isSome

/-- Give a key a value: in its place, or at the end. -/
def insert (map : OrderedMap κ α) (key : κ) (value : α) : OrderedMap κ α :=
  ⟨Entries.put key value map.entries, Entries.nodup_put key value map.distinct⟩

/-- Keep the entries whose key passes the test. -/
def keepKeys (map : OrderedMap κ α) (keep : κ → Bool) : OrderedMap κ α :=
  ⟨map.entries.filter fun entry => keep entry.1,
    (List.filter_sublist.map Prod.fst).nodup map.distinct⟩

/-- Remove a key's entry. -/
def erase (map : OrderedMap κ α) (key : κ) : OrderedMap κ α := map.keepKeys (· != key)

/-- Put entries one after the other into the map. -/
def insertAll (map : OrderedMap κ α) (entries : List (κ × α)) : OrderedMap κ α :=
  entries.foldl (fun map entry => map.insert entry.1 entry.2) map

/-- A map of entries: a repeated key keeps its first place and takes its last value. -/
def ofList (entries : List (κ × α)) : OrderedMap κ α := empty.insertAll entries

/-- The map with every value changed. -/
def mapValues (map : OrderedMap κ α) (change : α → β) : OrderedMap κ β :=
  ⟨map.entries.map fun entry => (entry.1, change entry.2), by
    have same : (map.entries.map fun entry => (entry.1, change entry.2)).map Prod.fst =
        map.entries.map Prod.fst := by simp [Function.comp_def]
    rw [same]
    exact map.distinct⟩

/-- Whether two maps give every key the same value, in whatever order. -/
def agrees [DecidableEq α] (first second : OrderedMap κ α) : Bool :=
  first.size == second.size &&
    first.entries.all fun entry => second.get? entry.1 == some entry.2

/-- Inserting gives the key its value and leaves all others. -/
@[simp] theorem get?_insert (map : OrderedMap κ α) (key other : κ) (value : α) :
    (map.insert key value).get? other = if other = key then some value else map.get? other :=
  Entries.lookup_put key other value map.entries

/-- Inserting leaves the keys, or adds a new one at the end. -/
@[simp] theorem keys_insert (map : OrderedMap κ α) (key : κ) (value : α) :
    (map.insert key value).keys = if key ∈ map.keys then map.keys else map.keys ++ [key] :=
  Entries.map_fst_put key value map.entries

omit [DecidableEq κ] in
/-- Keeping some keys keeps their order. -/
@[simp] theorem keys_keepKeys (map : OrderedMap κ α) (keep : κ → Bool) :
    (map.keepKeys keep).keys = map.keys.filter keep := by
  simp [keys, keepKeys, List.filter_map, Function.comp_def]

/-- A key that is kept keeps its value. -/
@[simp] theorem get?_keepKeys (map : OrderedMap κ α) (keep : κ → Bool) (key : κ) :
    (map.keepKeys keep).get? key = if keep key then map.get? key else none :=
  Entries.lookup_filter keep key map.entries

/-- Removing a key keeps the order of the others. -/
theorem keys_erase (map : OrderedMap κ α) (key : κ) :
    (map.erase key).keys = map.keys.filter (· != key) := by
  simp [erase]

/-- A removed key has no value; every other key keeps its own. -/
theorem get?_erase (map : OrderedMap κ α) (key other : κ) :
    (map.erase key).get? other = if other = key then none else map.get? other := by
  by_cases same : other = key <;> simp [erase, same]

omit [DecidableEq κ] in
/-- The empty map has no keys. -/
@[simp] theorem keys_empty : (empty : OrderedMap κ α).keys = [] := rfl

/-- The empty map has no values. -/
@[simp] theorem get?_empty (key : κ) : (empty : OrderedMap κ α).get? key = none := rfl

/-- A key has a value exactly when it is a key of the map. -/
theorem contains_iff (map : OrderedMap κ α) (key : κ) :
    map.contains key = true ↔ key ∈ map.keys :=
  Entries.isSome_lookup key map.entries

end OrderedMap

end Restyle
