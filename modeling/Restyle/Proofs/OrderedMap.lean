import Mathlib.Data.List.Nodup
import Restyle.OrderedMap

/-!
# Entries of an ordered map

A map is settled by its entries: an entry stands in it exactly when its key has its value.
Inserting at a known key changes one value in its place, and inserting at a new key adds an entry
at the end.
-/
namespace Restyle

namespace Entries

variable {κ α : Type} [DecidableEq κ]

/-- The value that was put last stays. -/
theorem put_put (key : κ) (first last : α) (entries : List (κ × α)) :
    put key last (put key first entries) = put key last entries := by
  induction entries with
  | nil => simp [put]
  | cons entry rest ih =>
    obtain ⟨k, v⟩ := entry
    by_cases same : key = k
    · simp [put, same]
    · simp [put, same, ih]

/-- An entry gives its key its value, when no key stands twice. -/
theorem lookup_eq_some_iff {entries : List (κ × α)} (distinct : (entries.map Prod.fst).Nodup)
    (key : κ) (value : α) : lookup key entries = some value ↔ (key, value) ∈ entries := by
  induction entries with
  | nil => simp [lookup]
  | cons entry rest ih =>
    obtain ⟨k, v⟩ := entry
    rw [List.map_cons, List.nodup_cons] at distinct
    by_cases same : key = k
    · subst same
      have absent : (key, value) ∉ rest := fun listed =>
        distinct.1 (List.mem_map.2 ⟨_, listed, rfl⟩)
      simp [lookup, absent, eq_comm]
    · simp [lookup, same, ih distinct.2]

omit [DecidableEq κ] in
/-- Entries made of others under the same keys have some of those keys, in order. -/
theorem sublist_filterMap {β : Type} {change : κ × α → Option (κ × β)}
    (kept : ∀ entry entry', change entry = some entry' → entry'.1 = entry.1)
    (entries : List (κ × α)) :
    ((entries.filterMap change).map Prod.fst).Sublist (entries.map Prod.fst) := by
  induction entries with
  | nil => exact .slnil
  | cons entry rest ih =>
    rw [List.filterMap_cons]
    split
    · exact ih.cons _
    · rename_i entry' same
      rw [List.map_cons, List.map_cons, kept entry entry' same]
      exact ih.cons_cons _

/-- Putting at a new key adds an entry at the end. -/
theorem put_of_not_mem {key : κ} (value : α) {entries : List (κ × α)}
    (absent : key ∉ entries.map Prod.fst) : put key value entries = entries ++ [(key, value)] := by
  induction entries with
  | nil => rfl
  | cons entry rest ih =>
    obtain ⟨k, v⟩ := entry
    rw [List.map_cons, List.mem_cons, not_or] at absent
    rw [put, if_neg absent.1, ih absent.2, List.cons_append]

/-- Putting at a known key changes the value of its entry. -/
theorem put_append {key : κ} {front : List (κ × α)} (absent : key ∉ front.map Prod.fst)
    (back : List (κ × α)) (old value : α) :
    put key value (front ++ (key, old) :: back) = front ++ (key, value) :: back := by
  induction front with
  | nil => simp [put]
  | cons entry rest ih =>
    obtain ⟨k, v⟩ := entry
    rw [List.map_cons, List.mem_cons, not_or] at absent
    rw [List.cons_append, put, if_neg absent.1, ih absent.2, List.cons_append]

/-- A key has its changed value when all values are changed. -/
theorem lookup_map_snd {β : Type} (change : α → β) (key : κ) (entries : List (κ × α)) :
    lookup key (entries.map fun entry => (entry.1, change entry.2)) =
      (lookup key entries).map change := by
  induction entries with
  | nil => rfl
  | cons entry rest ih =>
    rw [List.map_cons, lookup, lookup, ih]
    split
    · rfl
    · rfl

end Entries

namespace OrderedMap

/-- The key of an entry stands nowhere before it. -/
theorem not_mem_of_entries_eq {κ α : Type} {map : OrderedMap κ α} {front back : List (κ × α)}
    {key : κ} {value : α} (parted : map.entries = front ++ (key, value) :: back) :
    key ∉ front.map Prod.fst := by
  intro listed
  have distinct := map.distinct
  rw [parted, List.map_append, List.nodup_append] at distinct
  exact distinct.2.2 key listed key (by simp) rfl

variable {κ α : Type} [DecidableEq κ]

/-- An entry stands in a map exactly when its key has its value. -/
theorem get?_eq_some_iff (map : OrderedMap κ α) (key : κ) (value : α) :
    map.get? key = some value ↔ (key, value) ∈ map.entries :=
  Entries.lookup_eq_some_iff map.distinct key value

/-- A key has its changed value in a map with every value changed. -/
theorem get?_mapValues {β : Type} (map : OrderedMap κ α) (change : α → β) (key : κ) :
    (map.mapValues change).get? key = (map.get? key).map change :=
  Entries.lookup_map_snd change key map.entries

/-- What has a value is a key. -/
theorem mem_keys_of_get? {map : OrderedMap κ α} {key : κ} {value : α}
    (held : map.get? key = some value) : key ∈ map.keys :=
  (contains_iff _ _).1 (Option.isSome_iff_exists.2 ⟨value, held⟩)

/-- A map without entries gives no key a value, and no other map does so. -/
theorem isEmpty_iff (map : OrderedMap κ α) : map.isEmpty = true ↔ ∀ key, map.get? key = none := by
  constructor
  · intro empty key
    rw [isEmpty, List.isEmpty_iff] at empty
    rw [get?, empty]
    rfl
  · intro nothing
    cases entries : map.entries with
    | nil => rw [isEmpty, entries, List.isEmpty_nil]
    | cons entry rest =>
      have held := (get?_eq_some_iff map entry.1 entry.2).2 (by simp [entries])
      simp [nothing] at held

/-- A map gives every key the same value as itself. -/
theorem agrees_self [DecidableEq α] (map : OrderedMap κ α) : map.agrees map = true := by
  rw [agrees, Bool.and_eq_true, List.all_eq_true]
  refine ⟨beq_self_eq_true _, fun entry listed => ?_⟩
  rw [(get?_eq_some_iff map entry.1 entry.2).2 listed, beq_iff_eq]

omit [DecidableEq κ] in
/-- Maps with the same entries are the same. -/
theorem ext_entries {first second : OrderedMap κ α} (same : first.entries = second.entries) :
    first = second := by
  cases first
  cases second
  simp only at same
  subst same
  rfl

/-- The value that was inserted last stays. -/
theorem insert_insert (map : OrderedMap κ α) (key : κ) (first last : α) :
    (map.insert key first).insert key last = map.insert key last :=
  ext_entries (Entries.put_put key first last map.entries)

/-- Of entries with distinct keys that are put into a map every key has its value, and every other
key the value it had. -/
theorem get?_insertAll {entries : List (κ × α)} (distinct : (entries.map Prod.fst).Nodup)
    (map : OrderedMap κ α) (key : κ) :
    (map.insertAll entries).get? key = (Entries.lookup key entries).or (map.get? key) := by
  induction entries generalizing map with
  | nil => rfl
  | cons entry rest ih =>
    obtain ⟨k, value⟩ := entry
    rw [List.map_cons, List.nodup_cons] at distinct
    rw [insertAll, List.foldl_cons, ← insertAll, ih distinct.2, get?_insert, Entries.lookup]
    by_cases same : key = k
    · subst same
      have absent : Entries.lookup key rest = none := by
        rw [← Option.not_isSome_iff_eq_none, Entries.isSome_lookup]
        exact distinct.1
      simp [absent]
    · simp [same]

/-- In a map of entries with distinct keys every key has its value. -/
theorem get?_ofList_eq_some_iff {entries : List (κ × α)} (distinct : (entries.map Prod.fst).Nodup)
    (key : κ) (value : α) : (ofList entries).get? key = some value ↔ (key, value) ∈ entries := by
  rw [ofList, get?_insertAll distinct, get?_empty, Option.or_none,
    Entries.lookup_eq_some_iff distinct]

/-- A value in a map that entries were put into is that of one of them, or was there before. -/
theorem mem_of_get?_insertAll {entries : List (κ × α)} {map : OrderedMap κ α} {key : κ} {value : α}
    (held : (map.insertAll entries).get? key = some value) :
    (key, value) ∈ entries ∨ map.get? key = some value := by
  induction entries generalizing map with
  | nil => exact .inr held
  | cons entry rest ih =>
    obtain ⟨k, v⟩ := entry
    rw [insertAll, List.foldl_cons, ← insertAll] at held
    rcases ih held with listed | known
    · exact .inl (List.mem_cons_of_mem _ listed)
    · rw [get?_insert] at known
      split at known
      · rename_i same
        subst same
        obtain rfl := Option.some.inj known
        exact .inl (List.mem_cons_self)
      · exact .inr known

/-- A value in a map of entries is that of one of them. -/
theorem mem_of_get?_ofList {entries : List (κ × α)} {key : κ} {value : α}
    (held : (ofList entries).get? key = some value) : (key, value) ∈ entries := by
  rcases mem_of_get?_insertAll held with listed | known
  · exact listed
  · simp at known

/-- The keys of a map stay when entries are put into it. -/
theorem mem_keys_insertAll {map : OrderedMap κ α} {key : κ} (known : key ∈ map.keys)
    (entries : List (κ × α)) : key ∈ (map.insertAll entries).keys := by
  induction entries generalizing map with
  | nil => exact known
  | cons entry rest ih =>
    rw [insertAll, List.foldl_cons, ← insertAll]
    refine ih ?_
    rw [keys_insert]
    split
    · exact known
    · exact List.mem_append_left _ known

/-- The key of the first of the entries that a map is made of is one of its keys. -/
theorem mem_keys_ofList_cons (entry : κ × α) (rest : List (κ × α)) :
    entry.1 ∈ (ofList (entry :: rest)).keys := by
  have known : entry.1 ∈ (empty.insert entry.1 entry.2).keys := by simp
  exact mem_keys_insertAll known rest

/-- Of what entries are written with, an insertion adds no more than the inserted entry has. -/
theorem count_insert_le {β : Type} [BEq β] (write : κ × α → List β) (b : β)
    (map : OrderedMap κ α) (key : κ) (value : α) :
    ((map.insert key value).entries.flatMap write).count b ≤
      (map.entries.flatMap write).count b + (write (key, value)).count b := by
  show ((Entries.put key value map.entries).flatMap write).count b ≤ _
  induction map.entries with
  | nil => simp [Entries.put]
  | cons entry rest ih =>
    obtain ⟨k, v⟩ := entry
    rw [Entries.put]
    split
    · rename_i same
      subst same
      simp only [List.flatMap_cons, List.count_append]
      omega
    · simp only [List.flatMap_cons, List.count_append]
      omega

/-- Of what entries are written with, putting entries into a map adds no more than they have. -/
theorem count_insertAll_le {β : Type} [BEq β] (write : κ × α → List β) (b : β)
    (map : OrderedMap κ α) (entries : List (κ × α)) :
    ((map.insertAll entries).entries.flatMap write).count b ≤
      (map.entries.flatMap write).count b + (entries.flatMap write).count b := by
  induction entries generalizing map with
  | nil => exact Nat.le_refl _
  | cons entry rest ih =>
    have later := ih (map.insert entry.1 entry.2)
    have first : _ ≤ _ + (write entry).count b := count_insert_le write b map entry.1 entry.2
    rw [insertAll, List.foldl_cons, ← insertAll, List.flatMap_cons, List.count_append]
    omega

/-- A map of entries has no more of what they are written with than they do. -/
theorem count_ofList_le {β : Type} [BEq β] (write : κ × α → List β) (b : β)
    (entries : List (κ × α)) :
    ((ofList entries).entries.flatMap write).count b ≤ (entries.flatMap write).count b := by
  simpa [ofList, empty] using count_insertAll_le write b empty entries

/-- Inserting at a new key adds an entry at the end. -/
theorem entries_insert_of_get?_eq_none {map : OrderedMap κ α} {key : κ}
    (absent : map.get? key = none) (value : α) :
    (map.insert key value).entries = map.entries ++ [(key, value)] := by
  refine Entries.put_of_not_mem value fun known => ?_
  have held := (Entries.isSome_lookup key map.entries).2 known
  rw [get?] at absent
  rw [absent] at held
  simp at held

/-- Entries with new and distinct keys that are put into a map are added at the end. -/
theorem entries_insertAll {entries : List (κ × α)} (distinct : (entries.map Prod.fst).Nodup)
    {map : OrderedMap κ α} (new : ∀ entry ∈ entries, entry.1 ∉ map.keys) :
    (map.insertAll entries).entries = map.entries ++ entries := by
  induction entries generalizing map with
  | nil => simp [insertAll]
  | cons entry rest ih =>
    obtain ⟨key, value⟩ := entry
    rw [List.map_cons, List.nodup_cons] at distinct
    have fresh : key ∉ map.keys := new (key, value) (by simp)
    have absent : map.get? key = none := by
      rw [← Option.not_isSome_iff_eq_none]
      exact fun known => fresh ((contains_iff _ _).1 known)
    have later : ∀ other ∈ rest, other.1 ∉ (map.insert key value).keys := by
      intro other listed
      rw [keys_insert, if_neg fresh, List.mem_append, List.mem_singleton, not_or]
      exact ⟨new other (by simp [listed]),
        fun same => distinct.1 (List.mem_map.2 ⟨other, listed, same⟩)⟩
    rw [insertAll, List.foldl_cons, ← insertAll, ih distinct.2 later,
      entries_insert_of_get?_eq_none absent, List.append_assoc, List.singleton_append]

/-- A map of entries with distinct keys has these entries. -/
theorem entries_ofList {entries : List (κ × α)} (distinct : (entries.map Prod.fst).Nodup) :
    (ofList entries).entries = entries := by
  rw [ofList, entries_insertAll distinct (by simp)]
  rfl

/-- Inserting at a known key changes the value of its entry. -/
theorem entries_insert_of_entries_eq {map : OrderedMap κ α} {front back : List (κ × α)} {key : κ}
    {old : α} (parted : map.entries = front ++ (key, old) :: back) (value : α) :
    (map.insert key value).entries = front ++ (key, value) :: back := by
  show Entries.put key value map.entries = _
  rw [parted]
  exact Entries.put_append (not_mem_of_entries_eq parted) back old value

/-- Inserting at a known key changes the values of its entries and leaves all others. -/
theorem entries_insert_of_mem {map : OrderedMap κ α} {key : κ} (known : key ∈ map.keys)
    (value : α) : (map.insert key value).entries =
      map.entries.map fun entry => if entry.1 = key then (key, value) else entry := by
  obtain ⟨⟨name, old⟩, listed, rfl⟩ := List.mem_map.1 known
  obtain ⟨front, back, parted⟩ := List.append_of_mem listed
  have distinct := map.distinct
  rw [parted, List.map_append, List.map_cons, List.nodup_append, List.nodup_cons] at distinct
  have before : ∀ entry ∈ front, entry.1 ≠ name := fun entry held =>
    distinct.2.2 entry.1 (List.mem_map.2 ⟨entry, held, rfl⟩) name (by simp)
  have behind : ∀ entry ∈ back, entry.1 ≠ name := fun entry held same =>
    distinct.2.1.1 (List.mem_map.2 ⟨entry, held, same⟩)
  rw [entries_insert_of_entries_eq parted, parted, List.map_append, List.map_cons, if_pos rfl,
    List.map_congr_left fun entry held => if_neg (before entry held),
    List.map_congr_left fun entry held => if_neg (behind entry held), List.map_id', List.map_id']

/-- Inserting the value that a key has changes nothing. -/
theorem insert_self {map : OrderedMap κ α} {key : κ} {value : α}
    (held : map.get? key = some value) : map.insert key value = map := by
  obtain ⟨front, back, parted⟩ := List.append_of_mem ((get?_eq_some_iff map key value).1 held)
  exact ext_entries ((entries_insert_of_entries_eq parted value).trans parted.symm)

/-- Insertions at two known keys may be exchanged. -/
theorem insert_comm {map : OrderedMap κ α} {first second : κ} (apart : first ≠ second)
    (known : first ∈ map.keys) (known' : second ∈ map.keys) (one two : α) :
    (map.insert first one).insert second two = (map.insert second two).insert first one := by
  have later : second ∈ (map.insert first one).keys := by rwa [keys_insert, if_pos known]
  have later' : first ∈ (map.insert second two).keys := by rwa [keys_insert, if_pos known']
  refine ext_entries ?_
  rw [entries_insert_of_mem later, entries_insert_of_mem known, entries_insert_of_mem later',
    entries_insert_of_mem known', List.map_map, List.map_map]
  refine List.map_congr_left fun entry _ => ?_
  simp only [Function.comp_apply]
  by_cases here : entry.1 = first
  · simp [here, apart]
  · by_cases there : entry.1 = second
    · simp [there, apart.symm]
    · simp [here, there]

end OrderedMap

end Restyle
