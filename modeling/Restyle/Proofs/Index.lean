import Mathlib.Data.List.MinMax
import Restyle.Index
import Restyle.Proofs.Disk.Stylesheets

/-!
# The index and the disk

An entry is current when reading its file gives it again. Main statements: an entry is read from
a disk exactly when the disk holds the bytes of its text and its rules are those of the text
(`readEntry_eq_ok_iff`), loading a root keeps every entry and leaves all entries current
(`get?_ensureLoaded`, `current_ensureLoaded`), and it leaves out no stylesheet that can be read
(`readEntry_ne_ok_of_largest?`).
-/
namespace Restyle.Index

open Restyle.Path (IsName Normal names)

variable {index : Index} {disk : Disk} {root path : Text} {entry : Entry}

/-- An outcome has a value exactly when it is no fault. -/
theorem toOption_eq_some_iff {ε α : Type} {outcome : Except ε α} {value : α} :
    outcome.toOption = some value ↔ outcome = .ok value := by
  cases outcome with
  | error fault => simp [Except.toOption]
  | ok known => simp [Except.toOption]

/-- Rules are read in the standard way: every text has those that scanning finds. -/
def Standard (index : Index) : Prop := index.parse = fun text => .ok (Sheet.rules text)

/-- In an index that reads rules in the standard way a text has the rules of a stylesheet. -/
theorem Standard.parse_eq (standard : index.Standard) (text : Text) :
    index.parse text = .ok (Sheet.rules text) := by
  rw [Standard] at standard
  rw [standard]

/-- Every entry stands under a path in normal form and is what reading the file there gives. -/
def Current (index : Index) (disk : Disk) : Prop :=
  ∀ path entry, index.entries.get? path = some entry →
    Normal path ∧ index.readEntry disk path = .ok entry

/-- The index without entries that has the settings of another one. -/
def fresh (index : Index) : Index :=
  { place := index.place, skipped := index.skipped, parse := index.parse }

/-- Every entry stands under its own path, which is in normal form. -/
def Keyed (index : Index) : Prop :=
  ∀ path entry, index.entries.get? path = some entry → Normal path ∧ entry.path = path

/-- An entry that was read has its path, the text of its file and the rules of that text. -/
theorem readEntry_eq_ok_iff :
    index.readEntry disk path = .ok entry ↔
      entry.path = path ∧ disk.read index.place path = .ok (Utf8.bytes entry.content) ∧
        index.parse entry.content = .ok entry.rules ∧ Utf8.Writable entry.content := by
  constructor
  · intro found
    simp only [readEntry, Disk.readText] at found
    cases held : disk.read index.place path with
    | error fault => cases fault <;> simp [held] at found
    | ok bytes =>
      cases decoded : Utf8.decode bytes with
      | error fault => simp [held, decoded, Except.mapError] at found
      | ok content =>
        simp only [held, decoded, Except.mapError] at found
        cases parsed : index.parse content with
        | error detail => simp [parsed] at found
        | ok rules =>
          simp only [parsed, Except.ok.injEq] at found
          subst found
          obtain ⟨writable, written⟩ := Utf8.decode_eq_ok_iff.1 decoded
          exact ⟨rfl, by rw [written], parsed, writable⟩
  · rintro ⟨rfl, held, parsed, writable⟩
    simp only [readEntry, Disk.readText, held, Utf8.decode_bytes writable, Except.mapError, parsed]

/-- An entry that was read has its path. -/
theorem path_of_readEntry (found : index.readEntry disk path = .ok entry) : entry.path = path :=
  (readEntry_eq_ok_iff.1 found).1

/-- Current entries stand under their own paths. -/
theorem Current.keyed (current : index.Current disk) : index.Keyed :=
  fun path entry held =>
    ⟨(current path entry held).1, path_of_readEntry (current path entry held).2⟩

/-- The files of current entries can be read. -/
theorem Current.present (current : index.Current disk) (path : Text) (entry : Entry)
    (held : index.entries.get? path = some entry) :
    ∃ bytes, disk.read index.place path = .ok bytes :=
  ⟨_, (readEntry_eq_ok_iff.1 (current path entry held).2).2.1⟩

/-- What a file is read as is settled by the items of the disk. -/
theorem readEntry_congr {other : Disk} (same : disk.nodes = other.nodes) (index : Index)
    (path : Text) : index.readEntry disk path = index.readEntry other path := by
  rw [readEntry, readEntry, Disk.readText, Disk.readText, Disk.read_congr same]

/-- What a file is read as is settled by where paths are read from and by how rules are read. -/
theorem readEntry_eq_of {other : Index} (place : index.place = other.place)
    (parse : index.parse = other.parse) (disk : Disk) (path : Text) :
    index.readEntry disk path = other.readEntry disk path := by
  rw [readEntry, readEntry, place, parse]

/-- The entry of a path in normal form stands under the path itself. -/
theorem get?_eq (normal : Normal path) (index : Index) :
    index.get? path = index.entries.get? path := by
  rw [get?, normal.absolute_eq]

/-- An entry that was stored stands under its path. -/
theorem get?_store_self (index : Index) (entry : Entry) :
    (index.store entry).entries.get? entry.path = some entry := by
  rw [store, OrderedMap.get?_insert, if_pos rfl]

/-- Storing an entry leaves those of other paths. -/
theorem get?_store_of_ne {entry : Entry} (apart : path ≠ entry.path) (index : Index) :
    (index.store entry).entries.get? path = index.entries.get? path := by
  rw [store, OrderedMap.get?_insert, if_neg apart]

/-- An entry is the one that was stored, or it was there under another path. -/
theorem of_get?_store {stored : Entry}
    (held : (index.store stored).entries.get? path = some entry) :
    path = stored.path ∧ entry = stored ∨
      path ≠ stored.path ∧ index.entries.get? path = some entry := by
  by_cases here : path = stored.path
  · subst here
    rw [get?_store_self] at held
    exact .inl ⟨rfl, (Option.some.inj held).symm⟩
  · rw [get?_store_of_ne here] at held
    exact .inr ⟨here, held⟩

/-- Taking an entry away leaves the other keys in order. -/
theorem keys_forget (index : Index) (path : Text) :
    (index.forget path).entries.keys = index.entries.keys.filter fun other => other ≠ path := by
  rw [forget, OrderedMap.keys_erase]
  exact List.filter_congr fun other _ => (decide_not).symm

/-- Loading a file changes nothing but the entries. -/
theorem reload_eq (index : Index) (disk : Disk) (path : Text) :
    ∃ entries, index.reload disk path = { index with entries } := by
  rw [reload]
  split
  · exact ⟨_, rfl⟩
  · exact ⟨_, rfl⟩

/-- Loading a file settles the entry of its path and no other. -/
theorem get?_reload (index : Index) (disk : Disk) (path other : Text) :
    (index.reload disk path).entries.get? other =
      if other = path then (index.readEntry disk path).toOption
      else index.entries.get? other := by
  rw [reload]
  split
  · rename_i entry found
    rw [found, store, path_of_readEntry found]
    exact OrderedMap.get?_insert _ _ _ _
  · rename_i fault failed
    rw [failed, forget]
    exact OrderedMap.get?_erase _ _ _

/-- Loading files changes nothing but the entries. -/
theorem foldl_reload_eq (index : Index) (disk : Disk) (paths : List Text) :
    ∃ entries, paths.foldl (fun index path => index.reload disk path) index =
      { index with entries } := by
  induction paths generalizing index with
  | nil => exact ⟨index.entries, rfl⟩
  | cons path rest ih =>
    obtain ⟨entries, step⟩ := index.reload_eq disk path
    obtain ⟨later, whole⟩ := ih (index.reload disk path)
    exact ⟨later, by rw [List.foldl_cons, whole, step]⟩

/-- Loading files settles the entries of their paths and no others. -/
theorem get?_foldl_reload (index : Index) (disk : Disk) (paths : List Text) (other : Text) :
    (paths.foldl (fun index path => index.reload disk path) index).entries.get? other =
      if other ∈ paths then (index.readEntry disk other).toOption
      else index.entries.get? other := by
  induction paths generalizing index with
  | nil => rfl
  | cons path rest ih =>
    obtain ⟨entries, step⟩ := index.reload_eq disk path
    have alike : (index.reload disk path).readEntry disk other = index.readEntry disk other :=
      readEntry_eq_of (by rw [step]) (by rw [step]) disk other
    rw [List.foldl_cons, ih, alike, get?_reload]
    by_cases here : other = path
    · subst here
      simp
    · simp [here]

/-- What is found below a root is found below its absolute form. -/
theorem discover_absolute (index : Index) (disk : Disk) (root : Text) :
    index.discover disk (Path.absolute index.place root) = index.discover disk root := by
  rw [discover, discover, (Path.normal_absolute index.place root).absolute_eq]

/-- Loading a root is loading the files that are found below it, one after the other. -/
theorem loadRoot_eq_foldl (index : Index) (disk : Disk) (root : Text) :
    (index.loadRoot disk root).2 =
      (index.discover disk root).foldl (fun index path => index.reload disk path)
        { index with entries := index.entries.keepKeys fun path =>
            !Path.isUnder path (Path.absolute index.place root) ||
              (index.discover disk root).contains path } := by
  rw [← index.discover_absolute]
  rfl

/-- Loading a root changes nothing but the entries. -/
theorem loadRoot_eq (index : Index) (disk : Disk) (root : Text) :
    ∃ entries, (index.loadRoot disk root).2 = { index with entries } := by
  obtain ⟨entries, whole⟩ := foldl_reload_eq
    { index with entries := index.entries.keepKeys fun path =>
        !Path.isUnder path (Path.absolute index.place root) ||
          (index.discover disk root).contains path } disk (index.discover disk root)
  exact ⟨entries, (loadRoot_eq_foldl index disk root).trans whole⟩

/-- Loading a root leaves every text with its rules. -/
theorem standard_loadRoot (standard : index.Standard) (disk : Disk) (root : Text) :
    (index.loadRoot disk root).2.Standard := by
  obtain ⟨entries, shape⟩ := index.loadRoot_eq disk root
  rw [Standard, shape]
  exact standard

/-- After a root was loaded, its stylesheets have the entries that reading them gives, and no
other path below it has one. -/
theorem get?_loadRoot (index : Index) (disk : Disk) (root other : Text) :
    (index.loadRoot disk root).2.entries.get? other =
      if other ∈ index.discover disk root then (index.readEntry disk other).toOption
      else if Path.isUnder other (Path.absolute index.place root) = true then none
      else index.entries.get? other := by
  rw [loadRoot_eq_foldl, get?_foldl_reload]
  split
  · rfl
  · rename_i absent
    rw [OrderedMap.get?_keepKeys]
    by_cases under : Path.isUnder other (Path.absolute index.place root) = true
    · simp [under, absent]
    · simp [under]

/-- What is found below a root are paths in normal form that lie under it. -/
theorem of_mem_discover (proper : disk.Named) (found : path ∈ index.discover disk root) :
    Normal path ∧ Path.isUnder path (Path.absolute index.place root) = true := by
  obtain ⟨trail, some, inside, rfl⟩ := Disk.exists_of_mem_stylesheets proper found
  have normal := Path.normal_absolute index.place root
  exact ⟨normal.append some inside, normal.isUnder_append some inside⟩

/-- What is found below a root has the separators of the root at its front. -/
theorem leading_of_mem_discover (proper : disk.Named) (found : path ∈ index.discover disk root) :
    Path.leading path = Path.leading (Path.absolute index.place root) := by
  obtain ⟨trail, some, inside, rfl⟩ := Disk.exists_of_mem_stylesheets proper found
  exact (Path.normal_absolute index.place root).leading_append some inside

/-- Loading a root when it has no entry changes nothing but the entries. -/
theorem ensureLoaded_eq (index : Index) (disk : Disk) (root : Text) :
    ∃ entries, (index.ensureLoaded disk root).2 = { index with entries } := by
  rw [ensureLoaded]
  split
  · exact ⟨index.entries, rfl⟩
  · exact index.loadRoot_eq disk root

/-- An index without entries below a root has none for what is found there. -/
theorem get?_eq_none_of_hasUnder (absent : index.hasUnder root = false)
    (under : Path.isUnder path (Path.absolute index.place root) = true) :
    index.entries.get? path = none := by
  rw [hasUnder, List.any_eq_false] at absent
  rw [Option.eq_none_iff_forall_ne_some]
  intro entry held
  have known : path ∈ index.entries.keys :=
    OrderedMap.mem_keys_of_get? held
  exact absent path known under

/-- Loading a root when it has no entry keeps every entry that stood there. -/
theorem get?_ensureLoaded (proper : disk.Named) (held : index.entries.get? path = some entry) :
    (index.ensureLoaded disk root).2.entries.get? path = some entry := by
  rw [ensureLoaded]
  split
  · exact held
  · rename_i unknown
    have absent : index.hasUnder root = false := by simpa using unknown
    have outside : ¬ Path.isUnder path (Path.absolute index.place root) = true := by
      intro under
      rw [get?_eq_none_of_hasUnder absent under] at held
      simp at held
    have unlisted : path ∉ index.discover disk root := fun found =>
      outside (of_mem_discover proper found).2
    rw [get?_loadRoot, if_neg unlisted, if_neg outside, held]

/-- An entry after a root was loaded stood there before, or is what reading a stylesheet of the root
gives. -/
theorem of_get?_loadRoot (held : (index.loadRoot disk root).2.entries.get? path = some entry) :
    index.entries.get? path = some entry ∨
      path ∈ index.discover disk root ∧ index.readEntry disk path = .ok entry := by
  rw [get?_loadRoot] at held
  split at held
  · rename_i found
    exact .inr ⟨found, toOption_eq_some_iff.1 held⟩
  · split at held
    · simp at held
    · exact .inl held

/-- An entry after a root was to be loaded stood there before, or is what reading a stylesheet of
the root gives. -/
theorem of_get?_ensureLoaded
    (held : (index.ensureLoaded disk root).2.entries.get? path = some entry) :
    index.entries.get? path = some entry ∨
      path ∈ index.discover disk root ∧ index.readEntry disk path = .ok entry := by
  rw [ensureLoaded] at held
  split at held
  · exact .inl held
  · exact of_get?_loadRoot held

/-- Loading a root leaves all entries current. -/
theorem current_loadRoot (proper : disk.Named) (current : index.Current disk) :
    (index.loadRoot disk root).2.Current disk := by
  obtain ⟨entries, shape⟩ := index.loadRoot_eq disk root
  intro path entry held
  have alike : (index.loadRoot disk root).2.readEntry disk path = index.readEntry disk path :=
    readEntry_eq_of (by rw [shape]) (by rw [shape]) disk path
  rw [alike]
  rcases of_get?_loadRoot held with known | ⟨found, read⟩
  · exact current path entry known
  · exact ⟨(of_mem_discover proper found).1, read⟩

/-- Loading a root when it has no entry leaves all entries current. -/
theorem current_ensureLoaded (proper : disk.Named) (current : index.Current disk) :
    (index.ensureLoaded disk root).2.Current disk := by
  rw [ensureLoaded]
  split
  · exact current
  · exact current_loadRoot proper current

/-- Loading a root leaves every entry under its own path. -/
theorem keyed_loadRoot (proper : disk.Named) (keyed : index.Keyed) :
    (index.loadRoot disk root).2.Keyed := by
  intro path entry held
  rcases of_get?_loadRoot held with known | ⟨found, read⟩
  · exact keyed path entry known
  · exact ⟨(of_mem_discover proper found).1, path_of_readEntry read⟩

/-- Loading a root when it has no entry leaves every entry under its own path. -/
theorem keyed_ensureLoaded (proper : disk.Named) (keyed : index.Keyed) :
    (index.ensureLoaded disk root).2.Keyed := by
  rw [ensureLoaded]
  split
  · exact keyed
  · exact keyed_loadRoot proper keyed

/-- An index without entries has current ones only. -/
theorem current_clear (index : Index) (disk : Disk) : index.clear.Current disk := by
  intro path entry held
  simp [clear] at held

/-- Once a root is loaded a new index has current entries only and reads rules in the standard
way. -/
theorem loadRoot_new (place : Place) (proper : disk.Named) (root : Text) :
    ((new place).loadRoot disk root).2.Current disk ∧
      ((new place).loadRoot disk root).2.Standard := by
  have plain : (new place).Standard := rfl
  exact ⟨current_loadRoot proper (current_clear (new place) disk),
    standard_loadRoot plain disk root⟩

/-- The longest stylesheet is the first of those with the most characters. -/
theorem largest?_eq_argmax (index : Index) (root : Text) :
    index.largest? root = (index.filesUnder root).argmax Entry.size := by
  have step : longer = List.argAux fun (first second : Entry) => second.size < first.size := by
    funext best entry
    cases best <;> rfl
  rw [largest?, step]
  rfl

/-- A root has no longest stylesheet exactly when it has none. -/
theorem largest?_eq_none_iff (index : Index) (root : Text) :
    index.largest? root = none ↔ index.filesUnder root = [] := by
  rw [largest?_eq_argmax, List.argmax_eq_none]

/-- The longest stylesheet of a root is one of them. -/
theorem mem_filesUnder_of_largest? (longest : index.largest? root = some entry) :
    entry ∈ index.filesUnder root := by
  rw [largest?_eq_argmax] at longest
  exact List.argmax_mem longest

/-- A stylesheet of a root stands under its path, which lies below the root. -/
theorem mem_filesUnder_iff (index : Index) (root : Text) (entry : Entry) :
    entry ∈ index.filesUnder root ↔
      ∃ path, index.entries.get? path = some entry ∧
        Path.isUnder path (Path.absolute index.place root) = true := by
  rw [filesUnder, List.mem_map]
  constructor
  · rintro ⟨⟨path, held⟩, listed, rfl⟩
    rw [List.mem_filter] at listed
    exact ⟨path, (OrderedMap.get?_eq_some_iff _ _ _).2 listed.1, listed.2⟩
  · rintro ⟨path, held, under⟩
    exact ⟨(path, entry), List.mem_filter.2 ⟨(OrderedMap.get?_eq_some_iff _ _ _).1 held, under⟩,
      rfl⟩

/-- A root with a stylesheet has an entry below it. -/
theorem hasUnder_of_mem_filesUnder (listed : entry ∈ index.filesUnder root) :
    index.hasUnder root = true := by
  obtain ⟨path, held, under⟩ := (mem_filesUnder_iff index root entry).1 listed
  rw [hasUnder, List.any_eq_true]
  exact ⟨path, OrderedMap.mem_keys_of_get? held, under⟩

/-- The rules of a root are those of the entries below it. -/
theorem rulesUnder_eq_flatMap (index : Index) (root : Text) :
    index.rulesUnder root =
      (index.entries.entries.filter fun item =>
        Path.isUnder item.1 (Path.absolute index.place root)).flatMap fun item =>
          item.2.rules.map fun rule => (item.2.path, rule) := by
  simp only [rulesUnder, filesUnder, List.flatMap_map]

/-- Storing an entry anew leaves which roots have entries. -/
theorem hasUnder_store (known : entry.path ∈ index.entries.keys) (root : Text) :
    (index.store entry).hasUnder root = index.hasUnder root := by
  simp only [hasUnder, store, OrderedMap.keys_insert, if_pos known]

/-- Storing an entry anew with its rules moved moves them among the rules of every root. -/
theorem rulesUnder_store (keyed : index.Keyed) (held : index.entries.get? path = some entry)
    {new : Entry} (same : new.path = path) {move : Rule → Rule}
    (moved : new.rules = entry.rules.map move) (root : Text) :
    (index.store new).rulesUnder root = (index.rulesUnder root).map fun place =>
      if place.1 = path then (place.1, move place.2) else place := by
  have known : path ∈ index.entries.keys :=
    OrderedMap.mem_keys_of_get? held
  have place : (index.store new).place = index.place := rfl
  have entries : (index.store new).entries = index.entries.insert path new := by rw [store, same]
  have kept : (fun item : Text × Entry => Path.isUnder item.1 (Path.absolute index.place root)) ∘
      (fun item => if item.1 = path then (path, new) else item) =
        fun item => Path.isUnder item.1 (Path.absolute index.place root) := by
    funext item
    rw [Function.comp_apply]
    split
    · rename_i here
      rw [here]
    · rfl
  rw [rulesUnder_eq_flatMap, rulesUnder_eq_flatMap, place, entries,
    OrderedMap.entries_insert_of_mem known, List.filter_map, kept, List.flatMap_map,
    List.map_flatMap]
  refine List.flatMap_congr fun item listed => ?_
  have stands := (OrderedMap.get?_eq_some_iff _ _ _).2 (List.mem_filter.1 listed).1
  have own := (keyed item.1 item.2 stands).2
  rw [List.map_map]
  by_cases here : item.1 = path
  · rw [here, held, Option.some.injEq] at stands
    rw [here, ← stands] at own
    rw [if_pos here, moved, List.map_map, same, ← stands]
    refine List.map_congr_left fun rule _ => ?_
    simp only [Function.comp_apply, own, if_true]
  · rw [if_neg here]
    refine List.map_congr_left fun rule _ => ?_
    have apart : item.2.path ≠ path := own ▸ here
    simp only [Function.comp_apply, if_neg apart]

/-- Where the entry of a file is stored with one more rule, that rule is the first of its root that
was not there. -/
theorem exists_rulesUnder_store {new : Entry} {kept : List Rule} {rule : Rule}
    (under : Path.isUnder new.path (Path.absolute index.place root) = true)
    (stated : new.rules = kept ++ [rule])
    (listed : ∀ other ∈ kept, (new.path, other) ∈ index.rulesUnder root) :
    ∃ front back, (index.store new).rulesUnder root = front ++ (new.path, rule) :: back ∧
      ∀ place ∈ front, place ∈ index.rulesUnder root := by
  have place : (index.store new).place = index.place := rfl
  have own : ∀ place ∈ kept.map fun rule => (new.path, rule), place ∈ index.rulesUnder root := by
    intro place held
    obtain ⟨other, inside, rfl⟩ := List.mem_map.1 held
    exact listed other inside
  let rulesOf (items : List (Text × Entry)) : List (Text × Rule) :=
    (items.filter fun item => Path.isUnder item.1 (Path.absolute index.place root)).flatMap
      fun item => item.2.rules.map fun rule => (item.2.path, rule)
  by_cases known : new.path ∈ index.entries.keys
  · obtain ⟨⟨path, old⟩, held, same⟩ := List.mem_map.1 known
    simp only at same
    subst same
    obtain ⟨front, back, parted⟩ := List.append_of_mem held
    refine ⟨rulesOf front ++ kept.map fun rule => (new.path, rule), rulesOf back, ?_,
      fun place held => ?_⟩
    · rw [rulesUnder_eq_flatMap, place, store, OrderedMap.entries_insert_of_entries_eq parted,
        List.filter_append, List.filter_cons, if_pos under, List.flatMap_append,
        List.flatMap_cons, stated]
      simp [rulesOf]
    · rcases List.mem_append.1 held with before | here
      · rw [rulesUnder_eq_flatMap, parted, List.filter_append, List.flatMap_append]
        exact List.mem_append_left _ before
      · exact own place here
  · have absent : index.entries.get? new.path = none := by
      rw [← Option.not_isSome_iff_eq_none]
      exact fun given => known ((OrderedMap.contains_iff _ _).1 given)
    refine ⟨index.rulesUnder root ++ kept.map fun rule => (new.path, rule), [], ?_, ?_⟩
    · rw [rulesUnder_eq_flatMap, place, store, OrderedMap.entries_insert_of_get?_eq_none absent,
        List.filter_append, List.filter_cons, if_pos under, List.flatMap_append,
        ← rulesUnder_eq_flatMap]
      simp [stated]
    · intro place held
      rcases List.mem_append.1 held with before | here
      · exact before
      · exact own place here

/-- A root with an entry below it has a longest stylesheet. -/
theorem largest?_ne_none_of_hasUnder (known : index.hasUnder root = true) :
    index.largest? root ≠ none := by
  rw [Ne, largest?_eq_none_iff]
  intro bare
  rw [hasUnder, List.any_eq_true] at known
  obtain ⟨path, listed, under⟩ := known
  obtain ⟨entry, held⟩ := Option.isSome_iff_exists.1
    ((OrderedMap.contains_iff index.entries path).2 listed)
  have inside := (mem_filesUnder_iff index root entry).2 ⟨path, held, under⟩
  rw [bare] at inside
  simp at inside

/-- A root that was to be loaded and has no stylesheet had none before. -/
theorem hasUnder_eq_false_of_largest?
    (bare : (index.ensureLoaded disk root).2.largest? root = none) :
    index.hasUnder root = false := by
  cases known : index.hasUnder root with
  | false => rfl
  | true =>
    rw [ensureLoaded, if_pos known] at bare
    exact absurd bare (largest?_ne_none_of_hasUnder known)

/-- When a root was to be loaded and has no stylesheet, none that is found there can be read. -/
theorem readEntry_ne_ok_of_largest? (proper : disk.Named)
    (bare : (index.ensureLoaded disk root).2.largest? root = none)
    (found : path ∈ index.discover disk root) : index.readEntry disk path ≠ .ok entry := by
  intro read
  have absent := hasUnder_eq_false_of_largest? bare
  rw [ensureLoaded, if_neg (by simp [absent]), largest?_eq_none_iff] at bare
  obtain ⟨entries, shape⟩ := index.loadRoot_eq disk root
  have held : (index.loadRoot disk root).2.entries.get? path = some entry := by
    rw [get?_loadRoot, if_pos found, toOption_eq_some_iff]
    exact read
  have listed := (mem_filesUnder_iff (index.loadRoot disk root).2 root entry).2
    ⟨path, held, by rw [shape]; exact (of_mem_discover proper found).2⟩
  rw [bare] at listed
  simp at listed

end Restyle.Index
