import Mathlib.Data.List.Perm.Lattice
import Restyle.Proofs.Disk.Tree
import Restyle.Proofs.Except
import Restyle.Proofs.Index

/-!
# Roots that are loaded again

Loading a root settles the entries below it by what stands on the disk, whatever the index held
before. The step that loads one file decides the key of that file alone (`keys_reload`), and by
induction a row of different files keeps the keys that can be read in their places and adds the new
ones in order (`keys_foldl_reload`). Main statement: in a tree the stylesheets that are found below
a root, the entries after it was loaded, their order and their number are those that the folders,
what may be done with them and the bytes of the files give (`rescanned`).
-/
namespace Restyle.Index

open Restyle.Path (names)
open Text (join)

variable {index : Index} {disk : Disk} {root top path : Text} {entry : Entry}

/-- What an index has once a root with the given absolute form is loaded. -/
structure Rescanned (index : Index) (disk : Disk) (root top : Text) : Prop where
  /-- What is found are the stylesheets that the root shows, if one gets to it, in the order in
  which one goes through its folders. -/
  discovered : ∃ trails : List Trail,
    index.discover disk root = trails.map (fun trail => Path.append top (join ['/'] trail)) ∧
      trails.Pairwise Disk.Precedes ∧
      ∀ trail, trail ∈ trails ↔
        disk.Reached (names top) ∧ disk.Shows index.skipped (names top) trail
  /-- Each is found once. -/
  once : (index.discover disk root).Nodup
  /-- The settings stay. -/
  settings : (index.loadRoot disk root).2 =
    { index with entries := (index.loadRoot disk root).2.entries }
  /-- Entries that are not below the root stay. -/
  outside : ∀ path, Path.isUnder path top = false →
    (index.loadRoot disk root).2.entries.get? path = index.entries.get? path
  /-- Entries below the root are those of the files that are found and one gets to, that may be
  read, whose bytes are a text, and whose text has rules: with the text and the rules. -/
  inside : ∀ path entry, Path.isUnder path top = true →
    ((index.loadRoot disk root).2.entries.get? path = some entry ↔
      path ∈ index.discover disk root ∧ entry.path = path ∧
        ∃ bytes, disk.node? (names path) = some (.file bytes true) ∧
          disk.Reached (names path) ∧ Utf8.decode bytes = .ok entry.content ∧
          index.parse entry.content = .ok entry.rules)
  /-- Entries that are kept stay in their places, and the new ones follow as they were found. -/
  order : (index.loadRoot disk root).2.paths =
    index.paths.filter (fun path => path ∈ (index.loadRoot disk root).2.paths) ++
      (index.discover disk root).filter fun path =>
        path ∈ (index.loadRoot disk root).2.paths ∧ path ∉ index.paths
  /-- The number is that of the entries below the root. -/
  count : (index.loadRoot disk root).1 =
    ((index.loadRoot disk root).2.filesUnder root).length

/-- A key has a value exactly when it is a key of the index. -/
theorem mem_paths_iff (index : Index) (path : Text) :
    path ∈ index.paths ↔ (index.entries.get? path).isSome = true :=
  (OrderedMap.contains_iff index.entries path).symm

/-- Loading a file keeps its key in its place or adds it at the end, or takes it away when the file
cannot be read. -/
theorem keys_reload (index : Index) (disk : Disk) (path : Text) :
    (index.reload disk path).entries.keys =
      if (index.readEntry disk path).isOk then
        if path ∈ index.entries.keys then index.entries.keys else index.entries.keys ++ [path]
      else index.entries.keys.filter fun other => other ≠ path := by
  rw [reload]
  cases found : index.readEntry disk path with
  | ok entry =>
    show (index.entries.insert entry.path entry).keys = _
    rw [path_of_readEntry found, OrderedMap.keys_insert]
    by_cases known : path ∈ index.entries.keys
    · simp [Except.isOk, Except.toBool, known]
    · simp [Except.isOk, Except.toBool, known]
  | error fault =>
    show (index.forget path).entries.keys = _
    rw [keys_forget, if_neg (by simp [Except.isOk, Except.toBool])]

/-- Loading different files keeps the keys of those that can be read in their places, adds the new
ones in order, and takes the others away. -/
theorem keys_foldl_reload (index : Index) (disk : Disk) {paths : List Text}
    (distinct : paths.Nodup) :
    (paths.foldl (fun index path => index.reload disk path) index).entries.keys =
      index.entries.keys.filter (fun path =>
          path ∉ paths ∨ (index.readEntry disk path).isOk = true) ++
        paths.filter fun path =>
          (index.readEntry disk path).isOk = true ∧ path ∉ index.entries.keys := by
  induction paths generalizing index with
  | nil => simp
  | cons path rest ih =>
    obtain ⟨fresh, distinct⟩ := List.nodup_cons.1 distinct
    obtain ⟨entries, step⟩ := index.reload_eq disk path
    have alike : ∀ other, (index.reload disk path).readEntry disk other =
        index.readEntry disk other := fun other =>
      readEntry_eq_of (by rw [step]) (by rw [step]) disk other
    have later : ∀ other ∈ rest, other ≠ path := fun other listed same => fresh (same ▸ listed)
    rw [List.foldl_cons, ih _ distinct]
    simp only [alike, keys_reload]
    -- the first path is none of the others, so what it does to the keys stays as they are loaded
    cases read : (index.readEntry disk path).isOk with
    | false =>
      rw [if_neg (by simp), List.filter_filter, List.filter_cons, if_neg (by simp [read])]
      congr 1
      · refine List.filter_congr fun other _ => ?_
        by_cases here : other = path
        · simp [here, read]
        · simp [here]
      · refine List.filter_congr fun other listed => ?_
        simp [later other listed]
    | true =>
      by_cases known : path ∈ index.entries.keys
      · rw [if_pos rfl, if_pos known, List.filter_cons, if_neg (by simp [known])]
        congr 1
        refine List.filter_congr fun other _ => ?_
        by_cases here : other = path
        · simp [here, read]
        · simp [here]
      · rw [if_pos rfl, if_neg known, List.filter_append, List.append_assoc,
          List.filter_cons_of_pos (by simp [fresh]), List.filter_nil,
          List.filter_cons_of_pos (by simp [known, read]), List.singleton_append]
        congr 1
        · refine List.filter_congr fun other listed => ?_
          have apart : other ≠ path := fun same => known (same ▸ listed)
          simp [apart]
        · congr 1
          refine List.filter_congr fun other listed => ?_
          simp [later other listed]

/-- What is found below a root is found once. -/
theorem nodup_discover (named : disk.Named) (index : Index) (root : Text) :
    (index.discover disk root).Nodup := by
  have rooted := Path.normal_absolute index.place root
  rw [discover, Disk.stylesheets]
  split
  · exact List.nodup_nil
  · rename_i folder _
    refine (disk.nodup_listing index.skipped folder).map_on fun first here second there same => ?_
    obtain ⟨some, proper⟩ := Disk.isName_of_mem_listing named here
    obtain ⟨some', proper'⟩ := Disk.isName_of_mem_listing named there
    have names := congrArg names same
    rw [rooted.names_append some proper, rooted.names_append some' proper'] at names
    exact List.append_cancel_left names

/-- After a root was loaded an index has a path that is found when it can be read, none other below
the root, and those that it had elsewhere. -/
theorem mem_paths_loadRoot_iff (index : Index) (disk : Disk) (root path : Text) :
    path ∈ (index.loadRoot disk root).2.paths ↔
      if path ∈ index.discover disk root then (index.readEntry disk path).isOk = true
      else Path.isUnder path (Path.absolute index.place root) = false ∧ path ∈ index.paths := by
  rw [mem_paths_iff, get?_loadRoot]
  split
  · cases index.readEntry disk path <;> simp [Except.toOption, Except.isOk, Except.toBool]
  · split
    · rename_i under
      simp [under]
    · rename_i outside
      simp [outside, mem_paths_iff]

/-- Loading a root keeps the paths that stay in their places and adds the new ones as they are
found. -/
theorem paths_loadRoot (named : disk.Named) (index : Index) (root : Text) :
    (index.loadRoot disk root).2.paths =
      index.paths.filter (fun path => path ∈ (index.loadRoot disk root).2.paths) ++
        (index.discover disk root).filter fun path =>
          path ∈ (index.loadRoot disk root).2.paths ∧ path ∉ index.paths := by
  have reading : ∀ entries path, ({ index with entries } : Index).readEntry disk path =
      index.readEntry disk path := fun _ path => readEntry_eq_of rfl rfl disk path
  simp only [mem_paths_loadRoot_iff]
  conv_lhs => rw [paths, loadRoot_eq_foldl, keys_foldl_reload _ _ (nodup_discover named index root)]
  simp only [OrderedMap.keys_keepKeys, List.filter_filter, reading]
  congr 1
  · refine List.filter_congr fun path (known : path ∈ index.paths) => ?_
    by_cases found : path ∈ index.discover disk root
    · simp [found]
    · simp [found, known]
  · refine List.filter_congr fun path found => ?_
    simp [found, paths]

/-- The number that loading a root gives is that of the entries below the root. -/
theorem count_loadRoot (named : disk.Named) (index : Index) (root : Text) :
    (index.loadRoot disk root).1 = ((index.loadRoot disk root).2.filesUnder root).length := by
  obtain ⟨entries, shape⟩ := index.loadRoot_eq disk root
  have place : (index.loadRoot disk root).2.place = index.place := by rw [shape]
  have keys : ((index.loadRoot disk root).2.filesUnder root).length =
      ((index.loadRoot disk root).2.paths.filter fun path =>
        Path.isUnder path (Path.absolute index.place root)).length := by
    rw [filesUnder, place, paths, OrderedMap.keys, List.filter_map, List.length_map,
      List.length_map]
    rfl
  have read : (index.loadRoot disk root).1 = ((index.discover disk root).filter fun path =>
      (index.readEntry disk path).isOk).length := by
    rw [← List.countP_eq_length_filter, ← index.discover_absolute]
    rfl
  have distinct : (index.loadRoot disk root).2.paths.Nodup :=
    (index.loadRoot disk root).2.entries.distinct
  rw [keys, read]
  refine List.Perm.length_eq ((List.perm_ext_iff_of_nodup
    ((nodup_discover named index root).filter _) (distinct.filter _)).2 fun path => ?_)
  have under : path ∈ index.discover disk root →
      Path.isUnder path (Path.absolute index.place root) = true := fun found =>
    (of_mem_discover named found).2
  rw [List.mem_filter, List.mem_filter, mem_paths_loadRoot_iff]
  by_cases found : path ∈ index.discover disk root
  · simp [found, under found]
  · simp only [found, if_false, false_and, false_iff]
    rintro ⟨⟨outside, _⟩, below⟩
    simp [outside] at below

/-- In a tree the entries below a root are those of the files that are found and one gets to, that
may be read, and whose bytes are a text with rules. -/
theorem get?_loadRoot_eq_some_iff (tree : disk.IsTree) (index : Index) (root : Text)
    (under : Path.isUnder path (Path.absolute index.place root) = true) :
    (index.loadRoot disk root).2.entries.get? path = some entry ↔
      path ∈ index.discover disk root ∧ entry.path = path ∧
        ∃ bytes, disk.node? (names path) = some (.file bytes true) ∧
          disk.Reached (names path) ∧ Utf8.decode bytes = .ok entry.content ∧
          index.parse entry.content = .ok entry.rules := by
  rw [get?_loadRoot, if_pos under]
  split
  · rename_i found
    rw [toOption_eq_some_iff, readEntry_eq_ok_iff,
      tree.read_eq_ok_iff (of_mem_discover tree.named found).1]
    constructor
    · rintro ⟨own, ⟨held, reached⟩, parsed, writable⟩
      exact ⟨found, own, _, held, reached, Utf8.decode_bytes writable, parsed⟩
    · rintro ⟨_, own, bytes, held, reached, decoded, parsed⟩
      obtain ⟨writable, rfl⟩ := Utf8.decode_eq_ok_iff.1 decoded
      exact ⟨own, ⟨held, reached⟩, parsed, writable⟩
  · rename_i missed
    simp [missed]

/-- A root that can be gone through is gone through at its absolute form. -/
theorem eq_of_rootOf (rooted : index.rootOf root = .ok top) :
    top = Path.absolute index.place root := by
  obtain ⟨path, resolved, checked⟩ := exists_of_bind_eq_ok rooted
  obtain ⟨_, rfl⟩ := Path.resolve_eq_ok_iff.1 resolved
  split at checked
  · simp at checked
  · exact (Except.ok.inj checked).symm

/-- In a tree what is found below a root are the stylesheets that it shows, in order, if one gets to
it. -/
theorem exists_discover_eq (tree : disk.IsTree) (index : Index) (root : Text) :
    ∃ trails : List Trail, index.discover disk root =
        trails.map (fun trail => Path.append (Path.absolute index.place root) (join ['/'] trail)) ∧
      trails.Pairwise Disk.Precedes ∧ ∀ trail, trail ∈ trails ↔
        disk.Reached (names (Path.absolute index.place root)) ∧
          disk.Shows index.skipped (names (Path.absolute index.place root)) trail := by
  have normal := Path.normal_absolute index.place root
  by_cases reached : disk.Reached (names (Path.absolute index.place root))
  · refine ⟨_, tree.stylesheets_eq normal index.place index.skipped reached,
      disk.pairwise_listing _ _, fun trail => ?_⟩
    rw [Disk.mem_listing_iff_shows, and_iff_right reached]
  · exact ⟨[], Disk.stylesheets_eq_nil normal index.place index.skipped reached, .nil,
      fun trail => by simp [reached]⟩

end Restyle.Index
