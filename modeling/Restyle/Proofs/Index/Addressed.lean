import Restyle.Proofs.Index

/-!
# Keys of an index

Paths come into an index in many spellings, and each entry stands under the absolute form of its
path. Since an absolute form is its own absolute form, every path that an index hands out is one
that it knows (`Keyed.addressed`). Main statement: so it is after every run of operations, on
whatever disks, with whatever paths (`keyed_runAll` by `keyed_run`).
-/
namespace Restyle.Index

open Restyle.Path (Normal)

variable {index : Index} {disk : Disk} {path : Text} {entry : Entry}

/-- An operation that may change an index. -/
inductive Operation where
  /-- Load a root. -/
  | loadRoot (root : Text)
  /-- Load a root unless an entry lies below it. -/
  | ensureLoaded (root : Text)
  /-- Read a file again. -/
  | loadFile (path : Text)
  /-- Read a file again after it was written. -/
  | invalidate (path : Text)
  /-- Take the entry of a file away. -/
  | remove (path : Text)
  /-- Take all entries away. -/
  | clear

/-- The index after a file was read again. It stays when that fails. -/
def reread (index : Index) (disk : Disk) (path : Text) : Index :=
  match index.loadFile disk path with
  | .error _ => index
  | .ok (_, index) => index

/-- The index after an operation on a disk. It stays when the path of the operation can be none. -/
def Operation.run (index : Index) (disk : Disk) : Operation → Index
  | .loadRoot root =>
    match index.rootOf root with
    | .error _ => index
    | .ok _ => (index.loadRoot disk root).2
  | .ensureLoaded root =>
    match index.rootOf root with
    | .error _ => index
    | .ok _ => (index.ensureLoaded disk root).2
  | .loadFile path => index.reread disk path
  | .invalidate path => index.reread disk path
  | .remove path =>
    match Path.resolve index.place path with
    | .error _ => index
    | .ok _ => index.remove path
  | .clear => index.clear

/-- The index after operations, each on the disk as it is then. -/
def runAll (index : Index) (steps : List (Disk × Operation)) : Index :=
  steps.foldl (fun index step => step.2.run index step.1) index

/-- Storing an entry under a path in normal form leaves every entry under its own path. -/
theorem keyed_store (keyed : index.Keyed) (normal : Normal entry.path) :
    (index.store entry).Keyed := by
  intro path other held
  rcases of_get?_store held with ⟨rfl, rfl⟩ | ⟨_, known⟩
  · exact ⟨normal, rfl⟩
  · exact keyed path other known

/-- Taking an entry away leaves every entry under its own path. -/
theorem keyed_forget (keyed : index.Keyed) (path : Text) : (index.forget path).Keyed := by
  intro other entry held
  rw [forget, OrderedMap.get?_erase] at held
  split at held
  · simp at held
  · exact keyed other entry held

/-- A file that is read again has its entry stored under the absolute form of its path. -/
theorem of_loadFile {after : Index} (loaded : index.loadFile disk path = .ok (entry, after)) :
    entry.path = Path.absolute index.place path ∧ after = index.store entry := by
  rw [loadFile] at loaded
  split at loaded
  · simp at loaded
  · rename_i whole resolved
    obtain ⟨_, rfl⟩ := Path.resolve_eq_ok_iff.1 resolved
    split at loaded
    · simp at loaded
    · rename_i read
      obtain ⟨rfl, rfl⟩ := Prod.mk.inj (Except.ok.inj loaded)
      exact ⟨path_of_readEntry read, rfl⟩

/-- Reading a file again leaves every entry under its own path. -/
theorem keyed_reread (keyed : index.Keyed) (disk : Disk) (path : Text) :
    (index.reread disk path).Keyed := by
  rw [reread]
  split
  · exact keyed
  · rename_i entry after loaded
    obtain ⟨own, rfl⟩ := of_loadFile loaded
    exact keyed_store keyed (own ▸ Path.normal_absolute _ _)

/-- Every operation leaves every entry under its own path. -/
theorem keyed_run (named : disk.Named) (keyed : index.Keyed) (operation : Operation) :
    (operation.run index disk).Keyed := by
  cases operation with
  | loadRoot root =>
    rw [Operation.run]
    split
    · exact keyed
    · exact keyed_loadRoot named keyed
  | ensureLoaded root =>
    rw [Operation.run]
    split
    · exact keyed
    · exact keyed_ensureLoaded named keyed
  | loadFile path => exact keyed_reread keyed disk path
  | invalidate path => exact keyed_reread keyed disk path
  | remove path =>
    rw [Operation.run]
    split
    · exact keyed
    · exact keyed_forget keyed _
  | clear =>
    intro path entry held
    simp [Operation.run, Index.clear] at held

/-- Through every run of operations every entry stays under its own path. -/
theorem keyed_runAll (keyed : index.Keyed) {steps : List (Disk × Operation)}
    (named : ∀ step ∈ steps, step.1.Named) : (index.runAll steps).Keyed := by
  induction steps generalizing index with
  | nil => exact keyed
  | cons step rest ih =>
    obtain ⟨first, later⟩ := List.forall_mem_cons.1 named
    exact ih (keyed_run first keyed step.2) later

/-- A fresh index has no entry under another path. -/
theorem keyed_fresh (index : Index) : index.fresh.Keyed := by
  intro path entry held
  simp [fresh] at held

/-- An index reaches an entry by a path. -/
structure Reaches (index : Index) (path : Text) (entry : Entry) : Prop where
  /-- The path has an absolute form. -/
  resolved : Path.resolve index.place path = .ok path
  /-- The entry is found. -/
  got : index.get? path = some entry
  /-- The path counts as known. -/
  contained : index.contains path = true
  /-- The entry is taken away, and no other one is. -/
  removed : (index.remove path).paths = index.paths.filter fun other => other ≠ path

/-- An index reaches all that it hands out. -/
structure Addressed (index : Index) : Prop where
  /-- Every key is its own absolute form and the path of its entry. -/
  keys : ∀ path entry, index.entries.get? path = some entry →
    Path.absolute index.place path = path ∧ entry.path = path
  /-- Every path is reached. -/
  paths : ∀ path ∈ index.paths, ∃ entry, index.Reaches path entry
  /-- The stylesheets of every root are. -/
  filesUnder : ∀ root, ∀ entry ∈ index.filesUnder root, index.Reaches entry.path entry
  /-- The stylesheets of the rules of every root are, and have these rules. -/
  rulesUnder : ∀ root, ∀ spot ∈ index.rulesUnder root,
    ∃ entry, index.Reaches spot.1 entry ∧ spot.2 ∈ entry.rules
  /-- The longest stylesheet of every root is. -/
  largest : ∀ root entry, index.largest? root = some entry → index.Reaches entry.path entry

/-- An entry under its own path is reached by it. -/
theorem Keyed.reaches (keyed : index.Keyed) (held : index.entries.get? path = some entry) :
    index.Reaches path entry := by
  obtain ⟨normal, _⟩ := keyed path entry held
  have got : index.get? path = some entry := by rw [get?_eq normal, held]
  refine ⟨normal.resolve_eq index.place, got, by rw [contains, got]; rfl, ?_⟩
  rw [remove, normal.absolute_eq]
  exact keys_forget index path

/-- A stylesheet of a root is reached by its path when every entry stands under its own. -/
theorem Keyed.reaches_of_mem_filesUnder (keyed : index.Keyed) {root : Text}
    (listed : entry ∈ index.filesUnder root) : index.Reaches entry.path entry := by
  obtain ⟨path, held, _⟩ := (mem_filesUnder_iff index root entry).1 listed
  rw [(keyed path entry held).2]
  exact keyed.reaches held

/-- An index whose entries stand under their own paths reaches all that it hands out. -/
theorem Keyed.addressed (keyed : index.Keyed) : index.Addressed where
  keys path entry held :=
    ⟨(keyed path entry held).1.absolute_eq index.place, (keyed path entry held).2⟩
  paths path known := by
    obtain ⟨entry, held⟩ := Option.isSome_iff_exists.1
      ((OrderedMap.contains_iff index.entries path).2 known)
    exact ⟨entry, keyed.reaches held⟩
  filesUnder root entry listed := keyed.reaches_of_mem_filesUnder listed
  rulesUnder root spot listed := by
    obtain ⟨entry, inside, stated⟩ := List.mem_flatMap.1 listed
    obtain ⟨rule, known, rfl⟩ := List.mem_map.1 stated
    exact ⟨entry, keyed.reaches_of_mem_filesUnder inside, known⟩
  largest root entry longest :=
    keyed.reaches_of_mem_filesUnder (mem_filesUnder_of_largest? longest)

end Restyle.Index
