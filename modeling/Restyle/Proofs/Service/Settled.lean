import Restyle.Proofs.Service.Project
import Restyle.Proofs.Sheet.Splice

/-!
# A configured service

Between events a configured service is settled: its entries stand below its root and are current,
and if it has none there is no stylesheet to be read (`Settled`). Then its project is read off its
entries (`Settled.project_eq`), its longest stylesheet is the first of those with the most
characters (`Settled.longest?_eq`), and an event finds the match that it finds in the project
(`Settled.match?_rel`). Every write below the root leaves it settled (`Settled.of_wrote`).
-/
namespace Restyle.Service

open Restyle.Path (IsName Normal names)
open Text (join)

variable {service after : Service} {disk disk' : Disk} {root path content : Text}

/-- The text of the file at a path, none where no text is read. -/
def textAt (service : Service) (disk : Disk) (path : Text) : Text :=
  ((disk.readText service.index.place path).toOption).getD []

/-- The project of the indexed files, by the texts that the disk has. -/
def project (service : Service) (disk : Disk) : Project :=
  service.index.paths.map fun path =>
    (path, (Sheet.rules (service.textAt disk path)).map Rule.statement)

/-- The project of a service whose index and disk have the same items is the same. -/
theorem project_of_untouched
    (same : Workspace.Untouched ⟨service.index, disk⟩ ⟨after.index, disk'⟩) :
    after.project disk' = service.project disk := by
  obtain ⟨index, nodes⟩ := same
  simp only at index nodes
  simp only [project, textAt, Disk.readText, index, Disk.read_congr nodes]

/-- The indexed file with the most characters on the disk, the first of equals. -/
def longest? (service : Service) (disk : Disk) : Option Text :=
  service.index.paths.argmax fun path => (service.textAt disk path).length

/-- The file that a new rule goes to: the one with the most characters, a new one if there is
none. -/
def target (service : Service) (disk : Disk) : Text :=
  (service.longest? disk).getD
    (Workspace.newFile ⟨service.index, disk⟩ (service.root.getD []))

/-- A path of proper names from a root. -/
def Below (root path : Text) : Prop :=
  ∃ trail, trail ≠ [] ∧ (∀ name ∈ trail, IsName name) ∧
    path = Path.append root (join ['/'] trail)

/-- A service is settled at its root: this may be listed, rules are read in the standard way, the
entries are current and below the root, and when there are none no stylesheet of the root can be
read. -/
structure Settled (service : Service) (disk : Disk) (root : Text) : Prop where
  /-- The root is that of the service. -/
  rooted : service.root = some root
  /-- The root is in normal form. -/
  normal : Normal root
  /-- The root may be listed. -/
  listable : disk.canList (names (Path.absolute service.index.place root)) = true
  /-- Rules are read in the standard way. -/
  standard : service.index.Standard
  /-- The entries are current. -/
  sound : Workspace.Sound ⟨service.index, disk⟩
  /-- The entries are below the root. -/
  below : ∀ path entry, service.index.entries.get? path = some entry → Below root path
  /-- Without entries there is nothing to be loaded. -/
  bare : service.index.entries.entries = [] → ∀ path ∈ service.index.discover disk root,
    ∀ entry, service.index.readEntry disk path ≠ .ok entry

/-- A path below a root in normal form is one, and lies under the root. -/
theorem Below.normal (below : Below root path) (normal : Normal root) :
    Normal path ∧ Path.isUnder path root = true ∧ Path.leading path = Path.leading root := by
  obtain ⟨trail, some, proper, rfl⟩ := below
  exact ⟨normal.append some proper, normal.isUnder_append some proper,
    normal.leading_append some proper⟩

/-- Paths below one root are told apart by their names. -/
theorem Below.eq_of_names_eq {other : Text} (below : Below root path) (below' : Below root other)
    (normal : Normal root) (same : names path = names other) : path = other := by
  obtain ⟨first, _, lead⟩ := below.normal normal
  obtain ⟨second, _, lead'⟩ := below'.normal normal
  exact first.eq_of_names_eq second (lead.trans lead'.symm) same

/-- The new stylesheet of a root is below it. -/
theorem below_newFile (service : Service) (disk : Disk) (normal : Normal root) :
    Below root (Workspace.newFile ⟨service.index, disk⟩ root) := by
  refine ⟨[Workspace.newFileName], by simp, Workspace.isName_newFileName, ?_⟩
  rw [Workspace.newFile, normal.absolute_eq, Text.join_singleton]

/-- The first greatest of the images of a list is the image of its first greatest item. -/
theorem argmax_map {α β : Type} (items : List α) (image : α → β) (size : α → Nat)
    (size' : β → Nat) (same : ∀ item ∈ items, size' (image item) = size item) :
    (items.map image).argmax size' = (items.argmax size).map image := by
  induction items using List.reverseRecOn with
  | nil => rfl
  | append_singleton front last ih =>
    rw [List.map_append, List.map_singleton, List.argmax_concat, List.argmax_concat,
      ih fun item listed => same item (by simp [listed])]
    cases best : front.argmax size with
    | none => rfl
    | some item =>
      have listed : item ∈ front := List.argmax_mem best
      simp only [Option.map_some, same item (by simp [listed]), same last (by simp)]
      split <;> rfl

namespace Settled

variable {entry : Entry}

/-- An entry of a settled service has the text of its file and the rules of that text. -/
theorem of_get? (settled : Settled service disk root)
    (held : service.index.entries.get? path = some entry) :
    Normal path ∧ entry.path = path ∧
      disk.read service.index.place path = .ok (Utf8.bytes entry.content) ∧
      entry.rules = Sheet.rules entry.content := by
  obtain ⟨normal, read⟩ := settled.sound.current path entry held
  obtain ⟨file, bytes, parsed, _⟩ := Index.readEntry_eq_ok_iff.1 read
  rw [settled.standard.parse_eq, Except.ok.injEq] at parsed
  exact ⟨normal, file, bytes, parsed.symm⟩

/-- The text of an entry of a settled service can be written. -/
theorem writable_of_get? (settled : Settled service disk root)
    (held : service.index.entries.get? path = some entry) : Utf8.Writable entry.content :=
  (Index.readEntry_eq_ok_iff.1 (settled.sound.current path entry held).2).2.2.2

/-- The file of every entry of a settled service can be read. -/
theorem present (settled : Settled service disk root) (path : Text) (entry : Entry)
    (held : service.index.entries.get? path = some entry) :
    ∃ bytes, disk.read service.index.place path = .ok bytes :=
  ⟨_, (settled.of_get? held).2.2.1⟩

/-- The text of an indexed file is that of its entry. -/
theorem textAt_eq (settled : Settled service disk root)
    (held : service.index.entries.get? path = some entry) :
    service.textAt disk path = entry.content := by
  obtain ⟨_, _, bytes, _⟩ := settled.of_get? held
  rw [textAt, Disk.readText, bytes]
  simp only [Utf8.decode_bytes (settled.writable_of_get? held)]
  rfl

/-- The project of a settled service is read off its entries. -/
theorem project_eq (settled : Settled service disk root) :
    service.project disk = Project.ofEntries service.index.entries.entries := by
  rw [project, Index.paths, OrderedMap.keys, List.map_map, Project.ofEntries]
  refine List.map_congr_left fun item listed => ?_
  have held := (OrderedMap.get?_eq_some_iff _ _ _).2 listed
  obtain ⟨_, _, _, rules⟩ := settled.of_get? held
  rw [Function.comp_apply, settled.textAt_eq held, rules]

/-- Every entry of a settled service is one of its root. -/
theorem filesUnder_eq (settled : Settled service disk root) :
    service.index.filesUnder root = service.index.entries.entries.map Prod.snd := by
  simp only [Index.filesUnder, settled.normal.absolute_eq]
  congr 1
  refine List.filter_eq_self.2 fun item listed => ?_
  have held := (OrderedMap.get?_eq_some_iff _ _ _).2 listed
  exact ((settled.below _ _ held).normal settled.normal).2.1

/-- A stylesheet of a settled service stands under its path. -/
theorem get?_of_mem_filesUnder (settled : Settled service disk root)
    (listed : entry ∈ service.index.filesUnder root) :
    service.index.entries.get? entry.path = some entry := by
  obtain ⟨path, held, _⟩ := (Index.mem_filesUnder_iff _ _ _).1 listed
  rw [(settled.of_get? held).2.1]
  exact held

/-- The rules of the root of a settled service are those of its entries. -/
theorem rulesUnder_eq (settled : Settled service disk root) :
    service.index.rulesUnder root = Project.space service.index.entries.entries := by
  rw [Index.rulesUnder, settled.filesUnder_eq, List.flatMap_map, Project.space]
  refine List.flatMap_congr fun item listed => ?_
  have held := (OrderedMap.get?_eq_some_iff _ _ _).2 listed
  rw [(settled.of_get? held).2.1]

/-- A settled service has nothing to load. -/
theorem loaded_eq (settled : Settled service disk root) :
    service.loaded disk root = service := by
  have same : (service.index.ensureLoaded disk root).2 = service.index := by
    rw [Index.ensureLoaded]
    split
    · rfl
    · rename_i unknown
      have absent : service.index.hasUnder root = false := by simpa using unknown
      have empty : ∀ path, service.index.entries.get? path = none := by
        intro path
        rw [Option.eq_none_iff_forall_ne_some]
        intro entry held
        have under := ((settled.below _ _ held).normal settled.normal).2.1
        rw [← settled.normal.absolute_eq service.index.place] at under
        rw [Index.get?_eq_none_of_hasUnder absent under] at held
        simp at held
      have none : service.index.entries.entries = [] := by
        refine List.eq_nil_iff_forall_not_mem.2 fun item listed => ?_
        rw [← OrderedMap.get?_eq_some_iff, empty] at listed
        simp at listed
      obtain ⟨entries, shape⟩ := service.index.loadRoot_eq disk root
      have still : entries.entries = [] := by
        refine List.eq_nil_iff_forall_not_mem.2 fun item listed => ?_
        rw [← OrderedMap.get?_eq_some_iff] at listed
        have held : (service.index.loadRoot disk root).2.entries.get? item.1 = some item.2 := by
          rw [shape]
          exact listed
        rw [Index.get?_loadRoot, empty] at held
        split at held
        · rename_i found
          exact settled.bare none _ found _ (Index.toOption_eq_some_iff.1 held)
        · simp at held
      rw [shape, OrderedMap.ext_entries (still.trans none.symm)]
  rw [loaded, same]

/-- The match of an event in a settled service is that in its project. -/
theorem match?_rel (settled : Settled service disk root) (event : Event) :
    Option.Rel
      (fun found found' => Project.SameRule service.index.entries.entries found.spot found'.spot)
      (service.match? event root)
      ((service.project disk).match? service.config.weights event) := by
  rw [match?, settled.rulesUnder_eq, settled.project_eq]
  exact Project.match?_rel service.config.weights event service.index.entries.entries

/-- What an event matches in a settled service it matches in its project. -/
theorem exists_match?_eq_some (settled : Settled service disk root) {found : Match.Found}
    (matched : service.match? event root = some found) :
    ∃ found', (service.project disk).match? service.config.weights event = some found' ∧
      Project.SameRule service.index.entries.entries found.spot found'.spot := by
  have related := settled.match?_rel event
  rw [matched] at related
  generalize (service.project disk).match? service.config.weights event = outcome at related
  cases related with
  | some same => exact ⟨_, rfl, same⟩

/-- An event without a match in a settled service has none in its project. -/
theorem match?_eq_none (settled : Settled service disk root)
    (unmatched : service.match? event root = none) :
    (service.project disk).match? service.config.weights event = none := by
  have related := settled.match?_rel event
  rw [unmatched] at related
  generalize (service.project disk).match? service.config.weights event = outcome at related
  cases related with
  | none => rfl

/-- The longest stylesheet of a settled service is the one with the most characters on the
disk. -/
theorem longest?_eq (settled : Settled service disk root) :
    service.longest? disk = (service.index.largest? root).map Entry.path := by
  have paths : service.longest? disk =
      (service.index.entries.entries.argmax fun item => item.2.size).map Prod.fst := by
    refine argmax_map _ Prod.fst _ _ fun item listed => ?_
    rw [settled.textAt_eq ((OrderedMap.get?_eq_some_iff _ _ _).2 listed)]
    rfl
  have sizes : service.index.largest? root =
      (service.index.entries.entries.argmax fun item => item.2.size).map Prod.snd := by
    rw [Index.largest?_eq_argmax, settled.filesUnder_eq]
    exact argmax_map _ Prod.snd _ _ fun item listed => rfl
  rw [paths, sizes]
  cases best : service.index.entries.entries.argmax fun item => item.2.size with
  | none => rfl
  | some item =>
    have listed : item ∈ service.index.entries.entries := List.argmax_mem best
    have held := (OrderedMap.get?_eq_some_iff _ _ _).2 listed
    rw [Option.map_some, Option.map_some, Option.map_some, (settled.of_get? held).2.1]

/-- A service with another index and disk is settled when nothing was written. -/
theorem of_untouched (settled : Settled service disk root)
    (rooted : after.root = service.root)
    (same : Workspace.Untouched ⟨service.index, disk⟩ ⟨after.index, disk'⟩) :
    Settled after disk' root := by
  obtain ⟨index, nodes⟩ := same
  simp only at index nodes
  refine ⟨rooted.trans settled.rooted, settled.normal, ?_, ?_, ⟨?_, ?_⟩, ?_, ?_⟩
  · rw [index, Disk.canList_congr nodes]
    exact settled.listable
  · rw [index]
    exact settled.standard
  · intro trail
    show trail ∈ disk'.nodes.keys → _
    rw [nodes]
    exact settled.sound.named trail
  · intro path entry held
    simp only [index] at held ⊢
    rw [Index.readEntry_congr nodes]
    exact settled.sound.current path entry held
  · rw [index]
    exact settled.below
  · rw [index]
    intro none path found entry
    rw [Index.readEntry_congr nodes]
    refine settled.bare none path ?_ entry
    rw [Index.discover, ← Disk.stylesheets_congr nodes]
    exact found

/-- A service is settled when a file below its root was written with its entry. -/
theorem of_wrote (settled : Settled service disk root) (rooted : after.root = service.root)
    (below : Below root path)
    (wrote : Workspace.Wrote ⟨service.index, disk⟩ path content ⟨after.index, disk'⟩) :
    Settled after disk' root := by
  obtain ⟨place, parse⟩ := wrote.place_parse
  obtain ⟨rules, parsed, index⟩ := wrote.index
  have written := wrote.disk
  simp only at place parse index written parsed
  have normal := (below.normal settled.normal).1
  have held : ∀ other entry, after.index.entries.get? other = some entry →
      other = path ∧ entry = ⟨path, content, rules⟩ ∨
        other ≠ path ∧ service.index.entries.get? other = some entry := by
    intro other entry held
    rw [index] at held
    exact Index.of_get?_store held
  refine ⟨rooted.trans settled.rooted, settled.normal, ?_, ?_, ⟨?_, ?_⟩, ?_, ?_⟩
  · rw [place, Disk.canList, written.access?_eq]
    exact settled.listable
  · rw [Index.Standard, parse]
    exact settled.standard
  · exact written.named normal settled.sound.named
  · intro other entry known
    rcases held other entry known with ⟨rfl, rfl⟩ | ⟨apart, known⟩
    · refine ⟨normal, Index.readEntry_eq_ok_iff.2 ⟨rfl, ?_, ?_, wrote.writable⟩⟩
      · rw [place]
        exact wrote.read
      · rw [parse]
        exact parsed
    · obtain ⟨normal', file, bytes, _⟩ := settled.of_get? known
      have trails : names other ≠ names path := fun same =>
        apart ((settled.below _ _ known).eq_of_names_eq below settled.normal same)
      refine ⟨normal', Index.readEntry_eq_ok_iff.2
        ⟨file, ?_, ?_, settled.writable_of_get? known⟩⟩
      · rw [place]
        exact written.read_of_ne normal' trails bytes
      · rw [parse]
        exact (Index.readEntry_eq_ok_iff.1 (settled.sound.current _ _ known).2).2.2.1
  · intro other entry known
    rcases held other entry known with ⟨rfl, rfl⟩ | ⟨_, known⟩
    · exact below
    · exact settled.below other entry known
  · intro none
    have stored : after.index.entries.get? path = some ⟨path, content, rules⟩ := by
      rw [index]
      exact Index.get?_store_self _ _
    rw [OrderedMap.get?_eq_some_iff, none] at stored
    simp at stored

end Settled

end Restyle.Service
