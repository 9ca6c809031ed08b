import Mathlib.Data.List.Perm.Lattice
import Restyle.Proofs.Index

/-!
# Scanned folders

An index holds some folders when its entries are what reading the stylesheets of those folders
gives. Loading a root adds it to them, unless an entry lies below it already
(`Holds.ensureLoaded`), and writing a stylesheet that is found in one of them keeps them
(`Holds.of_wrote`). Main statements, for two indexes that hold different folders of one disk: they
have the same rules below a root up to order exactly when they find the same stylesheets with rules
there (`Holds.perm_rulesUnder_iff`), and an index that went through a root finds there what a new
one finds, unless one of its folders lies below the root behind one that is skipped or that may not
be listed (`Holds.perm_filesUnder_of_covers`).
-/
namespace Restyle.Index

open Restyle.Path (IsName Normal names)

variable {index other : Index} {disk : Disk} {folders folders' : List Text} {root path : Text}
  {entry : Entry}

/-- A stylesheet is found in one of some folders. -/
def Finds (index : Index) (disk : Disk) (folders : List Text) (path : Text) : Prop :=
  ∃ folder ∈ folders, path ∈ index.discover disk folder

/-- The entries are what reading the stylesheets of some folders gives. -/
def Holds (index : Index) (disk : Disk) (folders : List Text) : Prop :=
  ∀ path entry, index.entries.get? path = some entry ↔
    index.Finds disk folders path ∧ index.readEntry disk path = .ok entry

/-- The names on the way from a folder down to one below it. -/
def way? (index : Index) (above below : Text) : Option Trail :=
  Disk.below? (names (Path.absolute index.place above)) (names (Path.absolute index.place below))

/-- A folder lies below another one, or is it, and one who goes through the upper one gets to it: no
folder on the way is passed by, and each may be listed. -/
def Covers (index : Index) (disk : Disk) (above below : Text) : Prop :=
  ∃ trail ∈ index.way? above below, (∀ name ∈ trail, name ∉ index.skipped) ∧
    disk.Lists (names (Path.absolute index.place above)) trail

/-- A folder lies below another one, and one who goes through the upper one does not get to it: some
folder on the way, or it itself, is passed by, or some folder on the way may not be listed. -/
def Hides (index : Index) (disk : Disk) (above below : Text) : Prop :=
  ∃ trail ∈ index.way? above below, (∃ name ∈ trail, name ∈ index.skipped) ∨
    ¬ disk.Lists (names (Path.absolute index.place above)) trail

instance (index : Index) (disk : Disk) (above below : Text) :
    Decidable (index.Covers disk above below) :=
  inferInstanceAs (Decidable (∃ _ ∈ _, _))

instance (index : Index) (disk : Disk) (above below : Text) :
    Decidable (index.Hides disk above below) :=
  inferInstanceAs (Decidable (∃ _ ∈ _, _))

/-- The folders that were searched once a root is to be loaded: it is one of them, unless an entry
lies below it already. -/
def searched (index : Index) (root : Text) (folders : List Text) : List Text :=
  if index.hasUnder root then folders else root :: folders

/-- What is found is settled by where paths are read from, by the folders that are passed by, and by
the items of the disk. -/
theorem discover_congr {disk' : Disk} (place : other.place = index.place)
    (skipped : other.skipped = index.skipped) (same : disk'.nodes = disk.nodes) (root : Text) :
    other.discover disk' root = index.discover disk root := by
  rw [discover, discover, place, skipped, Disk.stylesheets_congr same]

/-- Loading a root leaves where paths are read from, the folders that are passed by and how rules
are read. -/
theorem ensureLoaded_settings (index : Index) (disk : Disk) (root : Text) :
    (index.ensureLoaded disk root).2.place = index.place ∧
      (index.ensureLoaded disk root).2.skipped = index.skipped ∧
      (index.ensureLoaded disk root).2.parse = index.parse := by
  obtain ⟨entries, shape⟩ := index.ensureLoaded_eq disk root
  rw [shape]
  exact ⟨rfl, rfl, rfl⟩

/-- An index without entries below a root has those of the root and its own once that is loaded. -/
theorem get?_loadRoot_of_hasUnder (absent : index.hasUnder root = false) (path : Text) :
    (index.loadRoot disk root).2.entries.get? path =
      if path ∈ index.discover disk root then (index.readEntry disk path).toOption
      else index.entries.get? path := by
  rw [get?_loadRoot]
  split
  · rfl
  · split
    · rename_i under
      rw [get?_eq_none_of_hasUnder absent under]
    · rfl

namespace Holds

/-- An index without entries holds no folder. -/
theorem clear (index : Index) (disk : Disk) : index.clear.Holds disk [] := by
  intro path entry
  simp [Index.clear, Finds]

/-- An index whose folders and readings are the same holds the same folders. -/
theorem congr {disk' : Disk} (holds : index.Holds disk folders)
    (entries : other.entries = index.entries) (place : other.place = index.place)
    (skipped : other.skipped = index.skipped) (parse : other.parse = index.parse)
    (same : disk'.nodes = disk.nodes) : other.Holds disk' folders := by
  intro path entry
  simp only [Finds, entries, discover_congr place skipped same, readEntry_congr same,
    readEntry_eq_of place parse]
  exact holds path entry

/-- Loading a root without entries adds it to the folders. -/
theorem loadRoot (holds : index.Holds disk folders) (absent : index.hasUnder root = false) :
    (index.loadRoot disk root).2.Holds disk (root :: folders) := by
  obtain ⟨entries, shape⟩ := index.loadRoot_eq disk root
  have place : (index.loadRoot disk root).2.place = index.place := by rw [shape]
  have skipped : (index.loadRoot disk root).2.skipped = index.skipped := by rw [shape]
  have parse : (index.loadRoot disk root).2.parse = index.parse := by rw [shape]
  intro path entry
  simp only [Finds, List.mem_cons, exists_eq_or_imp, discover_congr place skipped rfl,
    readEntry_eq_of place parse]
  rw [get?_loadRoot_of_hasUnder absent]
  split
  · rename_i found
    simp [toOption_eq_some_iff, found]
  · rename_i missed
    simp only [missed, false_or]
    exact holds path entry

/-- Once a root is to be loaded an index holds the folders that were searched. -/
theorem ensureLoaded (holds : index.Holds disk folders) (root : Text) :
    (index.ensureLoaded disk root).2.Holds disk (index.searched root folders) := by
  rw [Index.ensureLoaded, searched]
  cases known : index.hasUnder root with
  | true => exact holds
  | false => exact holds.loadRoot known

end Holds

section

variable {trail : Trail}

/-- A stylesheet behind some folders is listed when it is one behind none and no folder on the way
is passed by. -/
theorem isListed_append {skipped : List Text} {front back : List Text} (some : back ≠ []) :
    Disk.isListed skipped (front ++ back) = true ↔
      (∀ name ∈ front, name ∉ skipped) ∧ Disk.isListed skipped back = true := by
  obtain ⟨inner, last, rfl⟩ : ∃ inner last, back = inner ++ [last] :=
    ⟨back.dropLast, back.getLast some, (List.dropLast_append_getLast some).symm⟩
  simp only [Disk.isListed, ← List.append_assoc, List.dropLast_concat, List.getLastD_concat,
    Bool.and_eq_true, Bool.not_eq_true', List.any_append, Bool.or_eq_false_iff,
    List.any_eq_false, List.contains_eq_mem, decide_eq_true_eq]
  tauto

/-- A file that can be read is found below a root exactly when it is listed there and the folders on
the way may be listed. -/
theorem mem_discover_iff_of_read (named : disk.Named) (normal : Normal path)
    (begins : Path.leading path = Path.leading (Path.absolute index.place root))
    (read : index.readEntry disk path = .ok entry) :
    path ∈ index.discover disk root ↔
      ∃ trail, names path = names (Path.absolute index.place root) ++ trail ∧
        Disk.isListed index.skipped trail = true ∧
        disk.Lists (names (Path.absolute index.place root)) trail := by
  have rooted := Path.normal_absolute index.place root
  constructor
  · intro found
    obtain ⟨_, trail, rfl, ⟨node, held, _⟩, listed, shown⟩ :=
      (Disk.mem_stylesheets_iff rooted).1 found
    have some := Disk.ne_nil_of_isListed listed
    refine ⟨trail, rooted.names_append some fun name inside => ?_, listed,
      Disk.lists_of_isShown some shown⟩
    have known : names (Path.absolute index.place root) ++ trail ∈ disk.nodes.keys :=
      OrderedMap.mem_keys_of_get? held
    exact named _ known name (by simp [inside])
  · rintro ⟨trail, whole, listed, lists⟩
    have some := Disk.ne_nil_of_isListed listed
    have proper : ∀ name ∈ trail, IsName name := fun name inside =>
      normal.2 name (by rw [whole]; simp [inside])
    have same : path = Path.append (Path.absolute index.place root) (Text.join ['/'] trail) :=
      normal.eq_of_names_eq (rooted.append some proper)
        (begins.trans (rooted.leading_append some proper).symm)
        (whole.trans (rooted.names_append some proper).symm)
    have file := (readEntry_eq_ok_iff.1 read).2.1
    rw [same] at file ⊢
    exact Disk.mem_stylesheets_of_read rooted proper listed lists file

end

/-- A file that can be read and is found below a root is found in every folder that covers the
root. -/
theorem mem_discover_of_covers (named : disk.Named) {above : Text}
    (begins : Path.leading (Path.absolute index.place above) =
      Path.leading (Path.absolute index.place root))
    (covered : index.Covers disk above root) (read : index.readEntry disk path = .ok entry)
    (found : path ∈ index.discover disk root) : path ∈ index.discover disk above := by
  have normal := (of_mem_discover named found).1
  have lead := leading_of_mem_discover named found
  obtain ⟨trail, whole, listed, lists⟩ := (mem_discover_iff_of_read named normal lead read).1 found
  obtain ⟨way, down, clear, open_⟩ := covered
  rw [Option.mem_def, way?, Disk.below?_eq_some_iff] at down
  refine (mem_discover_iff_of_read named normal (lead.trans begins.symm) read).2
    ⟨way ++ trail, ?_, ?_, ?_⟩
  · rw [whole, down, List.append_assoc]
  · exact (isListed_append (Disk.ne_nil_of_isListed listed)).2 ⟨clear, listed⟩
  · exact Disk.lists_append.2 ⟨open_, down ▸ lists⟩

/-- A file that can be read, lies below a root and is found in a folder is found below the root,
unless the folder lies below it behind one that is passed by or may not be listed. -/
theorem mem_discover_of_not_hides (named : disk.Named) {folder : Text}
    (begins : Path.leading (Path.absolute index.place folder) =
      Path.leading (Path.absolute index.place root))
    (stands : disk.hasFolder (names (Path.absolute index.place root)) = true)
    (plain : ¬ index.Hides disk root folder) (read : index.readEntry disk path = .ok entry)
    (under : Path.isUnder path (Path.absolute index.place root) = true)
    (found : path ∈ index.discover disk folder) : path ∈ index.discover disk root := by
  have normal := (of_mem_discover named found).1
  have lead := leading_of_mem_discover named found
  obtain ⟨trail, whole, listed, lists⟩ := (mem_discover_iff_of_read named normal lead read).1 found
  have some := Disk.ne_nil_of_isListed listed
  obtain ⟨rest, down⟩ := (Path.normal_absolute index.place root).prefix_of_isUnder under
  -- the path is that of a file, so it is not the root
  have inner : rest ≠ [] := by
    rintro rfl
    have file := Disk.bytes?_of_read normal (readEntry_eq_ok_iff.1 read).2.1
    rw [← down, List.append_nil, Disk.bytes?] at file
    rw [Disk.hasFolder, Disk.access?] at stands
    split at stands
    · rename_i folder
      simp [folder] at file
    · simp at stands
  suffices Disk.isListed index.skipped rest = true ∧
      disk.Lists (names (Path.absolute index.place root)) rest from
    (mem_discover_iff_of_read named normal (lead.trans begins) read).2 ⟨rest, down.symm, this⟩
  rw [whole] at down
  rcases List.append_eq_append_iff.1 down with ⟨way, below, rfl⟩ | ⟨way, above, rfl⟩
  · -- the folder lies below the root
    have way? := Disk.below?_eq_some_iff.2 below
    have open_ : disk.Lists (names (Path.absolute index.place root)) way :=
      of_not_not fun closed => plain ⟨way, way?, .inr closed⟩
    refine ⟨(isListed_append some).2 ⟨fun name inside passed => ?_, listed⟩,
      Disk.lists_append.2 ⟨open_, below ▸ lists⟩⟩
    exact plain ⟨way, way?, .inl ⟨name, inside, passed⟩⟩
  · -- the root lies below the folder
    exact ⟨((isListed_append inner).1 listed).2, above ▸ (Disk.lists_append.1 lists).2⟩

/-- The rules below a root are those of its stylesheets that have some. -/
theorem rulesUnder_eq_flatMap_filter (index : Index) (root : Text) :
    index.rulesUnder root =
      ((index.filesUnder root).filter fun entry => !entry.rules.isEmpty).flatMap fun entry =>
        entry.rules.map fun rule => (entry.path, rule) := by
  rw [rulesUnder]
  induction index.filesUnder root with
  | nil => rfl
  | cons entry rest ih =>
    rw [List.flatMap_cons, ih, List.filter_cons]
    split
    · rw [List.flatMap_cons]
    · rename_i bare
      have none : entry.rules = [] := by simpa using bare
      rw [none, List.map_nil, List.nil_append]

/-- What is found in some folders is found there after a file was written. -/
theorem Finds.of_wrote {disk' : Disk} {other : Text} {bytes : List UInt8}
    (found : index.Finds disk folders other) (wrote : disk.Wrote index.place path bytes disk') :
    index.Finds disk' folders other := by
  obtain ⟨folder, listed, inside⟩ := found
  exact ⟨folder, listed, wrote.mem_stylesheets (Path.normal_absolute _ folder) inside⟩

/-- What another file is read as is not changed by a write. -/
theorem readEntry_iff_of_wrote {disk' : Disk} {place : Place} {bytes : List UInt8}
    (placed : index.place = place) (wrote : disk.Wrote place path bytes disk') {other : Text}
    (normal : Normal other) (apart : names other ≠ names path) :
    index.readEntry disk' other = .ok entry ↔ index.readEntry disk other = .ok entry := by
  rw [readEntry_eq_ok_iff, readEntry_eq_ok_iff, placed, wrote.read_iff_of_ne normal apart]

namespace Holds

/-- Storing the entry of a stylesheet that was written keeps the folders, if the stylesheet is found
in one of them and by no other path. -/
theorem store {disk' : Disk} {content : Text} {rules : List Rule}
    (holds : index.Holds disk folders) (named : disk'.Named)
    (writable : Utf8.Writable content) (readable : disk.isReadable (names path) = true)
    (wrote : disk.Wrote index.place path (Utf8.bytes content) disk')
    (parsed : index.parse content = .ok rules) (found : index.Finds disk' folders path)
    (sole : ∀ twin, index.Finds disk' folders twin → names twin = names path → twin = path) :
    (index.store ⟨path, content, rules⟩).Holds disk' folders := by
  intro other entry
  show _ ↔ index.Finds disk' folders other ∧ index.readEntry disk' other = .ok entry
  by_cases here : other = path
  · subst here
    have read : index.readEntry disk' other = .ok ⟨other, content, rules⟩ :=
      readEntry_eq_ok_iff.2 ⟨rfl, wrote.readable readable, parsed, writable⟩
    rw [get?_store_self index ⟨other, content, rules⟩, read, Option.some.injEq, Except.ok.injEq]
    exact (and_iff_right found).symm
  · rw [get?_store_of_ne here, holds other entry]
    have elsewhere : ∀ after : index.Finds disk' folders other,
        Normal other ∧ names other ≠ names path := by
      rintro ⟨folder, listed, inside⟩
      exact ⟨(of_mem_discover named inside).1,
        fun same => here (sole other ⟨_, listed, inside⟩ same)⟩
    constructor
    · rintro ⟨before, read⟩
      obtain ⟨normal, apart⟩ := elsewhere (before.of_wrote wrote)
      exact ⟨before.of_wrote wrote, (readEntry_iff_of_wrote rfl wrote normal apart).2 read⟩
    · rintro ⟨⟨folder, listed, after⟩, read⟩
      obtain ⟨normal, apart⟩ := elsewhere ⟨folder, listed, after⟩
      exact ⟨⟨folder, listed, wrote.of_mem_stylesheets named (Path.normal_absolute _ folder) after
        apart⟩, (readEntry_iff_of_wrote rfl wrote normal apart).1 read⟩

/-- An entry of an index stands below a root exactly when its stylesheet is found among the folders
and below the root. -/
theorem mem_filesUnder_iff (holds : index.Holds disk folders) :
    entry ∈ index.filesUnder root ↔ index.Finds disk folders entry.path ∧
      index.readEntry disk entry.path = .ok entry ∧
      Path.isUnder entry.path (Path.absolute index.place root) = true := by
  rw [Index.mem_filesUnder_iff]
  constructor
  · rintro ⟨path, held, under⟩
    obtain ⟨found, read⟩ := (holds path entry).1 held
    obtain rfl := path_of_readEntry read
    exact ⟨found, read, under⟩
  · rintro ⟨found, read, under⟩
    exact ⟨entry.path, (holds _ entry).2 ⟨found, read⟩, under⟩

/-- No entry stands below a root twice. -/
theorem nodup_filesUnder (holds : index.Holds disk folders) (root : Text) :
    (index.filesUnder root).Nodup := by
  have paths : (index.filesUnder root).map Entry.path =
      (index.entries.entries.filter fun item =>
        Path.isUnder item.1 (Path.absolute index.place root)).map Prod.fst := by
    rw [filesUnder, List.map_map]
    refine List.map_congr_left fun item listed => ?_
    have held := (OrderedMap.get?_eq_some_iff index.entries item.1 item.2).2
      (List.mem_filter.1 listed).1
    exact path_of_readEntry ((holds _ _).1 held).2
  refine List.Nodup.of_map Entry.path ?_
  rw [paths]
  exact (List.filter_sublist.map Prod.fst).nodup index.entries.distinct

/-- A rule of an index stands below a root exactly when it is one of a stylesheet that is found
among the folders and below the root. -/
theorem mem_rulesUnder_iff (holds : index.Holds disk folders) {rule : Rule} :
    (path, rule) ∈ index.rulesUnder root ↔ index.Finds disk folders path ∧
      Path.isUnder path (Path.absolute index.place root) = true ∧
      ∃ entry, index.readEntry disk path = .ok entry ∧ rule ∈ entry.rules := by
  simp only [rulesUnder, List.mem_flatMap, List.mem_map, Prod.mk.injEq, holds.mem_filesUnder_iff]
  constructor
  · rintro ⟨entry, ⟨found, read, under⟩, rule, stated, rfl, rfl⟩
    exact ⟨found, under, entry, read, stated⟩
  · rintro ⟨found, under, entry, read, stated⟩
    obtain rfl := path_of_readEntry read
    exact ⟨entry, ⟨found, read, under⟩, rule, stated, rfl, rfl⟩

section

variable (holds : index.Holds disk folders) (holds' : other.Holds disk folders')
  (place : other.place = index.place) (parse : other.parse = index.parse)

include holds holds' place parse

/-- Two indexes of one disk have the same stylesheets of some kind below a root, up to order, when
their folders show the same ones there. -/
theorem perm_filter_filesUnder {kind : Entry → Bool}
    (same : ∀ path entry, index.readEntry disk path = .ok entry → kind entry = true →
      Path.isUnder path (Path.absolute index.place root) = true →
      (index.Finds disk folders path ↔ other.Finds disk folders' path)) :
    ((index.filesUnder root).filter kind).Perm ((other.filesUnder root).filter kind) := by
  rw [List.perm_ext_iff_of_nodup ((holds.nodup_filesUnder root).filter kind)
    ((holds'.nodup_filesUnder root).filter kind)]
  intro entry
  simp only [List.mem_filter, holds.mem_filesUnder_iff, holds'.mem_filesUnder_iff, place,
    readEntry_eq_of place parse]
  constructor
  · rintro ⟨⟨found, read, under⟩, suits⟩
    exact ⟨⟨(same _ _ read suits under).1 found, read, under⟩, suits⟩
  · rintro ⟨⟨found, read, under⟩, suits⟩
    exact ⟨⟨(same _ _ read suits under).2 found, read, under⟩, suits⟩

/-- Two indexes of one disk have the same stylesheets below a root, up to order, when their folders
show the same ones there. -/
theorem perm_filesUnder
    (same : ∀ path entry, index.readEntry disk path = .ok entry →
      Path.isUnder path (Path.absolute index.place root) = true →
      (index.Finds disk folders path ↔ other.Finds disk folders' path)) :
    (index.filesUnder root).Perm (other.filesUnder root) := by
  have whole : ((index.filesUnder root).filter fun _ => true).Perm
      ((other.filesUnder root).filter fun _ => true) :=
    holds.perm_filter_filesUnder holds' place parse fun path entry read _ => same path entry read
  simpa using whole

/-- Two indexes of one disk have the same rules below a root, up to order, exactly when their
folders show the same stylesheets with rules there. -/
theorem perm_rulesUnder_iff :
    (index.rulesUnder root).Perm (other.rulesUnder root) ↔
      ∀ path entry, index.readEntry disk path = .ok entry → entry.rules ≠ [] →
        Path.isUnder path (Path.absolute index.place root) = true →
        (index.Finds disk folders path ↔ other.Finds disk folders' path) := by
  constructor
  · intro perm path entry read stated under
    obtain ⟨rule, listed⟩ := List.exists_mem_of_ne_nil _ stated
    have both := perm.mem_iff (a := (path, rule))
    rw [holds.mem_rulesUnder_iff, holds'.mem_rulesUnder_iff, place, readEntry_eq_of place parse]
      at both
    simpa [under, read, listed] using both
  · intro same
    rw [rulesUnder_eq_flatMap_filter, rulesUnder_eq_flatMap_filter]
    refine (holds.perm_filter_filesUnder holds' place parse fun path entry read suits under =>
      same path entry read ?_ under).flatMap_right _
    simpa using suits

/-- Two indexes of one disk have the same stylesheets below a root, up to order, when one went
through the root only and the other through a folder above it, and no folder that this one went
through lies below the root behind one that is passed by or may not be listed. -/
theorem perm_filesUnder_of_covers (named : disk.Named) (skipped : other.skipped = index.skipped)
    (alone : folders' = [root])
    (begins : ∀ folder ∈ folders, Path.leading (Path.absolute index.place folder) =
      Path.leading (Path.absolute index.place root))
    (folder : disk.leadsToFolder index.place (Path.absolute index.place root) = true)
    (covered : ∃ folder ∈ folders, index.Covers disk folder root)
    (plain : ∀ folder ∈ folders, ¬ index.Hides disk root folder) :
    (index.filesUnder root).Perm (other.filesUnder root) := by
  refine holds.perm_filesUnder holds' place parse fun path entry read under => ?_
  have stands : disk.hasFolder (names (Path.absolute index.place root)) = true := by
    rw [Disk.leadsToFolder] at folder
    split at folder
    · simp at folder
    · rename_i trail led
      rw [← Disk.eq_of_locate (Path.normal_absolute index.place root) led]
      exact folder
  simp only [Finds, alone, discover_congr place skipped rfl, List.mem_singleton, exists_eq_left]
  constructor
  · rintro ⟨folder, listed, found⟩
    exact mem_discover_of_not_hides named (begins folder listed) stands (plain folder listed) read
      under found
  · intro found
    obtain ⟨folder, listed, covered⟩ := covered
    exact ⟨folder, listed, mem_discover_of_covers named (begins folder listed) covered read found⟩

end

/-- Once a root without entries is loaded, an index has there the stylesheets of one that went
through the root only, up to order. -/
theorem perm_filesUnder_loadRoot (holds : index.Holds disk folders)
    (absent : index.hasUnder root = false) (holds' : other.Holds disk [root])
    (place : other.place = index.place) (skipped : other.skipped = index.skipped)
    (parse : other.parse = index.parse) :
    ((index.loadRoot disk root).2.filesUnder root).Perm (other.filesUnder root) := by
  obtain ⟨entries, shape⟩ := index.loadRoot_eq disk root
  have place' : (index.loadRoot disk root).2.place = index.place := by rw [shape]
  have skipped' : (index.loadRoot disk root).2.skipped = index.skipped := by rw [shape]
  have parse' : (index.loadRoot disk root).2.parse = index.parse := by rw [shape]
  refine (holds.loadRoot absent).perm_filesUnder holds' (place.trans place'.symm)
    (parse.trans parse'.symm) fun path entry read under => ?_
  rw [readEntry_eq_of place' parse'] at read
  rw [place'] at under
  simp only [Finds, List.mem_cons, List.not_mem_nil, or_false, exists_eq_or_imp, exists_eq_left,
    discover_congr place skipped rfl, discover_congr place' skipped' rfl, or_iff_left_iff_imp]
  intro found
  have held := (holds path entry).2 ⟨found, read⟩
  rw [get?_eq_none_of_hasUnder absent under] at held
  simp at held

end Holds

end Restyle.Index
