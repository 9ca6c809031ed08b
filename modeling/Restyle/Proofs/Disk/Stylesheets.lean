import Restyle.Disk.Stylesheets
import Restyle.Proofs.Disk.Write
import Restyle.Proofs.OrderedMap
import Restyle.Proofs.Text.Utf8

/-!
# Finding stylesheets

The stylesheets of a folder are paths of proper names below it (`exists_of_mem_stylesheets`),
and every file below it that is listed and can be read is one of them where the folders on the way
may be listed (`mem_stylesheets_of_read`).
-/
namespace Restyle.Disk

open Restyle.Path (IsName Normal names)
open Text (join)

variable {disk : Disk} {place : Place} {skipped : List Text} {root : Text} {trail : Trail}

/-- Whether something other than a folder stands at a trail below the top. -/
def HasLeaf (disk : Disk) (trail : Trail) : Prop :=
  ∃ node, disk.nodes.get? trail = some node ∧ node.isFolder = false

/-- Whether every folder on the way from a folder down a trail may be listed. -/
def Lists (disk : Disk) (folder trail : Trail) : Prop :=
  ∀ depth < trail.length, disk.canList (folder ++ trail.take depth) = true

instance (disk : Disk) (folder trail : Trail) : Decidable (disk.Lists folder trail) :=
  inferInstanceAs (Decidable (∀ depth < _, _ = _))

/-- The folders on the way down two trails, one behind the other, may be listed when they may be
on the way down each. -/
theorem lists_append {folder front back : Trail} :
    disk.Lists folder (front ++ back) ↔
      disk.Lists folder front ∧ disk.Lists (folder ++ front) back := by
  constructor
  · intro all
    refine ⟨fun depth short => ?_, fun depth short => ?_⟩
    · have step := all depth (by rw [List.length_append]; omega)
      rwa [List.take_append_of_le_length (by omega)] at step
    · have step := all (front.length + depth) (by rw [List.length_append]; omega)
      rwa [List.take_length_add_append, ← List.append_assoc] at step
  · rintro ⟨first, second⟩ depth short
    rw [List.length_append] at short
    by_cases early : depth < front.length
    · rw [List.take_append_of_le_length (by omega)]
      exact first depth early
    · obtain ⟨rest, rfl⟩ := Nat.exists_eq_add_of_le (Nat.le_of_not_lt early)
      rw [List.take_length_add_append, ← List.append_assoc]
      exact second rest (by omega)

/-- A folder on the way may be listed. -/
theorem Lists.canList {folder front back : Trail} {name : Text}
    (all : disk.Lists folder (front ++ name :: back)) :
    disk.canList (folder ++ front) = true := by
  simpa using all front.length (by simp)

/-- The leaves of a disk are its items other than folders. -/
theorem mem_leaves_iff (disk : Disk) (trail : Trail) :
    trail ∈ disk.leaves ↔ disk.HasLeaf trail := by
  simp [leaves, HasLeaf, OrderedMap.get?_eq_some_iff]

/-- A file is a leaf. -/
theorem hasLeaf_of_get? {readable : Bool} {bytes : List UInt8}
    (held : disk.nodes.get? trail = some (.file bytes readable)) : disk.HasLeaf trail :=
  ⟨_, held, rfl⟩

/-- One gets to list a folder below another one exactly when it may be listed and every folder on
the way may be listed and entered. -/
theorem isShown_iff (disk : Disk) (folder way : Trail) :
    disk.isShown folder way = true ↔
      disk.canList (folder ++ way) = true ∧ ∀ front name back, way = front ++ name :: back →
        disk.canList (folder ++ front) = true ∧ disk.canEnter (folder ++ front) = true := by
  induction way generalizing folder with
  | nil => simp [isShown]
  | cons first rest ih =>
    rw [isShown, Bool.and_eq_true, Bool.and_eq_true, ih]
    simp only [List.append_assoc, List.singleton_append]
    constructor
    · rintro ⟨own, last, others⟩
      refine ⟨last, fun front name back parted => ?_⟩
      cases front with
      | nil => simpa using own
      | cons head front =>
        obtain ⟨rfl, rfl⟩ := List.cons.inj parted
        exact others front name back rfl
    · rintro ⟨last, all⟩
      refine ⟨by simpa using all [] first rest rfl, last, fun front name back parted => ?_⟩
      exact all (first :: front) name back (by rw [parted]; rfl)

/-- A trail leads from a folder down to an item when it is what follows the folder's trail. -/
theorem below?_eq_some_iff {folder full : Trail} :
    below? folder full = some trail ↔ full = folder ++ trail := by
  rw [below?]
  constructor
  · intro found
    split at found
    · rename_i above
      obtain ⟨rest, rfl⟩ := List.isPrefixOf_iff_prefix.1 above
      simpa using found
    · simp at found
  · rintro rfl
    rw [if_pos (by simp)]
    simp

/-- A listed trail leads from the folder down to a leaf, is one of a stylesheet, and leads through
folders that are shown. -/
theorem mem_listing_iff (disk : Disk) (skipped : List Text) (folder trail : Trail) :
    trail ∈ disk.listing skipped folder ↔
      disk.HasLeaf (folder ++ trail) ∧ isListed skipped trail = true ∧
        disk.isShown folder trail.dropLast = true := by
  rw [listing, List.mem_mergeSort, List.mem_filter, List.mem_filterMap, Bool.and_eq_true]
  refine and_congr_left fun _ => ?_
  constructor
  · rintro ⟨full, listed, found⟩
    rw [below?_eq_some_iff] at found
    rw [← found]
    exact (mem_leaves_iff disk full).1 listed
  · intro leaf
    exact ⟨_, (mem_leaves_iff disk _).2 leaf, below?_eq_some_iff.2 rfl⟩

/-- Where one gets to list the folder of an item, the folders on the way to the item may be
listed. -/
theorem lists_of_isShown {folder : Trail} (some : trail ≠ [])
    (shown : disk.isShown folder trail.dropLast = true) : disk.Lists folder trail := by
  obtain ⟨last, others⟩ := (isShown_iff _ _ _).1 shown
  rw [← List.dropLast_append_getLast some, lists_append]
  refine ⟨fun depth short => ?_, fun depth short => ?_⟩
  · have parted : trail.dropLast = trail.dropLast.take depth ++
        trail.dropLast[depth] :: trail.dropLast.drop (depth + 1) := by
      rw [← List.drop_eq_getElem_cons short, List.take_append_drop]
    exact (others _ _ _ parted).1
  · obtain rfl : depth = 0 := by simpa using short
    simpa using last

/-- The empty trail is none of a stylesheet. -/
theorem ne_nil_of_isListed (listed : isListed skipped trail = true) : trail ≠ [] := by
  rintro rfl
  rw [isListed, Bool.and_eq_true] at listed
  exact absurd listed.1 (by decide)

/-- A listed trail has names, and they are proper ones. -/
theorem isName_of_mem_listing (proper : disk.Named) {folder : Trail}
    (listed : trail ∈ disk.listing skipped folder) :
    trail ≠ [] ∧ ∀ name ∈ trail, IsName name := by
  obtain ⟨⟨node, held, _⟩, kind, _⟩ := (mem_listing_iff disk skipped folder trail).1 listed
  have known : folder ++ trail ∈ disk.nodes.keys := OrderedMap.mem_keys_of_get? held
  exact ⟨ne_nil_of_isListed kind, fun name inside => proper _ known name (by simp [inside])⟩

/-- The stylesheets of a folder are paths of proper names below it. -/
theorem exists_of_mem_stylesheets (proper : disk.Named) {path : Text}
    (found : path ∈ disk.stylesheets place skipped root) :
    ∃ trail, trail ≠ [] ∧ (∀ name ∈ trail, IsName name) ∧
      path = Path.append root (join ['/'] trail) := by
  rw [stylesheets] at found
  split at found
  · simp at found
  · obtain ⟨trail, listed, rfl⟩ := List.mem_map.1 found
    obtain ⟨some, inside⟩ := isName_of_mem_listing proper listed
    exact ⟨trail, some, inside, rfl⟩

/-- A path can be one when a longer one can. -/
theorem checkPath_of_prefix {first second : Text} (some : first ≠ []) (begins : first <+: second)
    (checked : checkPath second = .ok ()) : checkPath first = .ok () := by
  obtain ⟨rest, rfl⟩ := begins
  rw [checkPath] at checked ⊢
  split at checked
  · simp at checked
  · rename_i whole
    split at checked
    · simp at checked
    · split at checked
      · simp at checked
      · rename_i short
        rw [Utf8.bytes_append, List.length_append] at short
        have plain : nameFault? first = none := by
          rw [nameFault?_eq_none_iff] at whole ⊢
          exact ⟨fun c held => whole.1 c (List.mem_append_left _ held),
            fun held => whole.2 (List.mem_append_left _ held)⟩
        simp only [plain]
        rw [if_neg (by simpa using some), if_neg (by omega)]

/-- A path that leads below a folder leads through the folder, and enters every folder on the way.
-/
theorem of_follow_append {folder : Trail} (proper : ∀ name ∈ folder ++ trail, IsName name)
    (led : disk.follow [] (folder ++ trail) = .ok (folder ++ trail)) :
    disk.follow [] folder = .ok folder ∧ ∀ front name back, trail = front ++ name :: back →
      disk.canEnter (folder ++ front) = true := by
  have through {front back : Trail} (parted : folder ++ trail = front ++ back) :
      disk.follow [] front = .ok front ∧ disk.follow front back = .ok (front ++ back) := by
    rw [parted] at led proper
    rw [follow_append] at led
    obtain ⟨there, way, later⟩ := exists_of_bind_eq_ok led
    have goal := eq_of_follow (fun name listed => proper name (List.mem_append_left _ listed)) way
    rw [List.nil_append] at goal
    subst goal
    exact ⟨way, later⟩
  refine ⟨(through rfl).1, ?_⟩
  rintro front name back rfl
  have later := (through (List.append_assoc folder front (name :: back)).symm).2
  rw [follow_cons] at later
  obtain ⟨next, first, _⟩ := exists_of_bind_eq_ok later
  exact ((advance_eq_ok_iff (proper name (by simp))).1 first).1

/-- A listed file below a folder that can be read is one of its stylesheets when the folders on the
way may be listed. -/
theorem mem_stylesheets_of_read (normal : Normal root) (proper : ∀ name ∈ trail, IsName name)
    (listed : isListed skipped trail = true)
    (lists : disk.Lists (names root) trail) {bytes : List UInt8}
    (found : disk.read place (Path.append root (join ['/'] trail)) = .ok bytes) :
    Path.append root (join ['/'] trail) ∈ disk.stylesheets place skipped root := by
  have some := ne_nil_of_isListed listed
  have below := normal.append some proper
  have present := get?_of_read below found
  obtain ⟨checked, led, _⟩ := (read_eq_ok_iff below).1 found
  rw [normal.names_append some proper] at present led
  have names : ∀ name ∈ names root ++ trail, IsName name := by
    intro name held
    rcases List.mem_append.1 held with inside | inside
    · exact normal.2 name inside
    · exact proper name inside
  obtain ⟨top, entered⟩ := of_follow_append names led
  have leads : disk.locate place root = .ok (Path.names root) := by
    rw [locate_eq normal,
      checkPath_of_prefix normal.ne_nil (normal.prefix_append some proper) checked]
    exact top
  have gone : disk.isShown (Path.names root) trail.dropLast = true := by
    have whole := List.dropLast_append_getLast some
    refine (isShown_iff _ _ _).2 ⟨Lists.canList (whole ▸ lists), fun front name back parted => ?_⟩
    have longer : trail = front ++ name :: (back ++ [trail.getLast some]) := by
      conv_lhs => rw [← whole, parted]
      simp
    exact ⟨Lists.canList (longer ▸ lists), entered _ _ _ longer⟩
  rw [stylesheets, leads]
  exact List.mem_map.2
    ⟨trail, (mem_listing_iff disk skipped _ _).2 ⟨hasLeaf_of_get? present, listed, gone⟩, rfl⟩

/-- The stylesheets of a folder are settled by the items of the disk. -/
theorem stylesheets_congr {other : Disk} (same : disk.nodes = other.nodes) (place : Place)
    (skipped : List Text) (root : Text) :
    disk.stylesheets place skipped root = other.stylesheets place skipped root := by
  have shown : disk.isShown = other.isShown := by
    funext folder way
    rw [Bool.eq_iff_iff, isShown_iff, isShown_iff]
    simp only [canList_congr same, canEnter_congr same]
  have listings : ∀ folder, disk.listing skipped folder = other.listing skipped folder := by
    intro folder
    rw [listing, listing, leaves, leaves, same, shown]
  rw [stylesheets, stylesheets, locate_congr same]
  simp only [listings]

/-- The stylesheets of a folder are the listed leaves below it that are shown, by the paths that
lead there. -/
theorem mem_stylesheets_iff (normal : Normal root) {path : Text} :
    path ∈ disk.stylesheets place skipped root ↔
      disk.locate place root = .ok (names root) ∧
        ∃ trail, path = Path.append root (join ['/'] trail) ∧
          disk.HasLeaf (names root ++ trail) ∧ isListed skipped trail = true ∧
          disk.isShown (names root) trail.dropLast = true := by
  constructor
  · intro found
    rw [stylesheets] at found
    split at found
    · simp at found
    · rename_i folder led
      obtain rfl := eq_of_locate normal led
      obtain ⟨trail, listed, rfl⟩ := List.mem_map.1 found
      exact ⟨led, trail, rfl, (mem_listing_iff disk skipped _ trail).1 listed⟩
  · rintro ⟨led, trail, rfl, held⟩
    rw [stylesheets, led]
    exact List.mem_map.2 ⟨trail, (mem_listing_iff disk skipped _ trail).2 held, rfl⟩

namespace Wrote

variable {before after : Disk} {path other : Text} {bytes : List UInt8}

/-- What is shown of a folder is as before when a file was written. -/
theorem isShown_eq (wrote : before.Wrote place path bytes after) (folder way : Trail) :
    after.isShown folder way = before.isShown folder way := by
  rw [Bool.eq_iff_iff, isShown_iff, isShown_iff]
  simp only [canList, canEnter, wrote.access?_eq]

/-- The leaves after a file was written are those from before and that file. -/
theorem hasLeaf_iff (wrote : before.Wrote place path bytes after) (trail : Trail) :
    after.HasLeaf trail ↔ trail = names path ∨ before.HasLeaf trail := by
  rw [HasLeaf, wrote.nodes, fill, set, OrderedMap.get?_insert]
  by_cases same : trail = names path
  · simp [same, Node.isFolder]
  · simp [same, HasLeaf]

/-- The stylesheets of a folder are still those after a file was written. -/
theorem mem_stylesheets (wrote : before.Wrote place path bytes after) (normal : Normal root)
    (found : other ∈ before.stylesheets place skipped root) :
    other ∈ after.stylesheets place skipped root := by
  obtain ⟨led, trail, rfl, held, listed, shown⟩ := (mem_stylesheets_iff normal).1 found
  refine (mem_stylesheets_iff normal).2
    ⟨?_, trail, rfl, (wrote.hasLeaf_iff _).2 (.inr held), listed, ?_⟩
  · rw [locate_congr wrote.nodes]
    exact locate_fill wrote.below wrote.free led
  · rw [wrote.isShown_eq, shown]

/-- The stylesheets of a folder after a file was written are those from before and that file. -/
theorem of_mem_stylesheets (wrote : before.Wrote place path bytes after) (proper : after.Named)
    (normal : Normal root) (found : other ∈ after.stylesheets place skipped root)
    (apart : names other ≠ names path) : other ∈ before.stylesheets place skipped root := by
  obtain ⟨led, trail, rfl, held, listed, shown⟩ := (mem_stylesheets_iff normal).1 found
  have ⟨node, stands, _⟩ := held
  have known : names root ++ trail ∈ after.nodes.keys := OrderedMap.mem_keys_of_get? stands
  rw [normal.names_append (ne_nil_of_isListed listed) fun name inside =>
    proper _ known name (by simp [inside])] at apart
  rw [wrote.isShown_eq] at shown
  have leaf := ((wrote.hasLeaf_iff _).1 held).resolve_left apart
  -- the file that was written can be passed through no further, so it does not stand at the root
  have folder : names root ≠ names path := by
    intro here
    have top : before.hasFolder (names root) = true := by
      cases way : trail.dropLast with
      | nil =>
        rw [way, isShown, canList, Option.any_eq_true] at shown
        obtain ⟨access, stands, _⟩ := shown
        simp [hasFolder, stands]
      | cons first rest =>
        rw [way] at shown
        have first := ((isShown_iff _ _ _).1 shown).2 [] first rest rfl
        rw [List.append_nil] at first
        exact hasFolder_of_canEnter first.2
    rw [here, wrote.free] at top
    exact absurd top (by simp)
  refine (mem_stylesheets_iff normal).2 ⟨?_, trail, rfl, leaf, listed, shown⟩
  rw [locate_congr wrote.nodes, locate_eq normal] at led
  rw [locate_eq normal]
  obtain ⟨_, checked, way⟩ := exists_of_bind_eq_ok led
  rw [checked]
  exact follow_of_fill wrote.below wrote.free way folder

end Wrote

end Restyle.Disk
