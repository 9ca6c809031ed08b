import Mathlib.Data.List.Induction
import Restyle.Proofs.Disk.Listing

/-!
# Folder trees

In a tree every item stands in a folder and its path is one that can be opened. Main statements: a
file of a tree is read at every path to it when it may be read and the folders on the way may be
entered (`IsTree.read_eq_ok_iff`), and going through a folder that is reached shows its stylesheets,
whether it is there or not (`IsTree.stylesheets_eq`).
-/
namespace Restyle.Disk

open Restyle.Path (Normal names leading)
open Text (join)

variable {disk : Disk} {place : Place} {skipped : List Text} {root path : Text}

/-- A disk whose items are reached from its top: each has proper names that are not too long, stands
in a folder, and has a path that is not too long, with one separator at its front or with two. -/
structure IsTree (disk : Disk) : Prop where
  /-- All names are proper. -/
  named : disk.Named
  /-- No name is too long. -/
  short : ∀ trail ∈ disk.nodes.keys, ∀ name ∈ trail, (Utf8.bytes name).length ≤ nameLimit
  /-- Every item stands in a folder. -/
  inside : ∀ trail ∈ disk.nodes.keys, disk.hasFolder trail.dropLast = true
  /-- Every path can be one. -/
  fits : ∀ trail ∈ disk.nodes.keys, ∀ front ∈ [[.char '/'], [.char '/', .char '/']],
    (checkPath (front ++ join ['/'] trail)).isOk = true

instance (disk : Disk) : Decidable disk.IsTree :=
  decidable_of_iff (disk.Named ∧
    (∀ trail ∈ disk.nodes.keys, ∀ name ∈ trail, (Utf8.bytes name).length ≤ nameLimit) ∧
    (∀ trail ∈ disk.nodes.keys, disk.hasFolder trail.dropLast = true) ∧
    ∀ trail ∈ disk.nodes.keys, ∀ front ∈ [[.char '/'], [.char '/', .char '/']],
      (checkPath (front ++ join ['/'] trail)).isOk = true)
    ⟨fun ⟨named, short, inside, fits⟩ => ⟨named, short, inside, fits⟩,
      fun tree => ⟨tree.named, tree.short, tree.inside, tree.fits⟩⟩

/-- Whether every folder on the way down to a trail may be entered. -/
def Reached (disk : Disk) (trail : Trail) : Prop :=
  ∀ depth < trail.length, disk.canEnter (trail.take depth) = true

instance (disk : Disk) (trail : Trail) : Decidable (disk.Reached trail) :=
  inferInstanceAs (Decidable (∀ depth < _, _ = _))

/-- A trail leads from a folder down to a stylesheet: something that has the name of one and is no
folder. It leads through no folder that is passed by, and through such alone as may be listed, and
entered where there are others below. -/
inductive Shows (disk : Disk) (skipped : List Text) (folder : Trail) : Trail → Prop where
  /-- The folders on the way, and the item with its name. -/
  | intro (way : List Text) (name : Text) (node : Node)
    (held : disk.node? (folder ++ (way ++ [name])) = some node) (leaf : node.isFolder = false)
    (sheet : name.endsWith ".css".toText = true) (clear : ∀ passed ∈ way, passed ∉ skipped)
    (listable : disk.canList (folder ++ way) = true)
    (open_ : ∀ front passed back, way = front ++ passed :: back →
      disk.canList (folder ++ front) = true ∧ disk.canEnter (folder ++ front) = true) :
    Shows disk skipped folder (way ++ [name])

/-- A name below the last one on a way is reached when the way is and its end may be entered. -/
theorem reached_concat {front : Trail} {name : Text} :
    disk.Reached (front ++ [name]) ↔ disk.Reached front ∧ disk.canEnter front = true := by
  constructor
  · intro reached
    refine ⟨fun depth short => ?_, ?_⟩
    · have step := reached depth (by rw [List.length_append]; omega)
      rwa [List.take_append_of_le_length (by omega)] at step
    · have step := reached front.length (by simp)
      rwa [List.take_append_of_le_length (by omega), List.take_length] at step
  · rintro ⟨reached, open_⟩ depth short
    rw [List.length_append, List.length_singleton] at short
    by_cases whole : depth = front.length
    · rw [List.take_append_of_le_length (by omega), whole, List.take_length, open_]
    · rw [List.take_append_of_le_length (by omega), reached depth (by omega)]

/-- A trail that components lead to is reached. -/
theorem reached_of_follow {trail : Trail} (proper : ∀ name ∈ trail, Path.IsName name)
    (led : disk.follow [] trail = .ok trail) : disk.Reached trail := by
  intro depth short
  have parted : trail = trail.take depth ++ trail[depth] :: trail.drop (depth + 1) := by
    rw [← List.drop_eq_getElem_cons short, List.take_append_drop]
  have named : ∀ name ∈ [] ++ trail, Path.IsName name := by simpa using proper
  exact (of_follow_append named led).2 _ _ _ parted

/-- What stands at a trail below the top is an item. -/
theorem mem_keys_of_node? {trail : Trail} (below : trail ≠ [])
    (held : (disk.node? trail).isSome = true) : trail ∈ disk.nodes.keys := by
  rw [node?, if_neg below] at held
  exact (OrderedMap.contains_iff _ _).1 held

/-- A trail is listed exactly when it leads down to a stylesheet that is shown. -/
theorem mem_listing_iff_shows (disk : Disk) (skipped : List Text) (folder trail : Trail) :
    trail ∈ disk.listing skipped folder ↔ disk.Shows skipped folder trail := by
  have items : ∀ front : Trail, ∀ name,
      disk.nodes.get? (folder ++ (front ++ [name])) = disk.node? (folder ++ (front ++ [name])) := by
    intro front name
    rw [node?, if_neg (by simp)]
  rw [mem_listing_iff, isShown_iff]
  constructor
  · rintro ⟨⟨node, held, leaf⟩, listed, listable, open_⟩
    have some := ne_nil_of_isListed listed
    rw [← List.dropLast_append_getLast some] at held listed ⊢
    rw [isListed, List.getLastD_concat, List.dropLast_concat, Bool.and_eq_true,
      Bool.not_eq_true', List.any_eq_false] at listed
    refine .intro _ _ node (items _ _ ▸ held) leaf listed.1 (fun passed inside => ?_) listable open_
    simpa using listed.2 passed inside
  · rintro ⟨way, name, node, held, leaf, sheet, clear, listable, open_⟩
    rw [List.dropLast_concat]
    refine ⟨⟨node, (items _ _).trans held, leaf⟩, ?_, listable, open_⟩
    rw [isListed, List.getLastD_concat, List.dropLast_concat, Bool.and_eq_true,
      Bool.not_eq_true', List.any_eq_false]
    exact ⟨sheet, fun passed inside => by simpa using clear passed inside⟩

namespace IsTree

/-- In a tree what an item stands below is there. -/
theorem isSome_of_append (tree : disk.IsTree) {front back : Trail}
    (held : (disk.node? (front ++ back)).isSome = true) : (disk.node? front).isSome = true := by
  induction back using List.reverseRecOn with
  | nil => simpa using held
  | append_singleton back name ih =>
    have item := mem_keys_of_node? (by simp) held
    have folder := tree.inside _ item
    rw [← List.append_assoc, List.dropLast_concat, hasFolder, access?] at folder
    refine ih ?_
    split at folder
    · rename_i stands
      rw [stands]
      rfl
    · simp at folder

/-- In a tree what stands at a trail is reached by following it from the top, if every folder on the
way may be entered. -/
theorem follow_eq (tree : disk.IsTree) {trail : Trail} (held : (disk.node? trail).isSome = true)
    (reached : disk.Reached trail) : disk.follow [] trail = .ok trail := by
  -- the folder of an item is an item as well, so the way to it is there by induction
  induction trail using List.reverseRecOn with
  | nil => rfl
  | append_singleton front name ih =>
    have item : front ++ [name] ∈ disk.nodes.keys := mem_keys_of_node? (by simp) held
    obtain ⟨above, open_⟩ := reached_concat.1 reached
    exact follow_concat (ih (tree.isSome_of_append held) above) open_
      (tree.named _ item name (by simp)) (tree.short _ item name (by simp)) held

/-- In a tree every path to an item can be one. -/
theorem checkPath_eq (tree : disk.IsTree) (normal : Normal path)
    (held : names path ∈ disk.nodes.keys) : checkPath path = .ok () := by
  have fits := tree.fits _ held (leading path) (by simpa using Path.leading_eq path)
  rw [← normal.1] at fits
  cases checked : checkPath path with
  | error fault => simp [checked, Except.isOk, Except.toBool] at fits
  | ok _ => rfl

/-- In a tree a file that may be read is read at every path to it, if every folder on the way may be
entered. -/
theorem read_eq_ok_iff (tree : disk.IsTree) (normal : Normal path) {bytes : List UInt8} :
    disk.read place path = .ok bytes ↔
      disk.node? (names path) = some (.file bytes true) ∧ disk.Reached (names path) := by
  constructor
  · intro found
    obtain ⟨_, led, held⟩ := (Disk.read_eq_ok_iff normal).1 found
    exact ⟨held, reached_of_follow normal.2 led⟩
  · rintro ⟨held, reached⟩
    have below : names path ≠ [] := by
      intro top
      simp [top, node?] at held
    have item : names path ∈ disk.nodes.keys := mem_keys_of_node? below (by simp [held])
    exact (Disk.read_eq_ok_iff normal).2
      ⟨tree.checkPath_eq normal item, tree.follow_eq (by simp [held]) reached, held⟩

/-- A folder of a tree that shows a stylesheet is there, and its path leads to it. -/
theorem locate_of_mem_listing (tree : disk.IsTree) (normal : Normal root) (place : Place)
    {trail : Trail} (reached : disk.Reached (names root))
    (listed : trail ∈ disk.listing skipped (names root)) :
    disk.locate place root = .ok (names root) := by
  obtain ⟨some, proper⟩ := isName_of_mem_listing tree.named listed
  obtain ⟨⟨node, held, _⟩, _⟩ := (mem_listing_iff disk skipped _ trail).1 listed
  have item : names root ++ trail ∈ disk.nodes.keys := OrderedMap.mem_keys_of_get? held
  have below : (disk.node? (names root ++ trail)).isSome = true := by
    rw [node?, if_neg (by simp [some]), held]
    rfl
  have stands : (disk.node? (names root)).isSome = true := tree.isSome_of_append below
  have whole : checkPath (Path.append root (join ['/'] trail)) = .ok () :=
    tree.checkPath_eq (normal.append some proper) (by rwa [normal.names_append some proper])
  rw [locate_eq normal, checkPath_of_prefix normal.ne_nil (normal.prefix_append some proper) whole]
  exact tree.follow_eq stands reached

/-- In a tree going through a folder that is reached shows its stylesheets: none where no folder
is. -/
theorem stylesheets_eq (tree : disk.IsTree) (normal : Normal root) (place : Place)
    (skipped : List Text) (reached : disk.Reached (names root)) :
    disk.stylesheets place skipped root =
      (disk.listing skipped (names root)).map fun trail =>
        Path.append root (join ['/'] trail) := by
  cases listing : disk.listing skipped (names root) with
  | nil =>
    rw [stylesheets]
    split
    · rfl
    · rename_i folder led
      obtain rfl := eq_of_locate normal led
      simp [listing]
  | cons trail rest =>
    have shown : trail ∈ disk.listing skipped (names root) := by
      rw [listing]
      exact List.mem_cons_self
    rw [stylesheets, tree.locate_of_mem_listing normal place reached shown]
    simp only [listing]

end IsTree

/-- A folder that is not reached shows nothing. -/
theorem stylesheets_eq_nil (normal : Normal root) (place : Place) (skipped : List Text)
    (closed : ¬ disk.Reached (names root)) : disk.stylesheets place skipped root = [] := by
  rw [stylesheets]
  split
  · rfl
  · rename_i folder led
    obtain rfl := eq_of_locate normal led
    rw [locate_eq normal] at led
    obtain ⟨_, _, way⟩ := exists_of_bind_eq_ok led
    exact absurd (reached_of_follow normal.2 way) closed

end Restyle.Disk
