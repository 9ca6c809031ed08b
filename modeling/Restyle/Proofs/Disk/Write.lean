import Mathlib.Tactic.SplitIfs
import Restyle.Disk.Basic
import Restyle.Proofs.Disk.Path
import Restyle.Proofs.Except
import Restyle.Proofs.OrderedMap
import Restyle.Proofs.Text.Utf8

/-!
# Writing a file

A path in normal form leads to the trail of its names and nowhere else. Main statements: a write
to such a path is refused and leaves every item as it was, or empties the file at that trail alone
when the text cannot be written, or succeeds and puts the bytes of the text there (`write_cases`);
what was written is read again (`Wrote.readable`), and what is read from another trail is read as
before (`Wrote.read_of_ne`).
-/
namespace Restyle.Disk

open Restyle.Path (IsName Normal names components)

variable {disk : Disk} {place : Place} {path content : Text} {bytes : List UInt8}

/-- Every name on the way to an item is one that a file or folder can have. -/
def Named (disk : Disk) : Prop := ∀ trail ∈ disk.nodes.keys, ∀ name ∈ trail, IsName name

instance (disk : Disk) : Decidable disk.Named := inferInstanceAs (Decidable (∀ _ ∈ _, ∀ _ ∈ _, _))

/-- The top is a folder. -/
@[simp] theorem hasFolder_nil (disk : Disk) : disk.hasFolder [] = true := by
  simp [hasFolder, access?, node?]

/-- A folder that may be entered is one. -/
theorem hasFolder_of_canEnter {trail : Trail} (open_ : disk.canEnter trail = true) :
    disk.hasFolder trail = true := by
  rw [canEnter, Option.any_eq_true] at open_
  obtain ⟨access, stands, _⟩ := open_
  simp [hasFolder, stands]

/-- What stands at a trail after an item was put at one below the top. -/
theorem node?_set (disk : Disk) {goal : Trail} (below : goal ≠ []) (node : Node) (trail : Trail) :
    (disk.set goal node).node? trail = if trail = goal then some node else disk.node? trail := by
  by_cases top : trail = []
  · subst top
    have apart : ([] : Trail) ≠ goal := fun same => below same.symm
    simp [node?, apart]
  · simp [node?, set, top]

/-- What stands at a trail after a file below the top was filled. -/
theorem node?_fill (disk : Disk) {goal : Trail} (below : goal ≠ []) (bytes : List UInt8)
    (trail : Trail) :
    (disk.fill goal bytes).node? trail =
      if trail = goal then some (.file bytes (disk.isReadable goal)) else disk.node? trail :=
  node?_set disk below _ trail

/-- Filling a file leaves which files may be read. -/
@[simp] theorem isReadable_fill (disk : Disk) (goal : Trail) (bytes : List UInt8) (trail : Trail) :
    (disk.fill goal bytes).isReadable trail = disk.isReadable trail := by
  by_cases below : goal = []
  · -- the top is a folder whatever is put there
    subst below
    by_cases top : trail = []
    · subst top
      rfl
    · rw [isReadable, isReadable, node?, node?, if_neg top, if_neg top, fill, set,
        OrderedMap.get?_insert, if_neg top]
  · rw [isReadable, isReadable, node?_fill disk below]
    split_ifs with here
    · subst here
      rfl
    · rfl

/-- A file that is filled twice has the later bytes. -/
theorem fill_fill (disk : Disk) (goal : Trail) (first last : List UInt8) :
    (disk.fill goal first).fill goal last = disk.fill goal last := by
  show (disk.fill goal first).set goal (.file last ((disk.fill goal first).isReadable goal)) = _
  rw [isReadable_fill]
  simp only [fill, set, OrderedMap.insert_insert]

/-- Of two files that are there either may be filled first. -/
theorem fill_comm {one other : Trail} (apart : one ≠ other) (known : one ∈ disk.nodes.keys)
    (known' : other ∈ disk.nodes.keys) (bytes bytes' : List UInt8) :
    (disk.fill one bytes).fill other bytes' = (disk.fill other bytes').fill one bytes := by
  show (disk.fill one bytes).set other (.file bytes' ((disk.fill one bytes).isReadable other)) =
    (disk.fill other bytes').set one (.file bytes ((disk.fill other bytes').isReadable one))
  rw [isReadable_fill, isReadable_fill]
  simp only [fill, set, OrderedMap.insert_comm apart known known']

/-- A trail where no folder stands holds none that something may be done with. -/
theorem access?_eq_none {trail : Trail} (free : disk.hasFolder trail = false) :
    disk.access? trail = none := by
  rw [hasFolder, Option.isSome_eq_false_iff, Option.isNone_iff_eq_none] at free
  exact free

/-- Filling a file leaves the folders as they are. -/
theorem access?_fill {goal : Trail} (below : goal ≠ []) (free : disk.hasFolder goal = false)
    (bytes : List UInt8) (here : Trail) : (disk.fill goal bytes).access? here =
      disk.access? here := by
  by_cases reached : here = goal
  · rw [reached, access?_eq_none free, access?, node?_fill disk below, if_pos rfl]
  · rw [access?, node?_fill disk below, if_neg reached, access?]

/-- A folder stays where a file is filled. -/
theorem hasFolder_fill {goal : Trail} (below : goal ≠ []) (free : disk.hasFolder goal = false)
    (bytes : List UInt8) (here : Trail) :
    (disk.fill goal bytes).hasFolder here = disk.hasFolder here := by
  rw [hasFolder, access?_fill below free, hasFolder]

/-- A folder may be listed as before when a file is filled. -/
theorem canList_fill {goal : Trail} (below : goal ≠ []) (free : disk.hasFolder goal = false)
    (bytes : List UInt8) (here : Trail) :
    (disk.fill goal bytes).canList here = disk.canList here := by
  rw [canList, access?_fill below free, canList]

/-- A folder may be entered as before when a file is filled. -/
theorem canEnter_fill {goal : Trail} (below : goal ≠ []) (free : disk.hasFolder goal = false)
    (bytes : List UInt8) (here : Trail) :
    (disk.fill goal bytes).canEnter here = disk.canEnter here := by
  rw [canEnter, access?_fill below free, canEnter]

/-- A component that leads on from a folder leads on after a file was filled. -/
theorem advance_fill {goal here there : Trail} {step : Text} (below : goal ≠ [])
    (free : disk.hasFolder goal = false) (led : disk.advance here step = .ok there) :
    (disk.fill goal bytes).advance here step = .ok there := by
  have still (present : (disk.node? (here ++ [step])).isSome = true) :
      ((disk.fill goal bytes).node? (here ++ [step])).isSome = true := by
    rw [node?_fill disk below]
    split
    · rfl
    · exact present
  rw [advance] at led ⊢
  rw [hasFolder_fill below free, canEnter_fill below free]
  split_ifs at led ⊢ <;> simp_all

/-- A component leads to nothing but what it led to before a file was filled, or that file. -/
theorem advance_of_fill {goal here there : Trail} {step : Text} (below : goal ≠ [])
    (free : disk.hasFolder goal = false)
    (led : (disk.fill goal bytes).advance here step = .ok there) (apart : there ≠ goal) :
    disk.advance here step = .ok there := by
  have before (past : here ++ [step] ≠ goal)
      (present : ((disk.fill goal bytes).node? (here ++ [step])).isSome = true) :
      (disk.node? (here ++ [step])).isSome = true := by
    rwa [node?_fill disk below, if_neg past] at present
  rw [advance] at led ⊢
  rw [hasFolder_fill below free, canEnter_fill below free] at led
  split_ifs at led ⊢ <;> simp_all

/-- No component stays where it is. -/
@[simp] theorem follow_nil (disk : Disk) (here : Trail) : disk.follow here [] = .ok here := rfl

/-- The first component is followed before the others. -/
theorem follow_cons (disk : Disk) (here : Trail) (step : Text) (rest : List Text) :
    disk.follow here (step :: rest) =
      disk.advance here step >>= fun next => disk.follow next rest :=
  List.foldlM_cons

/-- Nothing is found from where no folder stands. -/
theorem advance_of_not_hasFolder {here : Trail} (bare : disk.hasFolder here = false) (step : Text) :
    disk.advance here step = .error .notAFolder := by
  rw [advance, if_pos (by simp [bare])]

/-- Where components lead to, they still lead after a file was filled. -/
theorem follow_fill {goal here there : Trail} {steps : List Text} (below : goal ≠ [])
    (free : disk.hasFolder goal = false) (led : disk.follow here steps = .ok there) :
    (disk.fill goal bytes).follow here steps = .ok there := by
  induction steps generalizing here with
  | nil => exact led
  | cons step rest ih =>
    rw [follow_cons] at led ⊢
    obtain ⟨next, first, later⟩ := exists_of_bind_eq_ok led
    rw [advance_fill below free first]
    exact ih later

/-- Where components lead to after a file was filled, they led before, unless it is to that file. -/
theorem follow_of_fill {goal here there : Trail} {steps : List Text} (below : goal ≠ [])
    (free : disk.hasFolder goal = false)
    (led : (disk.fill goal bytes).follow here steps = .ok there) (apart : there ≠ goal) :
    disk.follow here steps = .ok there := by
  have closed : (disk.fill goal bytes).hasFolder goal = false := by
    rw [hasFolder_fill below free, free]
  induction steps generalizing here with
  | nil => exact led
  | cons step rest ih =>
    rw [follow_cons] at led ⊢
    obtain ⟨next, first, later⟩ := exists_of_bind_eq_ok led
    -- the file that was filled can be passed through no further
    have past : next ≠ goal := by
      rintro rfl
      cases rest with
      | nil => exact apart (Except.ok.inj later).symm
      | cons name names =>
        rw [follow_cons, advance_of_not_hasFolder closed] at later
        simp [bind, Except.bind] at later
    rw [advance_of_fill below free first past]
    exact ih later

/-- A proper name leads on from a folder that may be entered to what stands there. -/
theorem advance_eq_ok_iff {here there : Trail} {name : Text} (proper : IsName name) :
    disk.advance here name = .ok there ↔
      disk.canEnter here = true ∧ (Utf8.bytes name).length ≤ nameLimit ∧
        (disk.node? (here ++ [name])).isSome = true ∧ there = here ++ [name] := by
  obtain ⟨some, dot, above, _⟩ := proper
  rw [advance, if_neg some, if_neg dot, if_neg above]
  constructor
  · intro led
    split_ifs at led with bare closed long present
    exact ⟨by simpa using closed, by omega, present, (Except.ok.inj led).symm⟩
  · rintro ⟨open_, short, present, rfl⟩
    rw [if_neg (by simp [hasFolder_of_canEnter open_]), if_neg (by simp [open_]),
      if_neg (by omega), if_pos present]

/-- Proper names lead down by themselves. -/
theorem eq_of_follow {here there : Trail} {trail : List Text}
    (proper : ∀ name ∈ trail, IsName name) (led : disk.follow here trail = .ok there) :
    there = here ++ trail := by
  induction trail generalizing here with
  | nil => simpa [eq_comm] using led
  | cons name rest ih =>
    obtain ⟨own, proper⟩ := List.forall_mem_cons.1 proper
    rw [follow_cons] at led
    obtain ⟨next, first, later⟩ := exists_of_bind_eq_ok led
    obtain ⟨_, _, _, rfl⟩ := (advance_eq_ok_iff own).1 first
    rw [ih proper later, List.append_assoc]
    rfl

/-- Empty components lead nowhere else. -/
theorem follow_replicate_append (disk : Disk) (count : Nat) (steps : List Text) :
    disk.follow [] (List.replicate count [] ++ steps) = disk.follow [] steps := by
  induction count with
  | zero => rfl
  | succ count ih =>
    have stays : disk.advance [] [] = .ok [] := by simp [advance]
    rw [List.replicate_succ, List.cons_append, follow_cons, stays]
    exact ih

/-- Following two runs of components is following the one and then the other. -/
theorem follow_append (disk : Disk) (here : Trail) (front back : List Text) :
    disk.follow here (front ++ back) =
      disk.follow here front >>= fun there => disk.follow there back :=
  List.foldlM_append

/-- A path in normal form is followed by its names from the top. -/
theorem locate_eq (normal : Normal path) (disk : Disk) (place : Place) :
    disk.locate place path = checkPath path >>= fun _ => disk.follow [] (names path) := by
  obtain ⟨count, _, parts⟩ := Path.components_eq path normal.2
  rw [← normal.1] at parts
  have start : startOf place path = [] := by
    obtain ⟨rest, whole⟩ := List.head?_eq_some_iff.1 normal.head?_eq
    rw [whole]
    rfl
  rw [locate, start, parts, follow_replicate_append]
  cases checkPath path <;> rfl

/-- A path in normal form leads to the trail of its names. -/
theorem eq_of_locate {trail : Trail} (normal : Normal path)
    (led : disk.locate place path = .ok trail) : trail = names path := by
  rw [locate_eq normal] at led
  obtain ⟨_, _, down⟩ := exists_of_bind_eq_ok led
  simpa using eq_of_follow normal.2 down

/-- A file is read at a path in normal form when it stands at the trail of its names, may be read,
and folders that may be entered lead down to it. -/
theorem read_eq_ok_iff (normal : Normal path) :
    disk.read place path = .ok bytes ↔
      checkPath path = .ok () ∧ disk.follow [] (names path) = .ok (names path) ∧
        disk.node? (names path) = some (.file bytes true) := by
  constructor
  · intro found
    rw [read] at found
    split at found
    · simp at found
    · rename_i trail led
      obtain rfl := eq_of_locate normal led
      rw [locate_eq normal] at led
      obtain ⟨_, checked, down⟩ := exists_of_bind_eq_ok led
      refine ⟨checked, down, ?_⟩
      split at found
      · rename_i held
        split at found
        · rename_i readable
          rw [held, Except.ok.inj found, readable]
        · simp at found
      all_goals simp at found
  · rintro ⟨checked, down, held⟩
    rw [read, locate_eq normal, checked]
    simp only [bind, Except.bind, down, held, if_true]

/-- What is read at a path in normal form are the bytes at the trail of its names. -/
theorem bytes?_of_read (normal : Normal path) (found : disk.read place path = .ok bytes) :
    disk.bytes? (names path) = some bytes := by
  obtain ⟨_, _, held⟩ := (read_eq_ok_iff normal).1 found
  rw [bytes?, held]

/-- A file that was read may be read. -/
theorem isReadable_of_read (normal : Normal path) (found : disk.read place path = .ok bytes) :
    disk.isReadable (names path) = true := by
  obtain ⟨_, _, held⟩ := (read_eq_ok_iff normal).1 found
  rw [isReadable, held]

/-- A new file may be read. -/
theorem isReadable_of_node?_eq_none {trail : Trail} (absent : disk.node? trail = none) :
    disk.isReadable trail = true := by
  rw [isReadable, absent]

/-- A file that can be read is the item of the trail of its names. -/
theorem get?_of_read (normal : Normal path) (found : disk.read place path = .ok bytes) :
    disk.nodes.get? (names path) = some (.file bytes true) := by
  obtain ⟨_, _, held⟩ := (read_eq_ok_iff normal).1 found
  rw [node?] at held
  split at held
  · simp at held
  · exact held

/-- A file that can be read stands at the trail of its names. -/
theorem mem_keys_of_read (normal : Normal path) (found : disk.read place path = .ok bytes) :
    names path ∈ disk.nodes.keys :=
  (OrderedMap.contains_iff _ _).1 (Option.isSome_iff_exists.2 ⟨_, get?_of_read normal found⟩)

/-- What stands at a trail is settled by the items of the disk. -/
theorem node?_congr {first second : Disk} (same : first.nodes = second.nodes) (trail : Trail) :
    first.node? trail = second.node? trail := by
  rw [node?, node?, same]

/-- What may be done with folders is settled by the items of the disk. -/
theorem access?_congr {first second : Disk} (same : first.nodes = second.nodes)
    (trail : Trail) : first.access? trail = second.access? trail := by
  rw [access?, access?, node?_congr same]

/-- Where folders stand is settled by the items of the disk. -/
theorem hasFolder_congr {first second : Disk} (same : first.nodes = second.nodes)
    (trail : Trail) : first.hasFolder trail = second.hasFolder trail := by
  rw [hasFolder, hasFolder, access?_congr same]

/-- Which folders may be listed is settled by the items of the disk. -/
theorem canList_congr {first second : Disk} (same : first.nodes = second.nodes)
    (trail : Trail) : first.canList trail = second.canList trail := by
  rw [canList, canList, access?_congr same]

/-- Which folders may be entered is settled by the items of the disk. -/
theorem canEnter_congr {first second : Disk} (same : first.nodes = second.nodes)
    (trail : Trail) : first.canEnter trail = second.canEnter trail := by
  rw [canEnter, canEnter, access?_congr same]

/-- Where components lead to is settled by the items of the disk. -/
theorem follow_congr {first second : Disk} (same : first.nodes = second.nodes) (here : Trail)
    (steps : List Text) : first.follow here steps = second.follow here steps := by
  have step : first.advance = second.advance := by
    funext here step
    simp only [advance, hasFolder_congr same, canEnter_congr same, node?_congr same]
  rw [follow, follow, step]

/-- Where a path leads to is settled by the items of the disk. -/
theorem locate_congr {first second : Disk} (same : first.nodes = second.nodes) (place : Place)
    (path : Text) : first.locate place path = second.locate place path := by
  simp only [locate, follow_congr same]

/-- Where a write goes is settled by the items of the disk. -/
theorem writeTrail_congr {first second : Disk} (same : first.nodes = second.nodes) (place : Place)
    (path : Text) : first.writeTrail place path = second.writeTrail place path := by
  simp only [writeTrail, follow_congr same, hasFolder_congr same, canEnter_congr same,
    node?_congr same]

/-- What is read at a path is settled by the items of the disk. -/
theorem read_congr {first second : Disk} (same : first.nodes = second.nodes) (place : Place)
    (path : Text) : first.read place path = second.read place path := by
  rw [read, read, locate_congr same]
  simp only [node?_congr same]

/-- Whether a path leads to a folder that may be gone through is settled by the items of the
disk. -/
theorem leadsToOpenFolder_congr {first second : Disk} (same : first.nodes = second.nodes)
    (place : Place) (path : Text) :
    first.leadsToOpenFolder place path = second.leadsToOpenFolder place path := by
  rw [leadsToOpenFolder, leadsToOpenFolder, locate_congr same]
  simp only [canList_congr same, canEnter_congr same]

/-- Filling a file makes the same items of the same items. -/
theorem fill_congr {first second : Disk} (same : first.nodes = second.nodes) (trail : Trail)
    (bytes : List UInt8) : (first.fill trail bytes).nodes = (second.fill trail bytes).nodes := by
  simp only [fill, set, isReadable, node?_congr same, same]

/-- Whether what stands at a trail is a file, if anything does: a file may be written there. -/
def TakesFile (disk : Disk) (trail : Trail) : Prop :=
  ∀ node, disk.node? trail = some node → ∃ bytes readable, node = .file bytes readable

/-- No folder stands where a file may be written. -/
theorem TakesFile.free {trail : Trail} (takes : disk.TakesFile trail) :
    disk.hasFolder trail = false := by
  rw [hasFolder, access?]
  cases held : disk.node? trail with
  | none => rfl
  | some node =>
    obtain ⟨bytes, readable, rfl⟩ := takes node held
    rfl

/-- A write goes where the last component is the name of a file, or of none, in a folder that the
others lead to and that may be entered. -/
theorem writeTrail_eq_ok_iff {trail : Trail} :
    disk.writeTrail place path = .ok trail ↔
      checkPath path = .ok () ∧ ∃ folder name,
        disk.follow (startOf place path) (components path).dropLast = .ok folder ∧
        (components path).getLastD [] = name ∧ disk.canEnter folder = true ∧
        ¬ (name = [] ∨ name = [.char '.'] ∨ name = [.char '.', .char '.']) ∧
        (Utf8.bytes name).length ≤ nameLimit ∧ disk.TakesFile (folder ++ [name]) ∧
        trail = folder ++ [name] := by
  constructor
  · intro led
    rw [writeTrail] at led
    obtain ⟨_, checked, led⟩ := exists_of_bind_eq_ok led
    obtain ⟨folder, way, led⟩ := exists_of_bind_eq_ok led
    simp only at led
    split_ifs at led with bare empty closed dots long
    have proper := not_or.2 ⟨empty, dots⟩
    refine ⟨checked, folder, _, way, rfl, by simpa using closed, proper, by omega, ?_⟩
    split at led
    · simp at led
    · simp at led
    · rename_i noFolder noSpecial
      refine ⟨fun node held => ?_, (Except.ok.inj led).symm⟩
      cases node with
      | folder access => exact absurd held (noFolder access)
      | file bytes readable => exact ⟨bytes, readable, rfl⟩
      | special => exact absurd held noSpecial
  · rintro ⟨checked, folder, name, way, rfl, open_, proper, short, takes, rfl⟩
    obtain ⟨empty, dots⟩ := not_or.1 proper
    simp only [writeTrail, checked, way, bind, Except.bind]
    rw [if_neg (by simp [hasFolder_of_canEnter open_]), if_neg empty, if_neg (by simp [open_]),
      if_neg dots, if_neg (by omega)]
    split
    · rename_i held
      obtain ⟨bytes, readable, other⟩ := takes _ held
      simp at other
    · rename_i held
      obtain ⟨bytes, readable, other⟩ := takes _ held
      simp at other
    · rfl

/-- An absolute path starts at the top. -/
theorem startOf_of_normal (normal : Normal path) : startOf place path = [] := by
  obtain ⟨rest, whole⟩ := List.head?_eq_some_iff.1 normal.head?_eq
  rw [whole]
  rfl

/-- A path in normal form that can be written leads to the trail of its names: a file may be written
there, and folders lead down to it. -/
theorem eq_of_writeTrail {trail : Trail} (normal : Normal path)
    (led : disk.writeTrail place path = .ok trail) :
    trail = names path ∧ trail ≠ [] ∧ disk.TakesFile trail ∧
      checkPath path = .ok () ∧ ∃ folder name, names path = folder ++ [name] ∧
        disk.follow [] folder = .ok folder ∧ disk.canEnter folder = true ∧
        (Utf8.bytes name).length ≤ nameLimit := by
  obtain ⟨checked, there, _, way, rfl, open_, proper, short, takes, rfl⟩ :=
    writeTrail_eq_ok_iff.1 led
  obtain ⟨count, _, parts⟩ := Path.components_eq path normal.2
  rw [← normal.1] at parts
  rcases List.eq_nil_or_concat (names path) with top | ⟨folder, name, shape⟩
  · -- the top has only empty components, and none of them is a name
    refine absurd (.inl ?_) proper
    rw [parts, top, List.append_nil]
    cases count with
    | zero => rfl
    | succ count => simp [List.replicate_succ', List.getLastD_eq_getLast?]
  · rw [List.concat_eq_append] at shape
    have inner : ∀ name ∈ folder, IsName name := fun name listed =>
      normal.2 name (by simp [shape, listed])
    have init : (components path).dropLast = List.replicate count [] ++ folder := by
      rw [parts, shape, ← List.append_assoc, List.dropLast_concat]
    have last : (components path).getLastD [] = name := by
      rw [parts, shape]
      simp [List.getLastD_eq_getLast?]
    rw [init, startOf_of_normal normal, follow_replicate_append] at way
    have down := eq_of_follow inner way
    rw [List.nil_append] at down
    subst down
    rw [last] at short takes ⊢
    exact ⟨shape.symm, by simp, takes, checked, there, name, shape, way, open_, short⟩

/-- A name in a folder that may be entered leads on to what stands there. -/
theorem follow_concat {folder : Trail} {name : Text} (way : disk.follow [] folder = .ok folder)
    (open_ : disk.canEnter folder = true) (proper : IsName name)
    (short : (Utf8.bytes name).length ≤ nameLimit)
    (present : (disk.node? (folder ++ [name])).isSome = true) :
    disk.follow [] (folder ++ [name]) = .ok (folder ++ [name]) := by
  rw [follow_append, way]
  show disk.follow folder [name] = _
  rw [follow_cons, (advance_eq_ok_iff proper).2 ⟨open_, short, present, rfl⟩]
  rfl

/-- A file that was filled where a write goes is read from there if it may be read. -/
theorem read_fill_self {trail : Trail} (normal : Normal path)
    (led : disk.writeTrail place path = .ok trail) (readable : disk.isReadable trail = true) :
    (disk.fill trail bytes).read place path = .ok bytes := by
  obtain ⟨rfl, below, takes, checked, folder, name, shape, way, open_, short⟩ :=
    eq_of_writeTrail normal led
  have still : (disk.fill (names path) bytes).canEnter folder = true := by
    rw [canEnter_fill below takes.free, open_]
  have here : (disk.fill (names path) bytes).node? (names path) =
      Option.some (.file bytes true) := by
    rw [node?_fill disk below, if_pos rfl, readable]
  have present : ((disk.fill (names path) bytes).node? (folder ++ [name])).isSome = true := by
    rw [← shape, here]
    rfl
  have down := follow_concat (follow_fill below takes.free way) still
    (normal.2 name (by simp [shape])) short present
  rw [← shape] at down
  exact (read_eq_ok_iff normal).2 ⟨checked, down, here⟩

/-- A file at a normal path is filled, and nothing else is changed. -/
structure Wrote (before : Disk) (place : Place) (path : Text) (bytes : List UInt8)
    (after : Disk) : Prop where
  /-- The file stands at the names of the path. -/
  nodes : after.nodes = (before.fill (names path) bytes).nodes
  /-- It is not the top. -/
  below : names path ≠ []
  /-- No folder was there. -/
  free : before.hasFolder (names path) = false
  /-- It is read again if it may be read. -/
  readable : before.isReadable (names path) = true → after.read place path = .ok bytes

/-- A file that can be read may be filled anew. -/
theorem wrote_fill {old : List UInt8} (normal : Normal path)
    (found : disk.read place path = .ok old) (bytes : List UInt8) :
    disk.Wrote place path bytes (disk.fill (names path) bytes) := by
  obtain ⟨checked, led, held⟩ := (read_eq_ok_iff normal).1 found
  have below : names path ≠ [] := by
    intro top
    simp [top, node?] at held
  have free : disk.hasFolder (names path) = false := by
    rw [hasFolder, access?, held]
    rfl
  have stands : (disk.fill (names path) bytes).node? (names path) = some (.file bytes true) := by
    rw [node?_fill disk below, if_pos rfl, isReadable_of_read normal found]
  exact ⟨rfl, below, free,
    fun _ => (read_eq_ok_iff normal).2 ⟨checked, follow_fill below free led, stands⟩⟩

/-- What a disk has against a write: a verdict, or that the path leads to no file. -/
def Refuses (disk : Disk) (place : Place) (path : Text) : WriteFault → Prop
  | .refused refusal => some refusal ∈ disk.verdicts
  | .path fault => disk.writeTrail place path = .error fault
  | .surrogates _ => False

/-- A disk without verdicts has nothing against a write to a path that leads to a file. -/
theorem not_refuses {trail : Trail} (accepting : disk.verdicts = [])
    (way : disk.writeTrail place path = .ok trail) (fault : WriteFault) :
    ¬ disk.Refuses place path fault := by
  cases fault with
  | refused refusal =>
    intro listed
    rw [Refuses, accepting] at listed
    simp at listed
  | path fault =>
    intro astray
    rw [Refuses, way] at astray
    simp at astray
  | surrogates refused => exact id

/-- A file that is filled where a write to a path in normal form goes is written there. -/
theorem wrote_judged {trail : Trail} (normal : Normal path)
    (led : disk.writeTrail place path = .ok trail) (bytes : List UInt8) :
    disk.Wrote place path bytes
      ({ disk with verdicts := disk.verdicts.drop 1 }.fill trail bytes) := by
  obtain ⟨rfl, below, takes, _⟩ := eq_of_writeTrail normal led
  refine ⟨rfl, below, takes.free, fun readable => ?_⟩
  let judged : Disk := { disk with verdicts := disk.verdicts.drop 1 }
  have same : (judged.fill (names path) bytes).nodes = (disk.fill (names path) bytes).nodes := rfl
  rw [read_congr same, read_fill_self normal led readable]

/-- A write to a path in normal form is refused and leaves every item, or empties the file there
because the text cannot be written, or puts the text there. -/
theorem write_cases (normal : Normal path) (disk : Disk) (place : Place) (content : Text) :
    (∃ fault, (disk.write place path content).1 = .error fault ∧ disk.Refuses place path fault ∧
      (disk.write place path content).2.nodes = disk.nodes) ∨
    (∃ refused, Utf8.encode content = .error refused ∧
      (disk.write place path content).1 = .error (.surrogates refused) ∧
      disk.Wrote place path [] (disk.write place path content).2) ∨
    (Utf8.Writable content ∧ (disk.write place path content).1 = .ok () ∧
      disk.Wrote place path (Utf8.bytes content) (disk.write place path content).2) := by
  rw [write]
  split
  · rename_i refusal judged
    have listed : some refusal ∈ disk.verdicts := by
      rw [Option.join_eq_some_iff] at judged
      exact List.mem_of_mem_head? judged
    exact .inl ⟨_, rfl, listed, rfl⟩
  · split
    · rename_i fault astray
      exact .inl ⟨_, rfl, astray, rfl⟩
    · rename_i trail led
      cases encoded : Utf8.encode content with
      | error refused => exact .inr (.inl ⟨refused, rfl, rfl, wrote_judged normal led []⟩)
      | ok bytes =>
        obtain ⟨writable, rfl⟩ := Utf8.encode_eq_ok_iff.1 encoded
        exact .inr (.inr ⟨writable, rfl, wrote_judged normal led _⟩)

/-- A file that is written where a path led nowhere was not there before. -/
theorem node?_eq_none_of_write (normal : Normal path)
    (nowhere : disk.leadsSomewhere place path = false)
    (done : (disk.write place path content).1 = .ok ()) : disk.node? (names path) = none := by
  rw [write] at done
  split at done
  · simp at done
  · split at done
    · simp at done
    · rename_i trail led
      obtain ⟨rfl, below, takes, checked, folder, name, shape, way, open_, short⟩ :=
        eq_of_writeTrail normal led
      by_contra present
      rw [← ne_eq, Option.ne_none_iff_isSome, shape] at present
      have down : disk.locate place path = .ok (folder ++ [name]) := by
        rw [locate_eq normal, checked, shape]
        exact follow_concat way open_ (normal.2 name (by simp [shape])) short present
      rw [leadsSomewhere, down] at nowhere
      simp [Except.isOk, Except.toBool] at nowhere

/-- What can be written can be written after a file was filled. -/
theorem writeTrail_fill {goal trail : Trail} (below : goal ≠ [])
    (free : disk.hasFolder goal = false) (led : disk.writeTrail place path = .ok trail) :
    (disk.fill goal bytes).writeTrail place path = .ok trail := by
  obtain ⟨checked, folder, name, way, last, open_, proper, short, takes, rfl⟩ :=
    writeTrail_eq_ok_iff.1 led
  have still : (disk.fill goal bytes).TakesFile (folder ++ [name]) := by
    intro node held
    rw [node?_fill disk below] at held
    split at held
    · exact ⟨_, _, (Option.some.inj held).symm⟩
    · exact takes node held
  exact writeTrail_eq_ok_iff.2 ⟨checked, folder, name, follow_fill below free way, last,
    (canEnter_fill below free _ _).trans open_, proper, short, still, rfl⟩

/-- A file that was filled where a write goes can be written again. -/
theorem writeTrail_fill_self {trail : Trail} (normal : Normal path)
    (led : disk.writeTrail place path = .ok trail) :
    (disk.fill trail bytes).writeTrail place path = .ok trail := by
  obtain ⟨_, below, takes, _⟩ := eq_of_writeTrail normal led
  exact writeTrail_fill below takes.free led

/-- A file that can be read can be written. -/
theorem writeTrail_of_read (normal : Normal path) (found : disk.read place path = .ok bytes) :
    disk.writeTrail place path = .ok (names path) := by
  obtain ⟨checked, led, held⟩ := (read_eq_ok_iff normal).1 found
  rcases List.eq_nil_or_concat (names path) with top | ⟨folder, name, shape⟩
  · simp [top, node?] at held
  · rw [List.concat_eq_append] at shape
    have inner : ∀ name ∈ folder, IsName name := fun name listed =>
      normal.2 name (by simp [shape, listed])
    have proper : IsName name := normal.2 name (by simp [shape])
    have ⟨given, dot, above, _⟩ := proper
    rw [shape, follow_append] at led
    obtain ⟨there, way, last⟩ := exists_of_bind_eq_ok led
    obtain rfl : there = folder := by simpa using eq_of_follow inner way
    rw [follow_cons] at last
    obtain ⟨next, last, _⟩ := exists_of_bind_eq_ok last
    obtain ⟨open_, short, _, _⟩ := (advance_eq_ok_iff proper).1 last
    obtain ⟨count, _, parts⟩ := Path.components_eq path normal.2
    rw [← normal.1, shape, ← List.append_assoc] at parts
    refine writeTrail_eq_ok_iff.2 ⟨checked, there, name, ?_, ?_, open_, ?_, short, ?_, shape⟩
    · rw [startOf_of_normal normal, parts, List.dropLast_concat, follow_replicate_append]
      exact way
    · simp [parts, List.getLastD_eq_getLast?]
    · simp [given, dot, above]
    · intro node stands
      rw [← shape, held, Option.some.injEq] at stands
      exact ⟨_, _, stands.symm⟩

/-- Where a path leads to, it still leads after a file was filled. -/
theorem locate_fill {goal there : Trail} (below : goal ≠ []) (free : disk.hasFolder goal = false)
    (led : disk.locate place path = .ok there) :
    (disk.fill goal bytes).locate place path = .ok there := by
  rw [locate] at led ⊢
  split at led
  · simp at led
  · exact follow_fill below free led

/-- A path to a folder that may be gone through is one after a file was filled. -/
theorem leadsToOpenFolder_fill {goal : Trail} (below : goal ≠ [])
    (free : disk.hasFolder goal = false) (led : disk.leadsToOpenFolder place path = true) :
    (disk.fill goal bytes).leadsToOpenFolder place path = true := by
  rw [leadsToOpenFolder] at led ⊢
  split at led
  · simp at led
  · rename_i found
    simp only [locate_fill below free found, canList_fill below free, canEnter_fill below free, led]

/-- A folder that may be gone through is one. -/
theorem leadsToFolder_of_leadsToOpenFolder (led : disk.leadsToOpenFolder place path = true) :
    disk.leadsToFolder place path = true := by
  rw [leadsToOpenFolder] at led
  rw [leadsToFolder]
  split at led
  · simp at led
  · rw [Bool.and_eq_true] at led
    exact hasFolder_of_canEnter led.2

/-- Where a path in normal form leads to a folder that may be gone through, its names do. -/
theorem canList_of_leadsToOpenFolder (normal : Normal path)
    (led : disk.leadsToOpenFolder place path = true) : disk.canList (names path) = true := by
  rw [leadsToOpenFolder] at led
  split at led
  · simp at led
  · rename_i trail found
    obtain rfl := eq_of_locate normal found
    rw [Bool.and_eq_true] at led
    exact led.1

/-- A path to a folder leads somewhere. -/
theorem leadsSomewhere_of_leadsToFolder (led : disk.leadsToFolder place path = true) :
    disk.leadsSomewhere place path = true := by
  rw [leadsToFolder] at led
  split at led
  · simp at led
  · rename_i found
    rw [leadsSomewhere, found]
    rfl

/-- After a write that went through, only a verdict is against another write of the file. -/
theorem exists_verdict_of_refuses {fault : WriteFault} (normal : Normal path)
    (done : (disk.write place path content).1 = .ok ())
    (refuses : (disk.write place path content).2.Refuses place path fault) :
    ∃ refusal, fault = .refused refusal ∧ some refusal ∈ disk.verdicts := by
  rw [write] at done refuses
  split at done
  · simp at done
  · rename_i accepted
    simp only [accepted] at refuses
    split at done
    · simp at done
    · rename_i trail led
      simp only [led] at done refuses
      cases encoded : Utf8.encode content with
      | error refused => simp [encoded] at done
      | ok bytes =>
      simp only [encoded] at refuses
      cases fault with
      | refused refusal => exact ⟨refusal, rfl, List.mem_of_mem_drop refuses⟩
      | surrogates refused => exact refuses.elim
      | path fault =>
        have again : (disk.fill trail bytes).writeTrail place path = .ok trail :=
          writeTrail_fill_self normal led
        have same : (disk.fill trail bytes).nodes =
          ({ disk with verdicts := disk.verdicts.drop 1 }.fill trail bytes).nodes := rfl
        rw [writeTrail_congr same] at again
        rw [Refuses, again] at refuses
        simp at refuses

namespace Wrote

variable {before after : Disk}

/-- What stands at a trail after a file was written. -/
theorem node?_eq (wrote : before.Wrote place path bytes after) (trail : Trail) :
    after.node? trail =
      if trail = names path then some (.file bytes (before.isReadable (names path)))
      else before.node? trail := by
  rw [node?_congr wrote.nodes, node?_fill before wrote.below]

/-- The bytes of the file that was written are those that were given. -/
theorem bytes?_self (wrote : before.Wrote place path bytes after) :
    after.bytes? (names path) = some bytes := by
  rw [bytes?, wrote.node?_eq, if_pos rfl]

/-- A file that is given the bytes that it has stays as it is. -/
theorem nodes_eq_of_bytes? (wrote : before.Wrote place path bytes after)
    (same : before.bytes? (names path) = some bytes) : after.nodes = before.nodes := by
  rw [bytes?] at same
  split at same
  · rename_i readable held
    obtain rfl := Option.some.inj same
    rw [wrote.nodes, fill, isReadable, held]
    rw [node?, if_neg wrote.below] at held
    exact OrderedMap.insert_self held
  · simp at same

/-- The folders are those that were there before a file was written. -/
theorem access?_eq (wrote : before.Wrote place path bytes after) (trail : Trail) :
    after.access? trail = before.access? trail := by
  rw [access?_congr wrote.nodes, access?_fill wrote.below wrote.free]

/-- A write closes no folder. -/
theorem leadsToOpenFolder (wrote : before.Wrote place path bytes after) {folder : Text}
    (led : before.leadsToOpenFolder place folder = true) :
    after.leadsToOpenFolder place folder = true := by
  rw [leadsToOpenFolder_congr wrote.nodes]
  exact leadsToOpenFolder_fill wrote.below wrote.free led

/-- A file that was read is still read: with the bytes that were written if it is the one that they
were written to. -/
theorem read_eq (wrote : before.Wrote place path bytes after) {other : Text} {old : List UInt8}
    (normal : Normal other) (found : before.read place other = .ok old) :
    after.read place other = .ok (if names other = names path then bytes else old) := by
  obtain ⟨checked, led, held⟩ := (read_eq_ok_iff normal).1 found
  refine (read_congr wrote.nodes place other).trans ((read_eq_ok_iff normal).2
    ⟨checked, follow_fill wrote.below wrote.free led, ?_⟩)
  rw [node?_fill before wrote.below]
  split
  · rename_i same
    rw [← same, isReadable_of_read normal found]
  · exact held

/-- What was read from another trail is still read. -/
theorem read_of_ne (wrote : before.Wrote place path bytes after) {other : Text}
    {old : List UInt8} (normal : Normal other) (apart : names other ≠ names path)
    (found : before.read place other = .ok old) : after.read place other = .ok old := by
  rw [wrote.read_eq normal found, if_neg apart]

/-- What is read from another trail is what was read there before. -/
theorem read_iff_of_ne (wrote : before.Wrote place path bytes after) {other : Text}
    {known : List UInt8} (normal : Normal other) (apart : names other ≠ names path) :
    after.read place other = .ok known ↔ before.read place other = .ok known := by
  refine ⟨fun found => ?_, wrote.read_of_ne normal apart⟩
  obtain ⟨checked, led, held⟩ := (read_eq_ok_iff normal).1 found
  rw [follow_congr wrote.nodes] at led
  rw [wrote.node?_eq, if_neg apart] at held
  exact (read_eq_ok_iff normal).2
    ⟨checked, follow_of_fill wrote.below wrote.free led apart, held⟩

/-- A file at a normal path has proper names on its way. -/
theorem named (wrote : before.Wrote place path bytes after) (normal : Normal path)
    (proper : before.Named) : after.Named := by
  intro trail held name listed
  rw [wrote.nodes, fill, set, OrderedMap.keys_insert] at held
  split at held
  · exact proper trail held name listed
  · rcases List.mem_append.1 held with held | held
    · exact proper trail held name listed
    · rw [List.mem_singleton] at held
      exact normal.2 name (held ▸ listed)

end Wrote

end Restyle.Disk
