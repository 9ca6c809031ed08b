import Restyle.Patch
import Restyle.Proofs.Index

/-!
# What a patch does to a workspace

A write leaves the index and every item of the disk as they were, or changes one file and then its
entry. The entry alone stays when the file is not read again, and when the text cannot be written:
then the file is left empty. Main statements: `replaces`, for one write; `updates`, for a rule that
is rewritten; `creates`, for a rule that is appended, where a stylesheet without rules is left
behind when only the first of two writes goes through.
-/
namespace Restyle

/-- A rule says the same as itself. -/
theorem Rule.same_self (rule : Rule) : rule.same rule = true := by
  simp [Rule.same, rule.properties.agrees_self]

namespace Workspace

open Restyle.Path (IsName Normal names)

variable {before middle after : Workspace} {path content selector root : Text} {changes : Changes}

/-- The stylesheet that is made for a root without one. -/
def newFile (workspace : Workspace) (root : Text) : Text :=
  Path.append (Path.absolute workspace.index.place root) newFileName

/-- The text that an appended rule adds to its file. -/
def appendix (selector : Text) (changes : Changes) : Text :=
  .char '\n' :: .char '\n' :: Rule.write selector (changes.applyTo .empty)

/-- A workspace with current entries only, on a disk whose names are proper. -/
structure Sound (workspace : Workspace) : Prop where
  /-- Names on the disk are proper. -/
  named : workspace.disk.Named
  /-- Every entry is what reading its file gives. -/
  current : workspace.index.Current workspace.disk

/-- Neither the index nor any item of the disk differs. -/
structure Untouched (before after : Workspace) : Prop where
  /-- The index is the same. -/
  index : after.index = before.index
  /-- The items are the same. -/
  nodes : after.disk.nodes = before.disk.nodes

/-- The file at a path has a new text; all else is the same. -/
structure Filed (before : Workspace) (path content : Text) (after : Workspace) : Prop where
  /-- The index is the same. -/
  index : after.index = before.index
  /-- The text can be written. -/
  writable : Utf8.Writable content
  /-- The file has the bytes of the text. -/
  disk : before.disk.Wrote before.index.place path (Utf8.bytes content) after.disk

/-- The file at a path, and the entry of that path, have a new text; all else is the same. -/
structure Wrote (before : Workspace) (path content : Text) (after : Workspace) : Prop where
  /-- The entry has the text and its rules. -/
  index : ∃ rules, before.index.parse content = .ok rules ∧
    after.index = before.index.store ⟨path, content, rules⟩
  /-- The text can be written. -/
  writable : Utf8.Writable content
  /-- The file may be read, or is a new one. -/
  open_ : before.disk.isReadable (names path) = true
  /-- The file has the bytes of the text. -/
  disk : before.disk.Wrote before.index.place path (Utf8.bytes content) after.disk

/-- The file at a path is empty, because the text that was to be put there cannot be written; all
else is the same. -/
structure Emptied (before : Workspace) (path content : Text) (after : Workspace) : Prop where
  /-- The index is the same. -/
  index : after.index = before.index
  /-- The text cannot be written. -/
  surrogates : ¬ Utf8.Writable content
  /-- The file has no bytes. -/
  disk : before.disk.Wrote before.index.place path [] after.disk

/-- Why a file that was written is not read into the index again. -/
inductive Unread (before : Workspace) (path content : Text) : SkipFault → Prop where
  /-- No rules are read from its text. -/
  | unruly (detail : Text) (failed : before.index.parse content = .error detail) :
    Unread before path content (.unparsable path detail)
  /-- It may not be read. -/
  | closed (fault : SkipFault) (closed : before.disk.isReadable (names path) = false) :
    Unread before path content fault

/-- A file that was written leaves the place and the reader of an index. -/
theorem Wrote.place_parse (wrote : Wrote before path content after) :
    after.index.place = before.index.place ∧ after.index.parse = before.index.parse := by
  obtain ⟨rules, _, index⟩ := wrote.index
  rw [index]
  exact ⟨rfl, rfl⟩

/-- A file that was written is read. -/
theorem Wrote.read (wrote : Wrote before path content after) :
    after.disk.read before.index.place path = .ok (Utf8.bytes content) :=
  wrote.disk.readable wrote.open_

/-- What overwriting a file comes to. -/
inductive Overwrites (before : Workspace) (path content : Text) :
    Except Fault Unit × Workspace → Prop where
  /-- The disk refuses the write. -/
  | refused (fault : WriteFault) (after : Workspace) (same : Untouched before after)
    (refuses : before.disk.Refuses before.index.place path fault) :
    Overwrites before path content (.error (.writeFailed path fault), after)
  /-- The text cannot be written, and the file is left empty. -/
  | emptied (refused : Utf8.Surrogates) (after : Workspace)
    (emptied : Emptied before path content after) :
    Overwrites before path content (.error (.writeFailed path (.surrogates refused)), after)
  /-- The disk has the file, which is a new one where the path led nowhere, and has nothing but a
  verdict against writing it again. -/
  | written (after : Workspace) (filed : Filed before path content after)
    (fresh : before.disk.leadsSomewhere before.index.place path = false →
      before.disk.node? (names path) = none)
    (again : ∀ fault, after.disk.Refuses before.index.place path fault →
      ∃ refusal, fault = .refused refusal ∧ some refusal ∈ before.disk.verdicts) :
    Overwrites before path content (.ok (), after)

/-- What reading a file again comes to after a write that left a disk. -/
inductive Refreshes (before : Workspace) (path content : Text) (disk : Disk) :
    Except Fault Unit × Workspace → Prop where
  /-- The file is not read again, and the entry stays. -/
  | unread (fault : SkipFault) (after : Workspace) (same : after.disk = disk)
    (filed : Filed before path content after) (unread : Unread before path content fault) :
    Refreshes before path content disk (.error (.skipped fault), after)
  /-- The entry is new as the file is. -/
  | written (after : Workspace) (same : after.disk = disk)
    (wrote : Wrote before path content after) :
    Refreshes before path content disk (.ok (), after)

/-- What replacing a file comes to. -/
inductive Replaces (before : Workspace) (path content : Text) :
    Except Fault Unit × Workspace → Prop where
  /-- The disk refuses the write. -/
  | refused (fault : WriteFault) (after : Workspace) (same : Untouched before after)
    (refuses : before.disk.Refuses before.index.place path fault) :
    Replaces before path content (.error (.writeFailed path fault), after)
  /-- The text cannot be written, and the file is left empty. -/
  | emptied (refused : Utf8.Surrogates) (after : Workspace)
    (emptied : Emptied before path content after) :
    Replaces before path content (.error (.writeFailed path (.surrogates refused)), after)
  /-- The file is new. -/
  | refreshed (disk : Disk) (result : Except Fault Unit × Workspace)
    (step : Refreshes before path content disk result) : Replaces before path content result

/-- Overwriting a file at a path in normal form changes nothing, or empties it because the text
cannot be written, or writes it. -/
theorem overwrites (normal : Normal path) (workspace : Workspace) (content : Text) :
    Overwrites workspace path content (workspace.overwrite path content) := by
  rw [overwrite]
  rcases Disk.write_cases normal workspace.disk workspace.index.place content with
    ⟨fault, failed, refuses, same⟩ | ⟨refused, failed, done, wrote⟩ | ⟨writable, done, wrote⟩
  · simp only [failed, Except.mapError]
    exact .refused _ _ ⟨rfl, same⟩ refuses
  · have surrogates : ¬ Utf8.Writable content := fun writable => by
      simp [Utf8.encode_eq writable] at failed
    simp only [done, Except.mapError]
    exact .emptied _ _ ⟨rfl, surrogates, wrote⟩
  · simp only [done, Except.mapError]
    exact .written _ ⟨rfl, writable, wrote⟩
      (fun nowhere => Disk.node?_eq_none_of_write normal nowhere done)
      (fun fault refuses => Disk.exists_verdict_of_refuses normal done refuses)

/-- Reading a file into the index fails when it gives no entry. -/
theorem refresh_eq_error (normal : Normal path)
    (unreadable : ∀ entry, before.index.readEntry before.disk path ≠ .ok entry) :
    ∃ fault, before.refresh path = (.error (.skipped fault), before) := by
  cases found : before.index.readEntry before.disk path with
  | ok entry => exact absurd found (unreadable entry)
  | error fault =>
    refine ⟨fault, ?_⟩
    simp only [refresh, Index.loadFile, normal.resolve_eq, found]

/-- A file that was written is read into the index when it may be read and rules are read from its
text. -/
theorem Filed.refreshes (normal : Normal path) (filed : Filed before path content after) :
    Refreshes before path content after.disk (after.refresh path) := by
  cases open_ : before.disk.isReadable (names path) with
  | false =>
    have unreadable : ∀ entry, after.index.readEntry after.disk path ≠ .ok entry := by
      intro entry found
      obtain ⟨_, _, held⟩ :=
        (Disk.read_eq_ok_iff normal).1 (Index.readEntry_eq_ok_iff.1 found).2.1
      rw [filed.disk.node?_eq, if_pos rfl, open_] at held
      simp at held
    obtain ⟨fault, failed⟩ := refresh_eq_error normal unreadable
    rw [failed]
    exact .unread fault after rfl filed (.closed fault open_)
  | true =>
    have read : after.disk.read before.index.place path = .ok (Utf8.bytes content) :=
      filed.disk.readable open_
    cases parsed : before.index.parse content with
    | ok rules =>
      have found : after.index.readEntry after.disk path = .ok ⟨path, content, rules⟩ := by
        rw [filed.index]
        exact Index.readEntry_eq_ok_iff.2 ⟨rfl, read, parsed, filed.writable⟩
      simp only [refresh, Index.loadFile, normal.resolve_eq, found]
      exact .written _ rfl ⟨⟨rules, parsed, by rw [filed.index]⟩, filed.writable, open_, filed.disk⟩
    | error detail =>
      have found : after.index.readEntry after.disk path = .error (.unparsable path detail) := by
        rw [filed.index]
        simp only [Index.readEntry, Disk.readText, read, Utf8.decode_bytes filed.writable,
          Except.mapError, parsed]
      simp only [refresh, Index.loadFile, normal.resolve_eq, found]
      exact .unread _ after rfl filed (.unruly detail parsed)

/-- Replacing a file at a path in normal form changes nothing, or empties it because the text cannot
be written, or changes it with its entry, unless it is not read again. -/
theorem replaces (normal : Normal path) (workspace : Workspace) (content : Text) :
    Replaces workspace path content (workspace.replaceFile path content) := by
  rw [replaceFile]
  generalize outcome : workspace.overwrite path content = result
  have done := overwrites normal workspace content
  rw [outcome] at done
  cases done with
  | refused fault after same refuses => exact .refused fault after same refuses
  | emptied refused after emptied => exact .emptied refused after emptied
  | written after filed _ _ => exact .refreshed _ _ (filed.refreshes normal)

/-- What rewriting a rule comes to. -/
inductive Updates (before : Workspace) (entry : Entry) (rule : Rule) (changes : Changes) :
    Except Fault Patched × Workspace → Prop where
  /-- The disk refuses the write. -/
  | refused (fault : WriteFault) (after : Workspace) (same : Untouched before after)
    (refuses : before.disk.Refuses before.index.place entry.path fault) :
    Updates before entry rule changes (.error (.writeFailed entry.path fault), after)
  /-- The block of the rule with the changes cannot be written, and the file is left empty. -/
  | emptied (content : Text) (refused : Utf8.Surrogates) (after : Workspace)
    (whole : content =
      splice entry.content rule (Rule.write rule.selector (changes.applyTo rule.properties)))
    (emptied : Emptied before entry.path content after) :
    Updates before entry rule changes
      (.error (.writeFailed entry.path (.surrogates refused)), after)
  /-- The block of the rule has the changes, and the file is not read again. -/
  | unread (content : Text) (fault : SkipFault) (after : Workspace)
    (whole : content =
      splice entry.content rule (Rule.write rule.selector (changes.applyTo rule.properties)))
    (filed : Filed before entry.path content after)
    (unread : Unread before entry.path content fault) :
    Updates before entry rule changes (.error (.skipped fault), after)
  /-- The block of the rule has the changes. -/
  | written (content : Text) (after : Workspace)
    (whole : content =
      splice entry.content rule (Rule.write rule.selector (changes.applyTo rule.properties)))
    (wrote : Wrote before entry.path content after) :
    Updates before entry rule changes
      (.ok ⟨entry.path, rule.selector, changes.keys, false⟩, after)

/-- Rewriting a rule of an entry changes its block, or changes nothing, or empties the file because
the block cannot be written. -/
theorem updates {entry : Entry} {rule : Rule} (keyed : before.index.Keyed)
    (held : before.index.entries.get? path = some entry) (listed : rule ∈ entry.rules)
    (changes : Changes) :
    Updates before entry rule changes (before.updateRule path rule changes) := by
  obtain ⟨normal, rfl⟩ := keyed path entry held
  have known : entry.rules.any rule.same = true :=
    List.any_eq_true.2 ⟨rule, listed, rule.same_self⟩
  rw [updateRule, normal.resolve_eq, Index.get?_eq normal, held]
  simp only [Bool.not_true, Bool.false_eq_true, if_false, known]
  generalize outcome : before.replaceFile entry.path _ = result
  have done := replaces normal before
    (splice entry.content rule (Rule.write rule.selector (changes.applyTo rule.properties)))
  rw [outcome] at done
  cases done with
  | refused fault after kept refuses => exact .refused fault after kept refuses
  | emptied refused after emptied => exact .emptied _ refused after rfl emptied
  | refreshed _ _ step =>
    cases step with
    | unread fault after _ filed unread => exact .unread _ fault after rfl filed unread
    | written after _ wrote => exact .written _ after rfl wrote

/-- The name of a new stylesheet is a proper one. -/
theorem isName_newFileName : ∀ name ∈ [newFileName], IsName name := by decide

/-- The stylesheet that is made for a root has a path in normal form. -/
theorem normal_newFile (workspace : Workspace) (root : Text) : Normal (workspace.newFile root) :=
  (Path.normal_absolute workspace.index.place root).append (by simp) isName_newFileName

/-- What a new stylesheet starts with can be written. -/
theorem writable_newFileHeader : Utf8.Writable newFileHeader := Utf8.writable_toText _

/-- A root has no stylesheet, and its new one is not there yet. -/
structure Bare (before : Workspace) (root : Text) : Prop where
  /-- No stylesheet has an entry. -/
  unlisted : before.index.largest? root = none
  /-- Nothing is where the new one would be. -/
  fresh : before.disk.node? (names (before.newFile root)) = none

/-- A root has no stylesheet in the index, but there is a file where its new one would be, and it
gives an entry. -/
structure Overlooked (before : Workspace) (root : Text) (entry : Entry) : Prop where
  /-- No stylesheet has an entry. -/
  unlisted : before.index.largest? root = none
  /-- The file gives one. -/
  read : before.index.readEntry before.disk (before.newFile root) = .ok entry

/-- Where a new rule of a root goes, and what its file holds before it: the longest stylesheet; when
there is none, the file where a new one would be, or that new one. -/
inductive Slot (before : Workspace) (root : Text) : Text → Text → Prop where
  /-- The longest stylesheet. -/
  | known (entry : Entry) (longest : before.index.largest? root = some entry) :
    Slot before root entry.path entry.content
  /-- A file that was overlooked. -/
  | noticed (entry : Entry) (overlooked : Overlooked before root entry) :
    Slot before root (before.newFile root) entry.content
  /-- A new file. -/
  | new (bare : Bare before root) : Slot before root (before.newFile root) newFileHeader

/-- An index is as it was, or has one entry more: that of a file where the new stylesheet of a root
goes. -/
inductive Gains (before : Workspace) (root path : Text) (index : Index) : Prop where
  /-- It is as it was, and the path has an entry. -/
  | none (same : index = before.index)
    (known : ∃ entry, before.index.entries.get? path = some entry)
  /-- The root had no stylesheet. -/
  | entry (content : Text) (rules : List Rule) (file : path = before.newFile root)
    (unlisted : before.index.largest? root = none) (writable : Utf8.Writable content)
    (parsed : before.index.parse content = .ok rules)
    (old : ∀ bytes, before.disk.bytes? (names path) = some bytes → bytes = Utf8.bytes content)
    (stored : index = before.index.store ⟨path, content, rules⟩)

/-- An index with one entry more reads paths from where it did. -/
theorem Gains.place {index : Index} (gains : Gains before root path index) :
    index.place = before.index.place := by
  cases gains with
  | none same _ => rw [same]
  | entry _ _ _ _ _ _ _ stored =>
    rw [stored]
    rfl

/-- What finding the file of a new rule comes to. -/
inductive Targets (before : Workspace) (root : Text) : Except Fault Text × Workspace → Prop where
  /-- The root has no stylesheet and none can be made, or it is none. -/
  | refused (fault : Fault) (after : Workspace) (same : Untouched before after)
    (cause : ∀ absolute, Path.resolve before.index.place root = .ok absolute →
      before.index.largest? root = none) :
    Targets before root (.error fault, after)
  /-- One is made and no rules are read from it. -/
  | unread (detail : Text) (after : Workspace) (bare : Bare before root)
    (filed : Filed before (before.newFile root) newFileHeader after)
    (unruly : before.index.parse newFileHeader = .error detail) :
    Targets before root (.error (.skipped (.unparsable (before.newFile root) detail)), after)
  /-- It is the longest stylesheet. -/
  | known (entry : Entry) (longest : before.index.largest? root = some entry) :
    Targets before root (.ok entry.path, before)
  /-- It is a file that was overlooked. -/
  | noticed (entry : Entry) (overlooked : Overlooked before root entry) :
    Targets before root
      (.ok (before.newFile root), { before with index := before.index.store entry })
  /-- It is a new file. -/
  | founded (after : Workspace) (bare : Bare before root)
    (wrote : Wrote before (before.newFile root) newFileHeader after)
    (again : ∀ fault, after.disk.Refuses before.index.place (before.newFile root) fault →
      ∃ refusal, fault = .refused refusal ∧ some refusal ∈ before.disk.verdicts) :
    Targets before root (.ok (before.newFile root), after)

/-- A new rule goes to the longest stylesheet; when there is none, to the file where a new one would
be, or to that new one. -/
theorem targets (before : Workspace) (root : Text) :
    Targets before root (before.targetFile root) := by
  rw [targetFile]
  split
  · rename_i fault _ astray
    refine .refused _ _ ⟨rfl, rfl⟩ fun absolute resolved => ?_
    simp [resolved] at astray
  · rename_i entry _ longest
    exact .known entry longest
  · rename_i _ bare
    have normal := before.normal_newFile root
    have file : Path.append (Path.absolute before.index.place root) newFileName =
      before.newFile root := rfl
    simp only [file]
    cases present : before.disk.leadsSomewhere before.index.place (before.newFile root) with
    | true =>
      simp only [if_true]
      cases found : before.index.readEntry before.disk (before.newFile root) with
      | error fault =>
        simp only [refresh, Index.loadFile, normal.resolve_eq, found]
        exact .refused _ _ ⟨rfl, rfl⟩ fun _ _ => bare
      | ok entry =>
        simp only [refresh, Index.loadFile, normal.resolve_eq, found]
        exact .noticed entry ⟨bare, found⟩
    | false =>
      simp only [Bool.false_eq_true, if_false]
      generalize outcome : before.overwrite (before.newFile root) newFileHeader = result
      have done := overwrites normal before newFileHeader
      rw [outcome] at done
      cases done with
      | refused fault after same _ => exact .refused _ after same fun _ _ => bare
      | emptied _ after emptied => exact absurd writable_newFileHeader emptied.surrogates
      | written after filed fresh again =>
        have bare : Bare before root := ⟨bare, fresh present⟩
        have open_ := Disk.isReadable_of_node?_eq_none bare.fresh
        simp only
        generalize later : after.refresh (before.newFile root) = result
        have read := filed.refreshes normal
        rw [later] at read
        cases read with
        | unread fault last _ filed unread =>
          cases unread with
          | unruly detail unruly => exact .unread detail last bare filed unruly
          | closed _ closed => simp [open_] at closed
        | written last same wrote => exact .founded last bare wrote (by rw [same]; exact again)

/-- What appending a rule comes to. -/
inductive Creates (before : Workspace) (selector : Text) (changes : Changes) (root : Text) :
    Except Fault Patched × Workspace → Prop where
  /-- The rule has no properties. -/
  | empty (given : (changes.applyTo .empty).isEmpty = true) :
    Creates before selector changes root (.error (.noProperties selector), before)
  /-- There is no file for the rule, or the disk refuses to write it. -/
  | refused (fault : Fault) (after : Workspace) (same : Untouched before after)
    (cause : ∀ absolute, Path.resolve before.index.place root = .ok absolute →
      ∀ entry, before.index.largest? root = some entry →
        ∃ fault, before.disk.Refuses before.index.place entry.path fault) :
    Creates before selector changes root (.error fault, after)
  /-- A file is made, and no rules are read from it. -/
  | unreadHeader (detail : Text) (after : Workspace) (bare : Bare before root)
    (filed : Filed before (before.newFile root) newFileHeader after)
    (unruly : before.index.parse newFileHeader = .error detail) :
    Creates before selector changes root
      (.error (.skipped (.unparsable (before.newFile root) detail)), after)
  /-- A file is made, and the disk has a verdict against writing the rule into it. -/
  | started (refusal : Refusal) (after : Workspace) (bare : Bare before root)
    (wrote : Wrote before (before.newFile root) newFileHeader after)
    (refused : some refusal ∈ before.disk.verdicts) :
    Creates before selector changes root
      (.error (.writeFailed (before.newFile root) (.refused refusal)), after)
  /-- A file that was overlooked gets its entry, and the disk refuses to write the rule into it. -/
  | noticed (entry : Entry) (fault : WriteFault) (after : Workspace)
    (overlooked : Overlooked before root entry) (stored : after.index = before.index.store entry)
    (nodes : after.disk.nodes = before.disk.nodes) :
    Creates before selector changes root (.error (.writeFailed (before.newFile root) fault), after)
  /-- The rule cannot be written, and its file is left empty. -/
  | emptied (path content : Text) (refused : Utf8.Surrogates) (after : Workspace)
    (slot : Slot before root path content)
    (surrogates : ¬ Utf8.Writable (content ++ appendix selector changes))
    (disk : before.disk.Wrote before.index.place path [] after.disk)
    (gains : Gains before root path after.index) :
    Creates before selector changes root (.error (.writeFailed path (.surrogates refused)), after)
  /-- The rule is written, and the file is not read again. -/
  | unread (path content : Text) (fault : SkipFault) (after : Workspace)
    (slot : Slot before root path content)
    (given : (changes.applyTo .empty).isEmpty = false)
    (disk : before.disk.Wrote before.index.place path
      (Utf8.bytes (content ++ appendix selector changes)) after.disk)
    (gains : Gains before root path after.index)
    (unread : Unread before path (content ++ appendix selector changes) fault) :
    Creates before selector changes root (.error (.skipped fault), after)
  /-- The rule stands at the end of its file. -/
  | written (path content : Text) (after : Workspace) (slot : Slot before root path content)
    (given : (changes.applyTo .empty).isEmpty = false)
    (wrote : Wrote before path (content ++ appendix selector changes) after) :
    Creates before selector changes root (.ok ⟨path, selector, changes.keys, true⟩, after)

/-- Two writes of one file leave what the second one wrote. -/
theorem Wrote.trans_disk {bytes : List UInt8} (first : Wrote before path content middle)
    (second : middle.disk.Wrote middle.index.place path bytes after.disk) :
    before.disk.Wrote before.index.place path bytes after.disk := by
  have still : middle.disk.isReadable (names path) = true := by
    rw [Disk.isReadable, first.disk.node?_eq, if_pos rfl]
    exact first.open_
  refine ⟨?_, first.disk.below, first.disk.free, fun _ => ?_⟩
  · rw [second.nodes, Disk.fill_congr first.disk.nodes, Disk.fill_fill]
  · rw [← first.place_parse.1]
    exact second.readable still

/-- Two writes of one file with its entry leave what the second one wrote. -/
theorem Wrote.trans {later : Text} (first : Wrote before path content middle)
    (second : Wrote middle path later after) : Wrote before path later after := by
  obtain ⟨rules, parsed, index⟩ := second.index
  obtain ⟨_, _, index'⟩ := first.index
  refine ⟨⟨rules, first.place_parse.2 ▸ parsed, ?_⟩, second.writable, first.open_,
    first.trans_disk second.disk⟩
  rw [index, index']
  simp only [Index.store, OrderedMap.insert_insert]

/-- What appending a rule comes to, from what its write does. -/
def appended (path selector : Text) (changes : Changes) :
    Except Fault Unit × Workspace → Except Fault Patched × Workspace
  | (.error fault, after) => (.error fault, after)
  | (.ok (), after) => (.ok ⟨path, selector, changes.keys, true⟩, after)

section

variable {result : Except Fault Unit × Workspace}

/-- Replacing the longest stylesheet by itself and a rule appends the rule. -/
theorem creates_known {entry : Entry} (longest : before.index.largest? root = some entry)
    (held : before.index.entries.get? entry.path = some entry)
    (given : (changes.applyTo .empty).isEmpty = false)
    (done : Replaces before entry.path (entry.content ++ appendix selector changes) result) :
    Creates before selector changes root (appended entry.path selector changes result) := by
  cases done with
  | refused fault after kept refuses =>
    refine .refused _ after kept fun _ _ other known => ?_
    rw [longest, Option.some.injEq] at known
    exact ⟨fault, known ▸ refuses⟩
  | emptied refused after emptied =>
    exact .emptied _ _ refused after (.known entry longest) emptied.surrogates emptied.disk
      (.none emptied.index ⟨entry, held⟩)
  | refreshed _ _ step =>
    cases step with
    | unread fault after _ filed unread =>
      exact .unread _ _ fault after (.known entry longest) given filed.disk
        (.none filed.index ⟨entry, held⟩) unread
    | written after _ wrote => exact .written _ _ after (.known entry longest) given wrote

/-- Replacing a file that was overlooked by itself and a rule appends the rule. -/
theorem creates_noticed {entry : Entry} (overlooked : Overlooked before root entry)
    (given : (changes.applyTo .empty).isEmpty = false)
    (done : Replaces { before with index := before.index.store entry } (before.newFile root)
      (entry.content ++ appendix selector changes) result) :
    Creates before selector changes root
      (appended (before.newFile root) selector changes result) := by
  obtain ⟨own, content, rules⟩ := entry
  obtain ⟨rfl, read, parsed, writable⟩ := Index.readEntry_eq_ok_iff.1 overlooked.read
  have held := Disk.bytes?_of_read (before.normal_newFile root) read
  have gains : Gains before root (before.newFile root)
      (before.index.store ⟨before.newFile root, content, rules⟩) :=
    .entry content rules rfl overlooked.unlisted writable parsed
      (fun bytes same => Option.some.inj (same.symm.trans held)) rfl
  cases done with
  | refused fault after kept refuses =>
    exact .noticed _ fault after overlooked kept.index kept.nodes
  | emptied refused after emptied =>
    exact .emptied _ _ refused after (.noticed _ overlooked) emptied.surrogates emptied.disk
      (emptied.index ▸ gains)
  | refreshed _ _ step =>
    cases step with
    | unread fault after _ filed unread =>
      refine .unread _ _ fault after (.noticed _ overlooked) given filed.disk
        (filed.index ▸ gains) ?_
      cases unread with
      | unruly detail failed => exact .unruly detail failed
      | closed _ closed => exact .closed _ closed
    | written after _ wrote =>
      obtain ⟨rules', parsed', index⟩ := wrote.index
      refine .written _ _ after (.noticed _ overlooked) given
        ⟨⟨rules', parsed', ?_⟩, wrote.writable, wrote.open_, wrote.disk⟩
      rw [index]
      simp only [Index.store, OrderedMap.insert_insert]

/-- Replacing a stylesheet that was just made by itself and a rule appends the rule. -/
theorem creates_founded (bare : Bare before root)
    (given : (changes.applyTo .empty).isEmpty = false)
    (wrote : Wrote before (before.newFile root) newFileHeader middle)
    (again : ∀ fault, middle.disk.Refuses before.index.place (before.newFile root) fault →
      ∃ refusal, fault = .refused refusal ∧ some refusal ∈ before.disk.verdicts)
    (done : Replaces middle (before.newFile root) (newFileHeader ++ appendix selector changes)
      result) :
    Creates before selector changes root
      (appended (before.newFile root) selector changes result) := by
  obtain ⟨rules, parsed, index⟩ := wrote.index
  have gains : Gains before root (before.newFile root) middle.index :=
    .entry _ rules rfl bare.unlisted wrote.writable parsed
      (fun bytes same => by simp [Disk.bytes?, bare.fresh] at same) index
  cases done with
  | refused fault after kept refuses =>
    rw [wrote.place_parse.1] at refuses
    obtain ⟨refusal, rfl, listed⟩ := again fault refuses
    refine .started refusal after bare ⟨⟨rules, parsed, ?_⟩, wrote.writable, wrote.open_, ?_,
      wrote.disk.below, wrote.disk.free, ?_⟩ listed
    · rw [kept.index, index]
    · rw [kept.nodes, wrote.disk.nodes]
    · rw [Disk.read_congr kept.nodes]
      exact wrote.disk.readable
  | emptied refused after emptied =>
    exact .emptied _ _ refused after (.new bare) emptied.surrogates (wrote.trans_disk emptied.disk)
      (emptied.index ▸ gains)
  | refreshed _ _ step =>
    cases step with
    | unread fault after _ filed unread =>
      refine .unread _ _ fault after (.new bare) given (wrote.trans_disk filed.disk)
        (filed.index ▸ gains) ?_
      cases unread with
      | unruly detail failed => exact .unruly detail (wrote.place_parse.2 ▸ failed)
      | closed _ closed =>
        rw [Disk.isReadable, wrote.disk.node?_eq, if_pos rfl] at closed
        exact .closed _ closed
    | written after _ later => exact .written _ _ after (.new bare) given (wrote.trans later)

end

/-- Appending a rule writes it to the longest stylesheet, or to the file where a new one would be,
or to that new one, or writes no rule. -/
theorem creates (keyed : before.index.Keyed) (selector : Text) (changes : Changes) (root : Text) :
    Creates before selector changes root (before.createRule selector changes root) := by
  rw [createRule]
  cases given : (changes.applyTo .empty).isEmpty with
  | true => exact .empty given
  | false =>
    simp only [Bool.false_eq_true, if_false]
    generalize place : before.targetFile root = target
    have goal := targets before root
    rw [place] at goal
    have stored (index : Index) (content : Text) (rules : List Rule) :
        (index.store ⟨before.newFile root, content, rules⟩).get? (before.newFile root) =
          some ⟨before.newFile root, content, rules⟩ := by
      rw [Index.get?_eq (before.normal_newFile root)]
      exact Index.get?_store_self index ⟨before.newFile root, content, rules⟩
    cases goal with
    | refused fault after same cause =>
      refine .refused fault after same fun absolute resolved entry longest => ?_
      simp [cause absolute resolved] at longest
    | unread detail after bare filed unruly => exact .unreadHeader detail after bare filed unruly
    | known entry longest =>
      obtain ⟨path, held, _⟩ :=
        (Index.mem_filesUnder_iff _ _ _).1 (Index.mem_filesUnder_of_largest? longest)
      obtain ⟨normal, rfl⟩ := keyed path entry held
      simp only [Index.get?_eq normal, held]
      exact creates_known longest held given (replaces normal before _)
    | noticed entry overlooked =>
      obtain ⟨path, content, rules⟩ := entry
      obtain rfl : path = before.newFile root := Index.path_of_readEntry overlooked.read
      simp only [stored]
      exact creates_noticed overlooked given (replaces (before.normal_newFile root) _ _)
    | founded middle bare wrote again =>
      obtain ⟨rules, _, index⟩ := wrote.index
      simp only [index, stored]
      exact creates_founded bare given wrote again (replaces (before.normal_newFile root) middle _)

end Workspace

end Restyle
