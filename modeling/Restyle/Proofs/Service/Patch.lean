import Restyle.Proofs.Match.Best
import Restyle.Proofs.Match.Candidates
import Restyle.Proofs.Patch
import Restyle.Service

/-!
# What an event does to a workspace

An event that finds a match has the block of that rule rewritten, and one that finds none has a
rule appended for its first candidate (`patches`). Scanning a root that has no entry yet changes
no entry and no file (`sound_ensureLoaded`), and afterwards a root that may be listed and has no
stylesheet has no file that is overlooked (`not_overlooked`). Where every text has rules and the
files of the entries can be read, an event writes one file with its entry, or empties it because
what it is to write cannot be written, or changes no file (`writes`).
-/
namespace Restyle

namespace Service

open Restyle.Path (IsName Normal names)

variable {service : Service} {disk : Disk} {event : Event} {root : Text}

/-- The match of an event among the stylesheets of a root. -/
def match? (service : Service) (event : Event) (root : Text) : Option Match.Found :=
  Match.best? service.config.weights (Match.candidates event) event.classes
    (service.index.rulesUnder root)

/-- The service once a root is loaded. -/
def loaded (service : Service) (disk : Disk) (root : Text) : Service :=
  { service with index := (service.index.ensureLoaded disk root).2 }

/-- Loading a root leaves where paths are read from. -/
@[simp] theorem loaded_place (service : Service) (disk : Disk) (root : Text) :
    (service.loaded disk root).index.place = service.index.place := by
  obtain ⟨entries, shape⟩ := service.index.ensureLoaded_eq disk root
  rw [loaded, shape]

/-- Loading a root leaves how rules are read. -/
@[simp] theorem loaded_parse (service : Service) (disk : Disk) (root : Text) :
    (service.loaded disk root).index.parse = service.index.parse := by
  obtain ⟨entries, shape⟩ := service.index.ensureLoaded_eq disk root
  rw [loaded, shape]

/-- Applying an event is patching its root once that is loaded. -/
theorem applyEvent_eq (resolved : service.resolveRoot disk event.domain event.target = .ok root) :
    let result := (service.loaded disk root).patch disk event root
    (service.applyEvent disk event).answer =
        resultOf (result.1.map fun patched =>
          { patched with
            file := Path.relative patched.file
              (Path.absolute (service.loaded disk root).index.place root) }) ∧
      (service.applyEvent disk event).service.index = result.2.index ∧
      (service.applyEvent disk event).disk = result.2.disk := by
  have load : service.loaded disk root =
      { service with index := (service.index.ensureLoaded disk root).2 } := rfl
  simp only [applyEvent, run, resolved, load, and_self]

/-- Applying an event changes nothing in a service but its index. -/
theorem applyEvent_service (service : Service) (disk : Disk) (event : Event) :
    ∃ index, (service.applyEvent disk event).service = { service with index } := by
  rw [applyEvent, run]
  split
  · exact ⟨service.index, rfl⟩
  · exact ⟨_, rfl⟩

/-- So the roots that the service knows stay. -/
theorem applyEvent_settings (service : Service) (disk : Disk) (event : Event) :
    (service.applyEvent disk event).service.root = service.root ∧
      (service.applyEvent disk event).service.mappings = service.mappings := by
  obtain ⟨index, same⟩ := service.applyEvent_service disk event
  rw [same]
  exact ⟨rfl, rfl⟩

/-- What patching a loaded root for an event comes to. -/
inductive Patches (service : Service) (disk : Disk) (event : Event) (root : Text) :
    Except Fault Patched × Workspace → Prop where
  /-- The block of the match is rewritten, or nothing is. -/
  | updated (found : Match.Found) (entry : Entry) (result : Except Fault Patched × Workspace)
    (matched : service.match? event root = some found)
    (listed : entry ∈ service.index.filesUnder root) (file : entry.path = found.file)
    (stated : found.rule ∈ entry.rules)
    (step : Workspace.Updates ⟨service.index, disk⟩ entry found.rule event.changes result) :
    Patches service disk event root result
  /-- A rule for the first candidate is appended, or none is. -/
  | created (result : Except Fault Patched × Workspace)
    (unmatched : service.match? event root = none)
    (step : Workspace.Creates ⟨service.index, disk⟩ event.newSelector event.changes root result) :
    Patches service disk event root result

/-- A patch rewrites the block of the match, or appends a rule when there is none. -/
theorem patches (keyed : service.index.Keyed) (disk : Disk) (event : Event) (root : Text) :
    Patches service disk event root (service.patch disk event root) := by
  have settled : (Workspace.mk service.index disk).index.Keyed := keyed
  rw [patch]
  cases matched : service.match? event root with
  | none =>
    rw [match?] at matched
    simp only [matched]
    exact .created _ matched (Workspace.creates settled event.newSelector event.changes root)
  | some found =>
    have spot := Match.best?_mem matched
    rw [match?] at matched
    simp only [matched]
    rw [Index.rulesUnder, List.mem_flatMap] at spot
    obtain ⟨entry, listed, inside⟩ := spot
    obtain ⟨rule, stated, same⟩ := List.mem_map.1 inside
    obtain ⟨file, rfl⟩ := Prod.mk.inj same
    obtain ⟨path, held, _⟩ := (Index.mem_filesUnder_iff _ _ _).1 listed
    have here := (keyed path entry held).2
    rw [← file, here]
    exact .updated found entry _ matched listed file stated
      (Workspace.updates settled held stated event.changes)

/-- Loading a root leaves a sound workspace. -/
theorem sound_ensureLoaded (sound : Workspace.Sound ⟨service.index, disk⟩) (root : Text) :
    Workspace.Sound ⟨(service.index.ensureLoaded disk root).2, disk⟩ :=
  ⟨sound.named, Index.current_ensureLoaded sound.named sound.current⟩

/-- The new stylesheet of a root that may be listed is found there once it can be read. -/
theorem mem_discover_newFile {index : Index} {disk' : Disk} {bytes : List UInt8}
    (listable : disk'.canList (names (Path.absolute index.place root)) = true)
    (held : disk'.read index.place (Workspace.newFile ⟨index, disk⟩ root) = .ok bytes) :
    Workspace.newFile ⟨index, disk⟩ root ∈ index.discover disk' root := by
  have kind : Disk.isListed index.skipped [Workspace.newFileName] = true := by
    rw [Disk.isListed, Bool.and_eq_true]
    exact ⟨by decide +kernel, rfl⟩
  have lists : disk'.Lists (names (Path.absolute index.place root)) [Workspace.newFileName] := by
    intro depth short
    obtain rfl : depth = 0 := by simpa using short
    simpa using listable
  rw [Workspace.newFile, ← Text.join_singleton [.char '/'] Workspace.newFileName] at held ⊢
  exact Disk.mem_stylesheets_of_read (Path.normal_absolute index.place root)
    Workspace.isName_newFileName kind lists held

/-- A loaded root that may be listed has no stylesheet that is overlooked. -/
theorem not_overlooked (named : disk.Named)
    (listable : disk.canList (names (Path.absolute service.index.place root)) = true)
    (entry : Entry) :
    ¬ Workspace.Overlooked ⟨(service.loaded disk root).index, disk⟩ root entry := by
  rintro ⟨unlisted, read⟩
  have alike : ∀ path, (service.loaded disk root).index.readEntry disk path =
      service.index.readEntry disk path :=
    Index.readEntry_eq_of (loaded_place service disk root) (loaded_parse service disk root) disk
  have same : Workspace.newFile ⟨(service.loaded disk root).index, disk⟩ root =
      Workspace.newFile ⟨service.index, disk⟩ root := by
    simp only [Workspace.newFile, loaded_place]
  rw [same] at read
  have read := (alike _).symm.trans read
  have listed := mem_discover_newFile listable (Index.readEntry_eq_ok_iff.1 read).2.1
  exact Index.readEntry_ne_ok_of_largest? named unlisted listed read

/-- Once its root is loaded, a workspace whose entries stand under their own paths is patched by
rewriting the block of the match or by appending a rule. -/
theorem patches_loaded (named : disk.Named) (keyed : service.index.Keyed) (event : Event)
    (root : Text) :
    Patches (service.loaded disk root) disk event root
      ((service.loaded disk root).patch disk event root) := by
  have settled : (service.loaded disk root).index.Keyed := Index.keyed_ensureLoaded named keyed
  exact patches settled disk event root

/-- The text that an event is to put into a file: that of an entry with the block of the match
rewritten, or what a file holds and a rule for the first candidate. -/
inductive Intends (service : Service) (disk : Disk) (event : Event) (root : Text) :
    Text → Text → Prop where
  /-- The block of the match is to be rewritten. -/
  | revised (found : Match.Found) (entry : Entry) (matched : service.match? event root = some found)
    (listed : entry ∈ service.index.filesUnder root) (file : entry.path = found.file)
    (stated : found.rule ∈ entry.rules) :
    Intends service disk event root entry.path
      (Workspace.splice entry.content found.rule
        (Rule.write found.rule.selector (event.changes.applyTo found.rule.properties)))
  /-- A rule for the first candidate is to be appended. -/
  | extended (path content : Text) (unmatched : service.match? event root = none)
    (slot : Workspace.Slot ⟨service.index, disk⟩ root path content) :
    Intends service disk event root path
      (content ++ Workspace.appendix event.newSelector event.changes)

/-- What applying an event writes when every text has rules and the files of the entries can be
read. -/
inductive Writes (service : Service) (disk : Disk) (event : Event) (effect : Effect PatchResult) :
    Prop where
  /-- There is no root for it, and nothing is done. -/
  | adrift (error : Text) (reason : Reason) (answer : effect.answer = .failed error reason)
    (same : Workspace.Untouched ⟨service.index, disk⟩ ⟨effect.service.index, effect.disk⟩)
    (fault : Fault)
    (unresolved : service.resolveRoot disk event.domain event.target = .error fault)
  /-- Its root is loaded, and nothing is written. -/
  | still (root error : Text) (reason : Reason)
    (resolved : service.resolveRoot disk event.domain event.target = .ok root)
    (answer : effect.answer = .failed error reason)
    (same : Workspace.Untouched ⟨(service.loaded disk root).index, disk⟩
      ⟨effect.service.index, effect.disk⟩)
  /-- Its root is loaded, and a new stylesheet without rules is written. -/
  | started (root error : Text) (reason : Reason)
    (resolved : service.resolveRoot disk event.domain event.target = .ok root)
    (answer : effect.answer = .failed error reason)
    (bare : Workspace.Bare ⟨(service.loaded disk root).index, disk⟩ root)
    (wrote : Workspace.Wrote ⟨(service.loaded disk root).index, disk⟩
      (Workspace.newFile ⟨(service.loaded disk root).index, disk⟩ root) Workspace.newFileHeader
      ⟨effect.service.index, effect.disk⟩)
  /-- Its root is loaded, an entry is made of a file that was overlooked, and nothing is written. -/
  | noticed (root error : Text) (reason : Reason) (entry : Entry)
    (resolved : service.resolveRoot disk event.domain event.target = .ok root)
    (answer : effect.answer = .failed error reason)
    (overlooked : Workspace.Overlooked ⟨(service.loaded disk root).index, disk⟩ root entry)
    (stored : effect.service.index = (service.loaded disk root).index.store entry)
    (nodes : effect.disk.nodes = disk.nodes)
  /-- Its root is loaded, and a file is left empty because what is to be put there cannot be
  written. -/
  | emptied (root path content error : Text) (reason : Reason)
    (resolved : service.resolveRoot disk event.domain event.target = .ok root)
    (answer : effect.answer = .failed error reason)
    (intends : Intends (service.loaded disk root) disk event root path content)
    (surrogates : ¬ Utf8.Writable content)
    (wrote : disk.Wrote service.index.place path [] effect.disk)
    (gains : Workspace.Gains ⟨(service.loaded disk root).index, disk⟩ root path
      effect.service.index)
  /-- The block of its match is rewritten. -/
  | revised (root : Text) (found : Match.Found) (entry : Entry)
    (resolved : service.resolveRoot disk event.domain event.target = .ok root)
    (matched : (service.loaded disk root).match? event root = some found)
    (listed : entry ∈ (service.loaded disk root).index.filesUnder root)
    (stated : found.rule ∈ entry.rules)
    (answer : effect.answer = .applied ⟨Path.relative entry.path
      (Path.absolute service.index.place root), found.rule.selector, event.changes.keys, false⟩)
    (wrote : Workspace.Wrote ⟨(service.loaded disk root).index, disk⟩ entry.path
      (Workspace.splice entry.content found.rule
        (Rule.write found.rule.selector (event.changes.applyTo found.rule.properties)))
      ⟨effect.service.index, effect.disk⟩)
    (file : entry.path = found.file)
  /-- A rule for its first candidate is appended. -/
  | extended (root path content : Text)
    (resolved : service.resolveRoot disk event.domain event.target = .ok root)
    (unmatched : (service.loaded disk root).match? event root = none)
    (slot : Workspace.Slot ⟨(service.loaded disk root).index, disk⟩ root path content)
    (answer : effect.answer = .applied ⟨Path.relative path
      (Path.absolute service.index.place root), event.newSelector, event.changes.keys, true⟩)
    (wrote : Workspace.Wrote ⟨(service.loaded disk root).index, disk⟩ path
      (content ++ Workspace.appendix event.newSelector event.changes)
      ⟨effect.service.index, effect.disk⟩)

/-- What applying an event writes leaves where paths are read from, and closes no folder. -/
theorem Writes.place_folders {effect : Effect PatchResult}
    (writes : Writes service disk event effect) :
    effect.service.index.place = service.index.place ∧
      ∀ path, disk.leadsToOpenFolder service.index.place path = true →
        effect.disk.leadsToOpenFolder service.index.place path = true := by
  have untouched : ∀ root, Workspace.Untouched ⟨(service.loaded disk root).index, disk⟩
        ⟨effect.service.index, effect.disk⟩ →
      effect.service.index.place = service.index.place ∧
        ∀ path, disk.leadsToOpenFolder service.index.place path = true →
          effect.disk.leadsToOpenFolder service.index.place path = true := by
    intro root same
    have index := same.index
    simp only at index
    refine ⟨by rw [index, loaded_place], fun path open_ => ?_⟩
    rwa [Disk.leadsToOpenFolder_congr same.nodes]
  have wrote : ∀ root path content, Workspace.Wrote ⟨(service.loaded disk root).index, disk⟩ path
        content ⟨effect.service.index, effect.disk⟩ →
      effect.service.index.place = service.index.place ∧
        ∀ path, disk.leadsToOpenFolder service.index.place path = true →
          effect.disk.leadsToOpenFolder service.index.place path = true := by
    intro root path content wrote
    have written := wrote.disk
    simp only [loaded_place] at written
    exact ⟨wrote.place_parse.1.trans (loaded_place service disk root),
      fun folder open_ => written.leadsToOpenFolder open_⟩
  cases writes with
  | adrift error reason answer same =>
    have index := same.index
    simp only at index
    refine ⟨by rw [index], fun path open_ => ?_⟩
    rwa [Disk.leadsToOpenFolder_congr same.nodes]
  | still root _ _ _ _ same => exact untouched root same
  | started root _ _ _ _ _ written => exact wrote root _ _ written
  | noticed root error reason entry resolved answer overlooked stored nodes =>
    refine ⟨by rw [stored]; exact loaded_place service disk root, fun path open_ => ?_⟩
    rwa [Disk.leadsToOpenFolder_congr nodes]
  | emptied root path content error reason resolved answer intends surrogates written gains =>
    refine ⟨?_, fun folder open_ => written.leadsToOpenFolder open_⟩
    rw [← loaded_place service disk root]
    exact gains.place
  | revised root _ _ _ _ _ _ _ written => exact wrote root _ _ written
  | extended root _ _ _ _ _ _ written => exact wrote root _ _ written

/-- Once a root is loaded the files of its entries can be read if those of the entries before
can. -/
theorem isReadable_of_mem_filesUnder (named : disk.Named) (keyed : service.index.Keyed)
    (present : ∀ path entry, service.index.entries.get? path = some entry →
      ∃ bytes, disk.read service.index.place path = .ok bytes) {entry : Entry}
    (listed : entry ∈ (service.loaded disk root).index.filesUnder root) :
    disk.isReadable (names entry.path) = true := by
  obtain ⟨path, held, _⟩ := (Index.mem_filesUnder_iff _ _ _).1 listed
  rcases Index.of_get?_ensureLoaded held with known | ⟨found, read⟩
  · obtain ⟨normal, rfl⟩ := keyed path entry known
    obtain ⟨bytes, read⟩ := present _ entry known
    exact Disk.isReadable_of_read normal read
  · obtain rfl := Index.path_of_readEntry read
    exact Disk.isReadable_of_read (Index.of_mem_discover named found).1
      (Index.readEntry_eq_ok_iff.1 read).2.1

/-- The file that a new rule goes to may be read, or is a new one, if the files of the entries can
be read. -/
theorem isReadable_of_slot {path content : Text} (named : disk.Named)
    (keyed : service.index.Keyed)
    (present : ∀ path entry, service.index.entries.get? path = some entry →
      ∃ bytes, disk.read service.index.place path = .ok bytes)
    (slot : Workspace.Slot ⟨(service.loaded disk root).index, disk⟩ root path content) :
    disk.isReadable (names path) = true := by
  cases slot with
  | known entry longest =>
    exact isReadable_of_mem_filesUnder named keyed present
      (Index.mem_filesUnder_of_largest? longest)
  | noticed entry overlooked =>
    exact Disk.isReadable_of_read (Workspace.normal_newFile _ root)
      (Index.readEntry_eq_ok_iff.1 overlooked.read).2.1
  | new bare => exact Disk.isReadable_of_node?_eq_none bare.fresh

/-- Where every text has rules, a file that may be read is read again once it was written. -/
theorem not_unread {workspace : Workspace} {path content : Text} {fault : SkipFault}
    (standard : workspace.index.Standard) (open_ : workspace.disk.isReadable (names path) = true) :
    ¬ workspace.Unread path content fault := by
  rintro (⟨detail, failed⟩ | ⟨_, closed⟩)
  · simp [standard.parse_eq] at failed
  · simp [open_] at closed

/-- Where every text has rules and the files of the entries can be read, an event writes one file
with its entry, or empties it, or changes no file. -/
theorem writes (named : disk.Named) (keyed : service.index.Keyed)
    (standard : service.index.Standard)
    (present : ∀ path entry, service.index.entries.get? path = some entry →
      ∃ bytes, disk.read service.index.place path = .ok bytes) (event : Event) :
    Writes service disk event (service.applyEvent disk event) := by
  cases resolved : service.resolveRoot disk event.domain event.target with
  | error fault =>
    have run : service.run disk event = { answer := .error fault, service, disk } := by
      rw [run, resolved]
    rw [applyEvent, run]
    exact .adrift _ _ rfl ⟨rfl, rfl⟩ fault resolved
  | ok root =>
    obtain ⟨answer, index, last⟩ := service.applyEvent_eq resolved
    have done := patches_loaded named keyed event root
    rw [loaded_place] at answer
    generalize (service.loaded disk root).patch disk event root = result at answer index last done
    have plain : (service.loaded disk root).index.Standard := by
      rw [Index.Standard, loaded_parse, standard]
    cases done with
    | updated found entry _ matched listed file stated step =>
      obtain ⟨own, held, _⟩ := (Index.mem_filesUnder_iff _ _ _).1 listed
      obtain ⟨_, rfl⟩ := Index.keyed_ensureLoaded named keyed own entry held
      cases step with
      | refused fault after same _ =>
        refine .still root _ _ resolved answer ?_
        rw [index, last]
        exact same
      | emptied content refused after whole emptied =>
        subst whole
        refine .emptied root entry.path _ _ _ resolved answer
          (.revised found entry matched listed file stated) emptied.surrogates ?_
          (.none (index.trans emptied.index) ⟨entry, held⟩)
        rw [last, ← loaded_place service disk root]
        exact emptied.disk
      | unread content fault after _ _ unread =>
        exact absurd unread
          (not_unread plain (isReadable_of_mem_filesUnder named keyed present listed))
      | written content after whole wrote =>
        subst whole
        refine .revised root found entry resolved matched listed stated answer ?_ file
        rw [index, last]
        exact wrote
    | created _ unmatched step =>
      cases step with
      | empty given =>
        refine .still root _ _ resolved answer ?_
        rw [index, last]
        exact ⟨rfl, rfl⟩
      | refused fault after same _ =>
        refine .still root _ _ resolved answer ?_
        rw [index, last]
        exact same
      | unreadHeader detail after bare _ failed =>
        exact absurd (.unruly detail failed)
          (not_unread plain (Disk.isReadable_of_node?_eq_none bare.fresh))
      | noticed entry fault after overlooked stored nodes =>
        exact .noticed root _ _ entry resolved answer overlooked (index.trans stored)
          (by rw [last, nodes])
      | emptied path content refused after slot surrogates wrote gains =>
        refine .emptied root path _ _ _ resolved answer (.extended path content unmatched slot)
          surrogates ?_ (by rw [index]; exact gains)
        rw [last, ← loaded_place service disk root]
        exact wrote
      | started refusal after bare wrote _ =>
        refine .started root _ _ resolved answer bare ?_
        rw [index, last]
        exact wrote
      | unread path content fault after slot _ _ _ unread =>
        exact absurd unread (not_unread plain (isReadable_of_slot named keyed present slot))
      | written path content after slot _ wrote =>
        refine .extended root path content resolved unmatched slot answer ?_
        rw [index, last]
        exact wrote

/-- Where entries are current and every text has rules, an event writes one file with its entry, or
empties it, or changes no file. -/
theorem writes_of_sound (sound : Workspace.Sound ⟨service.index, disk⟩)
    (standard : service.index.Standard) (event : Event) :
    Writes service disk event (service.applyEvent disk event) :=
  writes sound.named sound.current.keyed standard sound.current.present event

end Service

end Restyle
