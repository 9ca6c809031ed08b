import Restyle.Proofs.Service.Patch

/-!
# What an event does to the disk

An event that is applied changes one file, which its result names and which lies below the root
of the event, and of that file the block of one rule or the end. An event that fails changes no
file, but for three cases: a stylesheet without rules is left when only the first of two writes
goes through, a file whose new text no rules are read from stays as it was written, and a file
whose new text cannot be written is left empty (`apply_contained`). In every case all entries that
were cached before a failure stay.
-/
namespace Restyle.Service

open Restyle.Path (IsName Normal names)

variable {service : Service} {disk : Disk} {event : Event} {root path content : Text}
  {bytes : List UInt8}

/-- How the bytes of a file change for an event: the block of its match is replaced, or a rule
for its first candidate is appended to a stylesheet or to the header of a new one. -/
inductive Rewrites (service : Service) (event : Event) (root : Text) :
    Option (List UInt8) → List UInt8 → Prop where
  /-- The bytes of the span of the match are those of its new block. -/
  | block (found : Match.Found) (content : Text) (rules : List Rule)
    (matched : service.match? event root = some found)
    (parsed : service.index.parse content = .ok rules) (stated : found.rule ∈ rules) :
    Rewrites service event root
      (some (Utf8.bytes (content.take found.rule.start.toNat) ++
        Utf8.bytes ((content.take found.rule.stop.toNat).drop found.rule.start.toNat) ++
        Utf8.bytes (content.drop found.rule.stop.toNat)))
      (Utf8.bytes (content.take found.rule.start.toNat) ++
        Utf8.bytes (Rule.write found.rule.selector
          (event.changes.applyTo found.rule.properties)) ++
        Utf8.bytes (content.drop found.rule.stop.toNat))
  /-- The new rule follows the bytes that were there. -/
  | appended (old : List UInt8) (unmatched : service.match? event root = none) :
    Rewrites service event root (some old)
      (old ++ Utf8.bytes (Workspace.appendix event.newSelector event.changes))
  /-- The new rule follows the header of a new file. -/
  | founded (unmatched : service.match? event root = none)
    (bare : service.index.largest? root = none) :
    Rewrites service event root none
      (Utf8.bytes Workspace.newFileHeader ++
        Utf8.bytes (Workspace.appendix event.newSelector event.changes))

/-- Every entry of a service is an entry of another one. -/
def Keeps (before after : Service) : Prop :=
  ∀ path entry, before.index.entries.get? path = some entry →
    after.index.entries.get? path = some entry

/-- Two disks differ at one trail at most. -/
def DiffersAt (before after : Disk) (goal : Trail) : Prop :=
  ∀ trail, trail ≠ goal → after.node? trail = before.node? trail

/-- The trail of a file that is named by its path from a root. -/
def fileAt (place : Place) (root file : Text) : Trail :=
  names (Path.absolute place (Path.append (Path.absolute place root) file))

/-- What an event may come to. -/
inductive Contained (service : Service) (disk : Disk) (event : Event)
    (effect : Effect PatchResult) : Prop where
  /-- It fails, and no entry and no item is changed. -/
  | unchanged (error : Text) (reason : Reason) (answer : effect.answer = .failed error reason)
    (kept : Keeps service effect.service) (same : effect.disk.nodes = disk.nodes)
  /-- It fails, and a new stylesheet without rules is left where there was none, since the disk
  has a verdict against the second write or no rules are read from the header. -/
  | started (error : Text) (reason : Reason) (root : Text)
    (answer : effect.answer = .failed error reason) (kept : Keeps service effect.service)
    (cause : (reason = .writeFailure ∧ ∃ refusal, some refusal ∈ disk.verdicts) ∨
      (reason = .parseFailure ∧
        ∃ detail, service.index.parse Workspace.newFileHeader = .error detail))
    (resolved : service.resolveRoot disk event.domain event.target = .ok root)
    (bare : (service.loaded disk root).index.filesUnder root = [])
    (fresh : disk.node? (fileAt service.index.place root Workspace.newFileName) = none)
    (only : DiffersAt disk effect.disk (fileAt service.index.place root Workspace.newFileName))
    (header : effect.disk.bytes? (fileAt service.index.place root Workspace.newFileName) =
      some (Utf8.bytes Workspace.newFileHeader))
  /-- It fails, and a file is rewritten for it whose new text no rules are read from. -/
  | unread (error : Text) (root content detail : Text) (goal : Trail)
    (answer : effect.answer = .failed error .parseFailure) (kept : Keeps service effect.service)
    (resolved : service.resolveRoot disk event.domain event.target = .ok root)
    (under : names (Path.absolute service.index.place root) <+: goal)
    (only : DiffersAt disk effect.disk goal)
    (written : effect.disk.bytes? goal = some (Utf8.bytes content))
    (rewrites : Rewrites (service.loaded disk root) event root (disk.bytes? goal)
      (Utf8.bytes content))
    (unruly : service.index.parse content = .error detail)
  /-- It fails, and a file is left empty, since the text that it is to put there cannot be
  written. -/
  | emptied (error root path content : Text) (answer : effect.answer = .failed error .internal)
    (kept : Keeps service effect.service)
    (resolved : service.resolveRoot disk event.domain event.target = .ok root)
    (under : names (Path.absolute service.index.place root) <+: names path)
    (only : DiffersAt disk effect.disk (names path))
    (emptied : effect.disk.bytes? (names path) = some [])
    (intends : Intends (service.loaded disk root) disk event root path content)
    (surrogates : ¬ Utf8.Writable content)
  /-- It is applied, and the file that the result names is rewritten for it. -/
  | applied (patched : Patched) (root : Text) (bytes : List UInt8)
    (answer : effect.answer = .applied patched)
    (resolved : service.resolveRoot disk event.domain event.target = .ok root)
    (under : names (Path.absolute service.index.place root) <+:
      fileAt service.index.place root patched.file)
    (only : DiffersAt disk effect.disk (fileAt service.index.place root patched.file))
    (written : effect.disk.bytes? (fileAt service.index.place root patched.file) = some bytes)
    (rewrites : Rewrites (service.loaded disk root) event root
      (disk.bytes? (fileAt service.index.place root patched.file)) bytes)

/-- A text is what stands before a span, the span, and what stands behind it. -/
theorem encode_span (content : Text) {start stop : Nat} (ordered : start ≤ stop) :
    Utf8.bytes (content.take start) ++ Utf8.bytes ((content.take stop).drop start) ++
      Utf8.bytes (content.drop stop) = Utf8.bytes content := by
  have front : content.take start = (content.take stop).take start := by
    rw [List.take_take, Nat.min_eq_left ordered]
  rw [← Utf8.bytes_append, ← Utf8.bytes_append, front, List.take_append_drop,
    List.take_append_drop]

/-- A service keeps its entries when a root is loaded. -/
theorem keeps_loaded (sound : Workspace.Sound ⟨service.index, disk⟩) (root : Text) :
    Keeps service (service.loaded disk root) :=
  fun _ _ held => Index.get?_ensureLoaded sound.named held

/-- A stylesheet of a root has an entry under its own path, which lies below the root. -/
theorem held_of_mem_filesUnder (keyed : service.index.Keyed) {entry : Entry}
    (listed : entry ∈ service.index.filesUnder root) :
    Normal entry.path ∧ names (Path.absolute service.index.place root) <+: names entry.path ∧
      service.index.entries.get? entry.path = some entry := by
  obtain ⟨path, held, under⟩ := (Index.mem_filesUnder_iff _ _ _).1 listed
  obtain ⟨normal, rfl⟩ := keyed path entry held
  exact ⟨normal, (Path.normal_absolute _ root).prefix_of_isUnder under, held⟩

/-- A stylesheet of a root lies below it and holds the bytes of its text. -/
theorem of_mem_filesUnder (sound : Workspace.Sound ⟨service.index, disk⟩) {entry : Entry}
    (listed : entry ∈ service.index.filesUnder root) :
    Normal entry.path ∧ names (Path.absolute service.index.place root) <+: names entry.path ∧
      disk.bytes? (names entry.path) = some (Utf8.bytes entry.content) ∧
      service.index.parse entry.content = .ok entry.rules := by
  obtain ⟨normal, under, held⟩ := held_of_mem_filesUnder sound.current.keyed listed
  obtain ⟨_, bytes, parsed, _⟩ :=
    Index.readEntry_eq_ok_iff.1 (sound.current entry.path entry held).2
  exact ⟨normal, under, Disk.bytes?_of_read normal bytes, parsed⟩

/-- A file below a root is the one that its path from the root names. -/
theorem fileAt_relative (place : Place) (normal : Normal path)
    (under : names (Path.absolute place root) <+: names path) :
    fileAt place root (Path.relative path (Path.absolute place root)) = names path :=
  Path.names_absolute_append_relative place (Path.normal_absolute place root) normal under

/-- The new stylesheet of a root lies below it, under its own name. -/
theorem names_newFile (service : Service) (disk : Disk) (root : Text) :
    names (Workspace.newFile ⟨service.index, disk⟩ root) =
      names (Path.absolute service.index.place root) ++ [Workspace.newFileName] :=
  (Path.normal_absolute service.index.place root).names_append (by simp)
    Workspace.isName_newFileName

/-- The new stylesheet of a root has the separators of the root at its front. -/
theorem leading_newFile (service : Service) (disk : Disk) (root : Text) :
    Path.leading (Workspace.newFile ⟨service.index, disk⟩ root) =
      Path.leading (Path.absolute service.index.place root) :=
  (Path.normal_absolute service.index.place root).leading_append (by simp)
    Workspace.isName_newFileName

/-- The new stylesheet of a root is named by its own name from there. -/
theorem fileAt_newFileName (service : Service) (disk : Disk) (root : Text) :
    fileAt service.index.place root Workspace.newFileName =
      names (Workspace.newFile ⟨service.index, disk⟩ root) := by
  have normal := Workspace.normal_newFile ⟨service.index, disk⟩ root
  rw [← normal.absolute_eq service.index.place]
  rfl

/-- A disk on which one file was written differs at the trail of that file. -/
theorem differsAt_of_wrote {before after : Disk} {place : Place}
    (wrote : before.Wrote place path bytes after) : DiffersAt before after (names path) :=
  fun trail other => by rw [wrote.node?_eq, if_neg other]

/-- The block of a match is replaced in the bytes of the text that its rule was read from. -/
theorem rewrites_block {found : Match.Found} {rules : List Rule}
    (matched : service.match? event root = some found)
    (parsed : service.index.parse content = .ok rules) (stated : found.rule ∈ rules) :
    Rewrites service event root (some (Utf8.bytes content))
      (Utf8.bytes (Workspace.splice content found.rule
        (Rule.write found.rule.selector (event.changes.applyTo found.rule.properties)))) := by
  have ordered : found.rule.start.toNat ≤ found.rule.stop.toNat := by
    have := found.rule.ordered
    omega
  rw [← encode_span content ordered, Workspace.splice, Utf8.bytes_append, Utf8.bytes_append]
  exact .block found content rules matched parsed stated

/-- A slot is a file below its root. -/
theorem of_slot (keyed : service.index.Keyed)
    (slot : Workspace.Slot ⟨service.index, disk⟩ root path content) :
    Normal path ∧ names (Path.absolute service.index.place root) <+: names path := by
  have new : Normal (Workspace.newFile ⟨service.index, disk⟩ root) ∧
      names (Path.absolute service.index.place root) <+:
        names (Workspace.newFile ⟨service.index, disk⟩ root) := by
    rw [names_newFile]
    exact ⟨Workspace.normal_newFile _ root, List.prefix_append _ _⟩
  cases slot with
  | known entry longest =>
    obtain ⟨normal, under, _⟩ :=
      held_of_mem_filesUnder keyed (Index.mem_filesUnder_of_largest? longest)
    exact ⟨normal, under⟩
  | noticed entry overlooked => exact new
  | new bare => exact new

/-- The file that an event is to write lies below its root. -/
theorem Intends.under (intends : Intends service disk event root path content)
    (keyed : service.index.Keyed) :
    names (Path.absolute service.index.place root) <+: names path := by
  cases intends with
  | revised found entry matched listed file stated =>
    exact (held_of_mem_filesUnder keyed listed).2.1
  | extended _ _ unmatched slot => exact (of_slot keyed slot).2

/-- A new rule follows the bytes of its file, if the longest stylesheet holds those of its entry. -/
theorem rewrites_slot (unmatched : service.match? event root = none)
    (slot : Workspace.Slot ⟨service.index, disk⟩ root path content)
    (held : ∀ entry, service.index.largest? root = some entry → entry.path = path →
      disk.bytes? (names path) = some (Utf8.bytes entry.content)) :
    Rewrites service event root (disk.bytes? (names path))
      (Utf8.bytes (content ++ Workspace.appendix event.newSelector event.changes)) := by
  rw [Utf8.bytes_append]
  cases slot with
  | known entry longest =>
    rw [held entry longest rfl]
    exact .appended _ unmatched
  | noticed entry overlooked =>
    obtain ⟨_, read, _⟩ := Index.readEntry_eq_ok_iff.1 overlooked.read
    have bytes : disk.bytes? (names (Workspace.newFile ⟨service.index, disk⟩ root)) = _ :=
      Disk.bytes?_of_read (Workspace.normal_newFile _ root) read
    rw [bytes]
    exact .appended _ unmatched
  | new bare =>
    have fresh : disk.node? (names (Workspace.newFile ⟨service.index, disk⟩ root)) = none :=
      bare.fresh
    rw [Disk.bytes?, fresh]
    exact .founded unmatched bare.unlisted

/-- Storing the entry of a new stylesheet keeps the entries of a root that had none. -/
theorem keeps_store {before after : Service}
    (bare : before.index.largest? root = none) {entry : Entry}
    (file : entry.path = Workspace.newFile ⟨before.index, disk⟩ root)
    (index : after.index = before.index.store entry) : Keeps before after := by
  intro path known held
  rw [index, Index.get?_store_of_ne, held]
  rintro rfl
  have under : Path.isUnder entry.path (Path.absolute before.index.place root) = true := by
    rw [file]
    exact (Path.normal_absolute before.index.place root).isUnder_append (by simp)
      Workspace.isName_newFileName
  have listed := (Index.mem_filesUnder_iff before.index root known).2 ⟨_, held, under⟩
  rw [Index.largest?_eq_none_iff] at bare
  rw [bare] at listed
  simp at listed

/-- An index that gains an entry for a root that had none keeps the others. -/
theorem keeps_of_gains {before after : Service}
    (gains : Workspace.Gains ⟨before.index, disk⟩ root path after.index) :
    Keeps before after := by
  cases gains with
  | none same _ =>
    intro other entry held
    rw [same]
    exact held
  | entry content rules file unlisted writable parsed old stored =>
    exact keeps_store unlisted file stored

/-- One service keeps what another one keeps. -/
theorem Keeps.trans {first second third : Service} (one : Keeps first second)
    (two : Keeps second third) : Keeps first third :=
  fun path entry held => two path entry (one path entry held)

/-- A service with the same index keeps every entry. -/
theorem keeps_of_index_eq {before after : Service} (same : after.index = before.index) :
    Keeps before after := by
  intro path entry held
  rw [same]
  exact held

section

variable {effect : Effect PatchResult}

/-- An event that rewrites a file below its root and then names it is contained. -/
theorem contained_applied {patched : Patched}
    (resolved : service.resolveRoot disk event.domain event.target = .ok root)
    (normal : Normal path) (under : names (Path.absolute service.index.place root) <+: names path)
    (file : patched.file = Path.relative path (Path.absolute service.index.place root))
    (wrote : disk.Wrote service.index.place path bytes effect.disk)
    (rewrites : Rewrites (service.loaded disk root) event root (disk.bytes? (names path)) bytes)
    (answer : effect.answer = .applied patched) : Contained service disk event effect := by
  have goal : fileAt service.index.place root patched.file = names path := by
    rw [file, fileAt_relative service.index.place normal under]
  refine .applied patched root bytes answer resolved ?_ ?_ ?_ ?_
  · rw [goal]
    exact under
  · rw [goal]
    exact differsAt_of_wrote wrote
  · rw [goal]
    exact wrote.bytes?_self
  · rw [goal]
    exact rewrites

/-- An event that leaves a new stylesheet without rules is contained. -/
theorem contained_started {error : Text} {reason : Reason}
    (resolved : service.resolveRoot disk event.domain event.target = .ok root)
    (bare : Workspace.Bare ⟨(service.loaded disk root).index, disk⟩ root)
    (wrote : disk.Wrote service.index.place
      (Workspace.newFile ⟨(service.loaded disk root).index, disk⟩ root)
      (Utf8.bytes Workspace.newFileHeader) effect.disk)
    (kept : Keeps service effect.service) (answer : effect.answer = .failed error reason)
    (cause : (reason = .writeFailure ∧ ∃ refusal, some refusal ∈ disk.verdicts) ∨
      (reason = .parseFailure ∧
        ∃ detail, service.index.parse Workspace.newFileHeader = .error detail)) :
    Contained service disk event effect := by
  have goal := fileAt_newFileName (service.loaded disk root) disk root
  rw [loaded_place] at goal
  refine .started error reason root answer kept cause resolved ?_ ?_ ?_ ?_
  · exact (Index.largest?_eq_none_iff _ _).1 bare.unlisted
  · rw [goal]
    exact bare.fresh
  · rw [goal]
    exact differsAt_of_wrote wrote
  · rw [goal]
    exact wrote.bytes?_self

variable {outcome : Except Fault Patched} {workspace : Workspace}

/-- What rewriting the block of a match in a loaded root comes to is contained. -/
theorem contained_of_updates (sound : Workspace.Sound ⟨service.index, disk⟩)
    (resolved : service.resolveRoot disk event.domain event.target = .ok root)
    {found : Match.Found} {entry : Entry}
    (matched : (service.loaded disk root).match? event root = some found)
    (listed : entry ∈ (service.loaded disk root).index.filesUnder root)
    (file : entry.path = found.file) (stated : found.rule ∈ entry.rules)
    (step : Workspace.Updates ⟨(service.loaded disk root).index, disk⟩ entry found.rule
      event.changes (outcome, workspace))
    (answer : effect.answer = resultOf (outcome.map fun patched =>
      { patched with
        file := Path.relative patched.file (Path.absolute service.index.place root) }))
    (index : effect.service.index = workspace.index) (last : effect.disk = workspace.disk) :
    Contained service disk event effect := by
  have settled : Workspace.Sound ⟨(service.loaded disk root).index, disk⟩ :=
    sound_ensureLoaded sound root
  have loaded := keeps_loaded sound root
  obtain ⟨normal, under, held, parsed⟩ := of_mem_filesUnder settled listed
  have known := (held_of_mem_filesUnder settled.current.keyed listed).2.2
  have rewrites := rewrites_block matched parsed stated
  rw [← held] at rewrites
  rw [loaded_place] at under
  cases step with
  | refused fault after same _ =>
    exact .unchanged _ _ answer (loaded.trans (keeps_of_index_eq (index.trans same.index)))
      (last ▸ same.nodes)
  | emptied content refused after whole emptied =>
    subst whole
    have wrote := emptied.disk
    simp only [loaded_place, ← last] at wrote
    exact .emptied _ root entry.path _ answer
      (loaded.trans (keeps_of_index_eq (index.trans emptied.index))) resolved under
      (differsAt_of_wrote wrote) wrote.bytes?_self
      (.revised found entry matched listed file stated) emptied.surrogates
  | unread content fault after whole filed unread =>
    have open_ := Disk.isReadable_of_read normal
      (Index.readEntry_eq_ok_iff.1 (settled.current entry.path entry known).2).2.1
    cases unread with
    | closed _ closed => simp [open_] at closed
    | unruly detail unruly =>
      have wrote := filed.disk
      simp only [loaded_place, loaded_parse, ← last] at wrote unruly
      rw [← whole] at rewrites
      exact .unread _ root content detail _ answer
        (loaded.trans (keeps_of_index_eq (index.trans filed.index))) resolved under
        (differsAt_of_wrote wrote) wrote.bytes?_self rewrites unruly
  | written content after whole wrote =>
    have wrote := wrote.disk
    simp only [loaded_place, ← last] at wrote
    rw [← whole] at rewrites
    exact contained_applied resolved normal under rfl wrote rewrites answer

/-- What appending a rule in a loaded root comes to is contained. -/
theorem contained_of_creates (sound : Workspace.Sound ⟨service.index, disk⟩)
    (resolved : service.resolveRoot disk event.domain event.target = .ok root)
    (unmatched : (service.loaded disk root).match? event root = none)
    (step : Workspace.Creates ⟨(service.loaded disk root).index, disk⟩ event.newSelector
      event.changes root (outcome, workspace))
    (answer : effect.answer = resultOf (outcome.map fun patched =>
      { patched with
        file := Path.relative patched.file (Path.absolute service.index.place root) }))
    (index : effect.service.index = workspace.index) (last : effect.disk = workspace.disk) :
    Contained service disk event effect := by
  have settled : Workspace.Sound ⟨(service.loaded disk root).index, disk⟩ :=
    sound_ensureLoaded sound root
  have loaded := keeps_loaded sound root
  have rewrites : ∀ {path content : Text},
      Workspace.Slot ⟨(service.loaded disk root).index, disk⟩ root path content →
      Rewrites (service.loaded disk root) event root (disk.bytes? (names path))
        (Utf8.bytes (content ++ Workspace.appendix event.newSelector event.changes)) :=
    fun slot => rewrites_slot unmatched slot fun entry longest same =>
      same ▸ (of_mem_filesUnder settled (Index.mem_filesUnder_of_largest? longest)).2.2.1
  have present : ∀ path entry, service.index.entries.get? path = some entry →
      ∃ bytes, disk.read service.index.place path = .ok bytes := fun path entry held =>
    ⟨_, (Index.readEntry_eq_ok_iff.1 (sound.current path entry held).2).2.1⟩
  cases step with
  | empty given =>
    exact .unchanged _ _ answer (loaded.trans (keeps_of_index_eq index)) (last ▸ rfl)
  | refused fault after same _ =>
    exact .unchanged _ _ answer (loaded.trans (keeps_of_index_eq (index.trans same.index)))
      (last ▸ same.nodes)
  | unreadHeader detail after bare filed unruly =>
    have wrote := filed.disk
    simp only [loaded_place, loaded_parse, ← last] at wrote unruly
    exact contained_started resolved bare wrote
      (loaded.trans (keeps_of_index_eq (index.trans filed.index))) answer
      (.inr ⟨rfl, detail, unruly⟩)
  | started refusal after bare wrote refused =>
    obtain ⟨rules, _, stored⟩ := wrote.index
    have wrote := wrote.disk
    simp only [loaded_place, ← last] at wrote
    exact contained_started resolved bare wrote
      (loaded.trans (keeps_store bare.unlisted rfl (index.trans stored))) answer
      (.inl ⟨rfl, refusal, refused⟩)
  | noticed entry fault after overlooked stored nodes =>
    exact .unchanged _ _ answer
      (loaded.trans (keeps_store overlooked.unlisted (Index.path_of_readEntry overlooked.read)
        (index.trans stored))) (last ▸ nodes)
  | emptied path content refused after slot surrogates wrote gains =>
    obtain ⟨normal, under⟩ := of_slot settled.current.keyed slot
    simp only [loaded_place, ← last] at wrote
    rw [loaded_place] at under
    rw [← index] at gains
    exact .emptied _ root path _ answer (loaded.trans (keeps_of_gains gains)) resolved under
      (differsAt_of_wrote wrote) wrote.bytes?_self (.extended path content unmatched slot)
        surrogates
  | unread path content fault after slot given wrote gains unread =>
    obtain ⟨normal, under⟩ := of_slot settled.current.keyed slot
    cases unread with
    | closed _ closed =>
      simp [isReadable_of_slot sound.named sound.current.keyed present slot] at closed
    | unruly detail unruly =>
      simp only [loaded_place, loaded_parse, ← last] at wrote unruly
      rw [loaded_place] at under
      rw [← index] at gains
      exact .unread _ root _ detail _ answer (loaded.trans (keeps_of_gains gains)) resolved under
        (differsAt_of_wrote wrote) wrote.bytes?_self (rewrites slot) unruly
  | written path content after slot given wrote =>
    obtain ⟨normal, under⟩ := of_slot settled.current.keyed slot
    have wrote := wrote.disk
    simp only [loaded_place, ← last] at wrote
    rw [loaded_place] at under
    exact contained_applied resolved normal under rfl wrote (rewrites slot) answer

/-- What patching a loaded root comes to is contained. -/
theorem contained_of_patches (sound : Workspace.Sound ⟨service.index, disk⟩)
    (resolved : service.resolveRoot disk event.domain event.target = .ok root)
    (step : Patches (service.loaded disk root) disk event root (outcome, workspace))
    (answer : effect.answer = resultOf (outcome.map fun patched =>
      { patched with
        file := Path.relative patched.file (Path.absolute service.index.place root) }))
    (index : effect.service.index = workspace.index) (last : effect.disk = workspace.disk) :
    Contained service disk event effect := by
  cases step with
  | updated found entry _ matched listed file stated step =>
    exact contained_of_updates sound resolved matched listed file stated step answer index last
  | created _ unmatched step =>
    exact contained_of_creates sound resolved unmatched step answer index last

end

/-- What applying an event comes to is contained. -/
theorem contained_applyEvent (sound : Workspace.Sound ⟨service.index, disk⟩) (event : Event) :
    Contained service disk event (service.applyEvent disk event) := by
  cases resolved : service.resolveRoot disk event.domain event.target with
  | error fault =>
    have run : service.run disk event = { answer := .error fault, service, disk } := by
      rw [run, resolved]
    rw [applyEvent, run]
    exact .unchanged _ _ rfl (fun _ _ held => held) rfl
  | ok root =>
    obtain ⟨answer, index, last⟩ := service.applyEvent_eq resolved
    rw [loaded_place] at answer
    exact contained_of_patches sound resolved
      (patches_loaded sound.named sound.current.keyed event root) answer index last

/-- Whatever is applied to a service whose entries are current, an event or a value that should
state one, comes to what is contained; a value that states no event changes nothing. -/
theorem apply_contained (service : Service) (disk : Disk) (named : disk.Named)
    (current : service.index.Current disk) :
    (∀ event, Contained service disk event (service.applyEvent disk event)) ∧
    ∀ value, (∃ event, Event.ofJson service.index.place.rooms value = .ok event ∧
        Contained service disk event (service.applyJson disk value)) ∨
      (∃ fault error reason, Event.ofJson service.index.place.rooms value = .error fault ∧
        (service.applyJson disk value).answer = .failed error reason ∧
        (service.applyJson disk value).service = service ∧
        (service.applyJson disk value).disk = disk) := by
  refine ⟨contained_applyEvent ⟨named, current⟩, fun value => ?_⟩
  rw [applyJson]
  cases stated : Event.ofJson service.index.place.rooms value with
  | ok event => exact .inl ⟨event, rfl, contained_applyEvent ⟨named, current⟩ event⟩
  | error fault => exact .inr ⟨fault, _, _, rfl, rfl, rfl, rfl⟩

/-- An event of a configured project rewrites a block between characters of two bytes. -/
theorem apply_contained_configured :
    let place : Place := ⟨"/w".toText, "/h".toText, [], {}⟩
    let disk := Disk.empty.put ["p".toText, "a.css".toText]
      (.file (Utf8.bytes "/*é*/\r\n.a\x7bx:ü\x7d/*é*/".toText) true)
    let service := ((Service.new place {} none).configure disk (.string "/p".toText) []).service
    let event : Event :=
      { selector := ".a".toText, changes := .ofList [("x".toText, ⟨some "ö".toText, none⟩)] }
    disk.Named ∧ service.index.Current disk ∧
      (service.applyEvent disk event).answer =
        .applied ⟨"a.css".toText, ".a".toText, ["x".toText], false⟩ ∧
      Contained service disk event (service.applyEvent disk event) := by
  intro place disk service event
  have named : disk.Named := by decide +kernel
  have current : service.index.Current disk :=
    Index.current_loadRoot named (Index.current_clear _ disk)
  exact ⟨named, current, by decide +kernel, (apply_contained service disk named current).1 event⟩

/-- A failure may leave a changed file, in a service whose reader finds no rules in the text that
was written; a new one, where the disk refuses the second of two writes; and an empty one, where the
value of a change is a surrogate. -/
theorem apply_failed_writes :
    let place : Place := ⟨"/w".toText, "/h".toText, [], {}⟩
    let bare := Disk.empty.put ["p".toText] (.folder {})
    let disk := bare.put ["p".toText, "a.css".toText]
      (.file (Utf8.bytes ".a\x7bx:1\x7d".toText) true)
    let refusing : Disk := { bare with verdicts := [none, some ⟨28, none⟩] }
    let picky : Index :=
      { Index.new place with
        parse := fun text =>
          if text.contains 'z' then .error "no z".toText else .ok (Sheet.rules text) }
    let service : Service :=
      { config := {}, index := (picky.loadRoot disk "/p".toText).2, root := some "/p".toText }
    let plain : Service :=
      { config := {}, index := Index.new place, root := some "/p".toText }
    let usual : Service := { plain with index := ((Index.new place).loadRoot disk "/p".toText).2 }
    let event : Event :=
      { selector := ".a".toText, changes := .ofList [("x".toText, ⟨some "z".toText, none⟩)] }
    let garbled : Event :=
      { event with changes := .ofList [("x".toText, ⟨some [.surrogate 0], none⟩)] }
    (disk.Named ∧ service.index.Current disk ∧
      (service.applyEvent disk event).answer.reason? = some .parseFailure ∧
      (service.applyEvent disk event).disk.bytes? ["p".toText, "a.css".toText] ≠
        disk.bytes? ["p".toText, "a.css".toText]) ∧
    (refusing.Named ∧ plain.index.Standard ∧ plain.index.Current refusing ∧
      (plain.applyEvent refusing event).answer.reason? = some .writeFailure ∧
      refusing.bytes? ["p".toText, "main.css".toText] = none ∧
      (plain.applyEvent refusing event).disk.bytes? ["p".toText, "main.css".toText] ≠ none) ∧
    usual.index.Standard ∧ usual.index.Current disk ∧
      (usual.applyEvent disk garbled).answer.reason? = some .internal ∧
      (usual.applyEvent disk garbled).disk.bytes? ["p".toText, "a.css".toText] = some [] := by
  intro place bare disk refusing picky service plain usual event garbled
  have named : disk.Named := by decide +kernel
  have loaded : (picky.loadRoot disk "/p".toText).2.Current disk :=
    Index.current_loadRoot named (Index.current_clear picky disk)
  have current : service.index.Current disk := by
    simp only [service]
    exact loaded
  have empty : plain.index.Current refusing := by
    simp only [plain]
    exact Index.current_clear (Index.new place) refusing
  obtain ⟨usually, standard⟩ : usual.index.Current disk ∧ usual.index.Standard := by
    simp only [usual]
    exact Index.loadRoot_new place named "/p".toText
  exact ⟨⟨named, current, by decide +kernel, by decide +kernel⟩,
    ⟨by decide +kernel, rfl, empty, by decide +kernel, by decide +kernel, by decide +kernel⟩,
    standard, usually, by decide +kernel, by decide +kernel⟩

end Restyle.Service
