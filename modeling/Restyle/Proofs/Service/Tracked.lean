import Restyle.Proofs.Disk.Tree
import Restyle.Proofs.Service.Configure
import Restyle.Proofs.Service.Contained
import Restyle.Proofs.Service.Writable

/-!
# Entries and files through a session

A session is a run of operations of a service, between which another program may edit stylesheets
that have an entry. A file strays from its entries when it is edited so, and when an event leaves it
empty because what it was to put there cannot be written. Through every session each entry stands
under a path in normal form and has the rules of its text, its file can be read, and a file that did
not stray since the service read or wrote it last has the text of one of its entries
(`Session.tracked_run`). Events whose texts can be written leave no file empty
(`Tracked.emptied_eq_nil`).
-/
namespace Restyle

namespace Service

open Restyle.Path (Normal names)

/-- An operation of a service. -/
inductive Operation where
  /-- Configure a project. -/
  | configure (path : Json) (mappings : List (Text × Json))
  /-- Apply an event. -/
  | applyEvent (event : Event)
  /-- Apply the event that a value states. -/
  | applyJson (value : Json)

namespace Operation

/-- The event that an operation applies. -/
def event? (rooms : Json.Rooms) : Operation → Option Event
  | .configure _ _ => none
  | .applyEvent event => some event
  | .applyJson value => (Event.ofJson rooms value).toOption

/-- The service and the disk after an operation. -/
def run (service : Service) (disk : Disk) : Operation → Service × Disk
  | .configure path mappings =>
    let effect := service.configure disk path mappings
    (effect.service, effect.disk)
  | .applyEvent event =>
    let effect := service.applyEvent disk event
    (effect.service, effect.disk)
  | .applyJson value =>
    let effect := service.applyJson disk value
    (effect.service, effect.disk)

/-- Whether an operation reads or writes a file anew that has an entry: configuring a project reads
all files, and an event that is applied writes one. -/
def renews (service : Service) (disk : Disk) (operation : Operation) (trail : Trail) : Bool :=
  match operation, operation.event? service.index.place.rooms with
  | .configure path mappings, _ => (service.configure disk path mappings).answer.isOk
  | _, none => false
  | _, some event =>
    match service.resolveRoot disk event.domain event.target,
      (service.applyEvent disk event).answer with
    | .ok root, .applied patched => trail == fileAt service.index.place root patched.file
    | _, _ => false

/-- The files that an operation leaves empty. -/
def emptied (service : Service) (disk : Disk) (operation : Operation) : List Trail :=
  let after := (operation.run service disk).2
  after.nodes.keys.filter fun trail =>
    after.bytes? trail == some [] && disk.bytes? trail != some []

/-- A file is left empty when it is empty and was not before. -/
theorem mem_emptied_iff {service : Service} {disk : Disk} {operation : Operation} {trail : Trail} :
    trail ∈ operation.emptied service disk ↔
      (operation.run service disk).2.bytes? trail = some [] ∧ disk.bytes? trail ≠ some [] := by
  rw [emptied, List.mem_filter, Bool.and_eq_true, beq_iff_eq, bne_iff_ne, and_iff_right_iff_imp]
  rintro ⟨empty, _⟩
  refine Disk.mem_keys_of_node? ?_ ?_
  · rintro rfl
    simp [Disk.bytes?, Disk.node?] at empty
  · rw [Disk.bytes?] at empty
    split at empty
    · rename_i held
      rw [held]
      rfl
    · simp at empty

/-- An event that fails reads and writes nothing anew that has an entry. -/
theorem renews_of_failed {service : Service} {disk : Disk} {event : Event} {error : Text}
    {reason : Reason} (answer : (service.applyEvent disk event).answer = .failed error reason)
    (trail : Trail) : (Operation.applyEvent event).renews service disk trail = false := by
  simp only [renews, event?, answer]
  split <;> simp_all

/-- An event that is applied writes the file below its root that its result names. -/
theorem renews_of_applied {service : Service} {disk : Disk} {event : Event} {root path : Text}
    {patched : Patched}
    (resolved : service.resolveRoot disk event.domain event.target = .ok root)
    (answer : (service.applyEvent disk event).answer = .applied patched)
    (file : patched.file = Path.relative path (Path.absolute service.index.place root))
    (normal : Normal path)
    (under : names (Path.absolute service.index.place root) <+: names path) (trail : Trail) :
    (Operation.applyEvent event).renews service disk trail = (trail == names path) := by
  simp only [renews, event?, resolved, answer, file, fileAt_relative _ normal under]

/-- Applying a value is applying the event that it states. -/
theorem applyJson_eq {service : Service} (disk : Disk) {value : Json} {event : Event}
    (stated : Event.ofJson service.index.place.rooms value = .ok event) :
    (Operation.applyJson value).run service disk = (Operation.applyEvent event).run service disk ∧
      (Operation.applyJson value).emptied service disk =
        (Operation.applyEvent event).emptied service disk ∧
      ∀ trail, (Operation.applyJson value).renews service disk trail =
        (Operation.applyEvent event).renews service disk trail := by
  have same : (Operation.applyJson value).run service disk =
      (Operation.applyEvent event).run service disk := by
    simp only [run, Service.applyJson, stated]
  refine ⟨same, by rw [emptied, emptied, same], fun trail => ?_⟩
  simp only [renews, event?, stated, Except.toOption]

/-- The event that an operation applies, if it does, has texts that can be written. -/
def Encodable (place : Place) (operation : Operation) : Prop :=
  ∀ event, operation.event? place.rooms = some event → event.Encodable

end Operation

/-- What a session consists of. -/
inductive Action where
  /-- An operation of the service. -/
  | operate (operation : Operation)
  /-- Another program gives a file new bytes. -/
  | edit (path : Text) (bytes : List UInt8)

/-- A service, the disk, and the files that strayed from their entries since the service read or
wrote them last: another program edited them, or an event left them empty. -/
structure Session where
  /-- The service. -/
  service : Service
  /-- The disk. -/
  disk : Disk
  /-- The trails of these files. -/
  strayed : List Trail := []

namespace Session

/-- A new service on a disk. -/
def start (place : Place) (config : Config) (disk : Disk) : Session :=
  { service := .new place config none, disk }

/-- What an action makes of a session. Only a stylesheet that has an entry is strayed. -/
def after (session : Session) : Action → Session
  | .operate operation =>
    let next := operation.run session.service session.disk
    { service := next.1
      disk := next.2
      strayed := operation.emptied session.service session.disk ++
        session.strayed.filter fun trail =>
          !operation.renews session.service session.disk trail }
  | .edit path bytes =>
    if session.service.index.entries.contains path then
      { session with
        disk := session.disk.fill (names path) bytes
        strayed := names path :: session.strayed }
    else session

/-- What actions make of a session, one after the other. -/
def run (session : Session) (actions : List Action) : Session := actions.foldl after session

end Session

/-- The entries of a service and their files, when some files strayed from them. -/
structure Tracked (service : Service) (disk : Disk) (strayed : List Trail) : Prop where
  /-- Names on the disk are proper. -/
  named : disk.Named
  /-- Rules are read in the standard way. -/
  standard : service.index.Standard
  /-- Every entry stands under its own path. -/
  keyed : service.index.Keyed
  /-- Every entry has the rules of its text. -/
  ruled : ∀ path entry, service.index.entries.get? path = some entry →
    entry.rules = Sheet.rules entry.content
  /-- Every entry has a text that can be written. -/
  writable : ∀ path entry, service.index.entries.get? path = some entry →
    Utf8.Writable entry.content
  /-- The file of every entry can be read. -/
  present : ∀ path entry, service.index.entries.get? path = some entry →
    ∃ bytes, disk.read service.index.place path = .ok bytes
  /-- A file that did not stray has the text of one of its entries. -/
  fresh : ∀ path entry, service.index.entries.get? path = some entry → names path ∉ strayed →
    ∃ twin entry', service.index.entries.get? twin = some entry' ∧ names twin = names path ∧
      disk.read service.index.place twin = .ok (Utf8.bytes entry'.content)

variable {service after : Service} {disk disk' : Disk} {strayed : List Trail}
  {root path content lead : Text} {event : Event}

/-- Configuring a project leaves where paths are read from. -/
theorem configure_place (service : Service) (disk : Disk) (path : Json)
    (mappings : List (Text × Json)) :
    (service.configure disk path mappings).service.index.place = service.index.place := by
  have done := service.configures disk path mappings
  generalize service.configure disk path mappings = effect at done ⊢
  cases done with
  | refused fault => rfl
  | configured root known count notices rooted mapped =>
    obtain ⟨entries, shape⟩ := service.index.clear.loadRoot_eq disk root
    simp only [shape]
    rfl

/-- A service without entries is tracked. -/
theorem tracked_of_empty (named : disk.Named) (standard : service.index.Standard)
    (none : ∀ path, service.index.entries.get? path = none) (strayed : List Trail) :
    Tracked service disk strayed := by
  refine ⟨named, standard, ?_, ?_, ?_, ?_, ?_⟩
  all_goals
    intro path entry held
    simp [none] at held

namespace Tracked

/-- When more files may have strayed an index is still tracked. -/
theorem mono (tracked : Tracked service disk strayed) {more : List Trail}
    (known : ∀ trail ∈ strayed, trail ∈ more) : Tracked service disk more :=
  { tracked with
    fresh := fun path entry held untouched =>
      tracked.fresh path entry held fun listed => untouched (known _ listed) }

/-- Where nothing was written the entries are still tracked. -/
theorem of_untouched (tracked : Tracked service disk strayed)
    (same : Workspace.Untouched ⟨service.index, disk⟩ ⟨after.index, disk'⟩) :
    Tracked after disk' strayed := by
  obtain ⟨index, nodes⟩ := same
  simp only at index nodes
  refine ⟨?_, ?_, ?_, ?_, ?_, ?_, ?_⟩
  · rw [Disk.Named, nodes]
    exact tracked.named
  · rw [index]
    exact tracked.standard
  · rw [index]
    exact tracked.keyed
  · rw [index]
    exact tracked.ruled
  · rw [index]
    exact tracked.writable
  · simp only [index, Disk.read_congr nodes]
    exact tracked.present
  · simp only [index, Disk.read_congr nodes]
    exact tracked.fresh

/-- An entry that was read from its file is tracked with the others. -/
theorem of_read (tracked : Tracked service disk strayed)
    (place : after.index.place = service.index.place)
    (parse : after.index.parse = service.index.parse)
    (kept : ∀ path entry, service.index.entries.get? path = some entry →
      after.index.entries.get? path = some entry)
    (known : ∀ path entry, after.index.entries.get? path = some entry →
      service.index.entries.get? path = some entry ∨
        Normal path ∧ service.index.readEntry disk path = .ok entry) :
    Tracked after disk strayed := by
  refine ⟨tracked.named, ?_, ?_, ?_, ?_, ?_, ?_⟩
  · rw [Index.Standard, parse]
    exact tracked.standard
  · intro path entry held
    rcases known path entry held with old | ⟨normal, read⟩
    · exact tracked.keyed path entry old
    · exact ⟨normal, Index.path_of_readEntry read⟩
  · intro path entry held
    rcases known path entry held with old | ⟨_, read⟩
    · exact tracked.ruled path entry old
    · have parsed := (Index.readEntry_eq_ok_iff.1 read).2.2.1
      rw [tracked.standard.parse_eq, Except.ok.injEq] at parsed
      exact parsed.symm
  · intro path entry held
    rcases known path entry held with old | ⟨_, read⟩
    · exact tracked.writable path entry old
    · exact (Index.readEntry_eq_ok_iff.1 read).2.2.2
  · intro path entry held
    rw [place]
    rcases known path entry held with old | ⟨_, read⟩
    · exact tracked.present path entry old
    · exact ⟨_, (Index.readEntry_eq_ok_iff.1 read).2.1⟩
  · intro path entry held untouched
    rw [place]
    rcases known path entry held with old | ⟨_, read⟩
    · obtain ⟨twin, entry', held', same, bytes⟩ := tracked.fresh path entry old untouched
      exact ⟨twin, entry', kept twin entry' held', same, bytes⟩
    · exact ⟨path, entry, held, rfl, (Index.readEntry_eq_ok_iff.1 read).2.1⟩

/-- Loading a root keeps the entries tracked. -/
theorem loaded (tracked : Tracked service disk strayed) (root : Text) :
    Tracked (service.loaded disk root) disk strayed := by
  refine tracked.of_read (by simp) (by simp) ?_ ?_
  · exact fun _ _ held => Index.get?_ensureLoaded tracked.named held
  · intro path entry held
    rcases Index.of_get?_ensureLoaded held with old | ⟨found, read⟩
    · exact .inl old
    · exact .inr ⟨(Index.of_mem_discover tracked.named found).1, read⟩

/-- Writing a file with its entry keeps the entries tracked, and that file is back with them. -/
theorem of_wrote (tracked : Tracked service disk strayed) (normal : Normal path)
    (wrote : Workspace.Wrote ⟨service.index, disk⟩ path content ⟨after.index, disk'⟩) :
    Tracked after disk' (strayed.filter (· != names path)) := by
  obtain ⟨place, parse⟩ := wrote.place_parse
  obtain ⟨rules, parsed, index⟩ := wrote.index
  have written := wrote.disk
  have read := wrote.read
  simp only at place parse parsed index written read
  rw [tracked.standard.parse_eq, Except.ok.injEq] at parsed
  subst parsed
  have stored : after.index.entries.get? path =
      some ⟨path, content, Sheet.rules content⟩ := by
    rw [index]
    exact Index.get?_store_self _ _
  have held : ∀ other entry, after.index.entries.get? other = some entry →
      other = path ∧ entry = ⟨path, content, Sheet.rules content⟩ ∨
        other ≠ path ∧ service.index.entries.get? other = some entry := by
    intro other entry held
    rw [index] at held
    exact Index.of_get?_store held
  refine ⟨written.named normal tracked.named, ?_, ?_, ?_, ?_, ?_, ?_⟩
  · rw [Index.Standard, parse]
    exact tracked.standard
  · intro other entry known
    rcases held other entry known with ⟨rfl, rfl⟩ | ⟨_, old⟩
    · exact ⟨normal, rfl⟩
    · exact tracked.keyed other entry old
  · intro other entry known
    rcases held other entry known with ⟨rfl, rfl⟩ | ⟨_, old⟩
    · rfl
    · exact tracked.ruled other entry old
  · intro other entry known
    rcases held other entry known with ⟨rfl, rfl⟩ | ⟨_, old⟩
    · exact wrote.writable
    · exact tracked.writable other entry old
  · intro other entry known
    rw [place]
    rcases held other entry known with ⟨rfl, rfl⟩ | ⟨_, old⟩
    · exact ⟨_, read⟩
    · obtain ⟨bytes, read⟩ := tracked.present other entry old
      exact ⟨_, written.read_eq (tracked.keyed other entry old).1 read⟩
  · intro other entry known untouched
    rw [place]
    -- an older entry of the written file keeps its text; the entry that was stored is its twin
    by_cases here : names other = names path
    · exact ⟨path, _, stored, here.symm, read⟩
    · rcases held other entry known with ⟨rfl, rfl⟩ | ⟨_, old⟩
      · exact absurd rfl here
      · have settled : names other ∉ strayed := fun listed =>
          untouched (List.mem_filter.2 ⟨listed, by simpa using here⟩)
        obtain ⟨twin, entry', held', same, read⟩ := tracked.fresh other entry old settled
        have apart : names twin ≠ names path := fun equal => here (same.symm.trans equal)
        refine ⟨twin, entry', ?_, same,
          written.read_of_ne (tracked.keyed twin entry' held').1 apart read⟩
        rw [index, Index.get?_store_of_ne, held']
        rintro rfl
        exact apart rfl

/-- A file with other bytes keeps the entries tracked when it counts as one that strayed. -/
theorem of_filled (tracked : Tracked service disk strayed) {bytes : List UInt8}
    (normal : Normal path) (wrote : disk.Wrote service.index.place path bytes disk') :
    Tracked service disk' (names path :: strayed) := by
  refine ⟨wrote.named normal tracked.named, tracked.standard, tracked.keyed, tracked.ruled,
    tracked.writable, ?_, ?_⟩
  · intro other entry' known
    obtain ⟨old, read⟩ := tracked.present other entry' known
    exact ⟨_, wrote.read_eq (tracked.keyed other entry' known).1 read⟩
  · intro other entry' known untouched
    rw [List.mem_cons, not_or] at untouched
    obtain ⟨twin, known', held', same, read⟩ :=
      tracked.fresh other entry' known untouched.2
    exact ⟨twin, known', held', same,
      wrote.read_of_ne (tracked.keyed twin known' held').1 (same ▸ untouched.1) read⟩

/-- An edit of a file with an entry keeps the entries tracked when the file counts as one that
strayed. -/
theorem of_edit (tracked : Tracked service disk strayed) {entry : Entry}
    (held : service.index.entries.get? path = some entry) (bytes : List UInt8) :
    Tracked service (disk.fill (names path) bytes) (names path :: strayed) := by
  have normal := (tracked.keyed path entry held).1
  obtain ⟨old, read⟩ := tracked.present path entry held
  exact tracked.of_filled normal (Disk.wrote_fill normal read bytes)

/-- Configuring a project keeps the entries tracked, and no file is an strayed one any more. -/
theorem configure (tracked : Tracked service disk strayed) (path : Json)
    (mappings : List (Text × Json)) :
    Tracked (service.configure disk path mappings).service
      (service.configure disk path mappings).disk
      (strayed.filter fun trail =>
        !(Operation.configure path mappings).renews service disk trail) := by
  have renews : ∀ trail, (Operation.configure path mappings).renews service disk trail =
      (service.configure disk path mappings).answer.isOk := fun _ => rfl
  have done := service.configures disk path mappings
  simp only [renews]
  generalize service.configure disk path mappings = effect at done ⊢
  cases done with
  | refused fault =>
    exact tracked.mono fun trail listed => List.mem_filter.2 ⟨listed, rfl⟩
  | configured root known count notices _ _ =>
    obtain ⟨entries, shape⟩ := service.index.clear.loadRoot_eq disk root
    have cleared : Tracked { service with index := service.index.clear } disk [] := by
      refine tracked_of_empty tracked.named ?_ (fun _ => rfl) []
      exact tracked.standard
    have all : strayed.filter (fun _ => !(Except.ok count : Except Fault Nat).isOk) = [] := by
      simp [Except.isOk, Except.toBool]
    rw [all]
    refine cleared.of_read ?_ ?_ ?_ ?_
    · rw [shape]
    · rw [shape]
    · intro path entry held
      simp [Index.clear] at held
    · intro path entry held
      rcases Index.of_get?_loadRoot held with old | ⟨found, read⟩
      · exact .inl old
      · exact .inr ⟨(Index.of_mem_discover tracked.named found).1, read⟩

/-- Storing an entry of a path without one keeps the entries tracked, if its file has the entry's
text or counts as one that strayed. -/
theorem of_stored (tracked : Tracked service disk strayed) (normal : Normal path)
    (stored : after.index = service.index.store ⟨path, content, Sheet.rules content⟩)
    (kept : Keeps service after) (writable : Utf8.Writable content) {bytes : List UInt8}
    (read : disk.read service.index.place path = .ok bytes)
    (fresh : names path ∉ strayed → bytes = Utf8.bytes content) :
    Tracked after disk strayed := by
  have held : ∀ other entry, after.index.entries.get? other = some entry →
      other = path ∧ entry = ⟨path, content, Sheet.rules content⟩ ∨
        other ≠ path ∧ service.index.entries.get? other = some entry := by
    intro other entry held
    rw [stored] at held
    exact Index.of_get?_store held
  have place : after.index.place = service.index.place := by
    rw [stored]
    rfl
  refine ⟨tracked.named, ?_, ?_, ?_, ?_, ?_, ?_⟩
  · rw [stored]
    exact tracked.standard
  · intro other entry known
    rcases held other entry known with ⟨rfl, rfl⟩ | ⟨_, old⟩
    · exact ⟨normal, rfl⟩
    · exact tracked.keyed other entry old
  · intro other entry known
    rcases held other entry known with ⟨rfl, rfl⟩ | ⟨_, old⟩
    · rfl
    · exact tracked.ruled other entry old
  · intro other entry known
    rcases held other entry known with ⟨rfl, rfl⟩ | ⟨_, old⟩
    · exact writable
    · exact tracked.writable other entry old
  · intro other entry known
    rw [place]
    rcases held other entry known with ⟨rfl, rfl⟩ | ⟨_, old⟩
    · exact ⟨bytes, read⟩
    · exact tracked.present other entry old
  · intro other entry known untouched
    rw [place]
    rcases held other entry known with ⟨rfl, rfl⟩ | ⟨_, old⟩
    · exact ⟨other, _, known, rfl, fresh untouched ▸ read⟩
    · obtain ⟨twin, entry', held', same, read⟩ := tracked.fresh other entry old untouched
      exact ⟨twin, entry', kept twin entry' held', same, read⟩

/-- Where an event leaves a file empty the entries are tracked when that file counts as one that
strayed, unless it was empty before. -/
theorem of_emptied (tracked : Tracked service disk strayed) (normal : Normal path)
    (open_ : disk.isReadable (names path) = true)
    (wrote : disk.Wrote service.index.place path [] disk')
    (gains : Workspace.Gains ⟨service.index, disk⟩ root path after.index)
    {more : List Trail} (all : ∀ trail ∈ strayed, trail ∈ more)
    (counted : disk.bytes? (names path) ≠ some [] → names path ∈ more) :
    Tracked after disk' more := by
  have kept := keeps_of_gains gains
  have read : disk'.read service.index.place path = .ok [] := wrote.readable open_
  -- the disk is one on which the entries from before are tracked
  have filled : Tracked service disk' more := by
    by_cases empty : disk.bytes? (names path) = some []
    · exact (tracked.mono all).of_untouched ⟨rfl, wrote.nodes_eq_of_bytes? empty⟩
    · refine (tracked.of_filled normal wrote).mono fun trail listed => ?_
      rcases List.mem_cons.1 listed with rfl | listed
      · exact counted empty
      · exact all trail listed
  cases gains with
  | none same _ => exact filled.of_untouched ⟨same, rfl⟩
  | entry content rules file unlisted writable parsed old stored =>
    simp only [tracked.standard.parse_eq, Except.ok.injEq] at parsed
    subst parsed
    refine filled.of_stored normal stored kept writable read fun settled => ?_
    have empty : disk.bytes? (names path) = some [] := of_not_not fun full => settled (counted full)
    exact old [] empty

/-- An entry that is made of a file that was overlooked is tracked with the others. -/
theorem of_noticed (tracked : Tracked service disk strayed) {entry : Entry}
    (overlooked : Workspace.Overlooked ⟨service.index, disk⟩ root entry)
    (stored : after.index = service.index.store entry) : Tracked after disk strayed := by
  have file := Index.path_of_readEntry overlooked.read
  refine tracked.of_read (by rw [stored]; rfl) (by rw [stored]; rfl)
    (keeps_store overlooked.unlisted file stored) fun path known held => ?_
  rw [stored] at held
  rcases Index.of_get?_store held with ⟨rfl, rfl⟩ | ⟨_, old⟩
  · rw [file]
    exact .inr ⟨Workspace.normal_newFile _ root, overlooked.read⟩
  · exact .inl old

/-- The file that an event is to write in a loaded root has a path in normal form, and may be read
or is a new one. -/
theorem of_intends (tracked : Tracked service disk strayed)
    (intends : Intends (service.loaded disk root) disk event root path content) :
    Normal path ∧ disk.isReadable (names path) = true := by
  have keyed := (tracked.loaded root).keyed
  cases intends with
  | revised found entry matched listed file stated =>
    exact ⟨(held_of_mem_filesUnder keyed listed).1,
      isReadable_of_mem_filesUnder tracked.named tracked.keyed tracked.present listed⟩
  | extended _ content unmatched slot =>
    exact ⟨(of_slot keyed slot).1,
      isReadable_of_slot tracked.named tracked.keyed tracked.present slot⟩

/-- Applying an event keeps the entries tracked: the file that it is applied to is back with them,
and one that it leaves empty strays. -/
theorem applyEvent (tracked : Tracked service disk strayed) (event : Event) :
    Tracked (service.applyEvent disk event).service (service.applyEvent disk event).disk
      ((Operation.applyEvent event).emptied service disk ++
        strayed.filter fun trail => !(Operation.applyEvent event).renews service disk trail) := by
  have failed : ∀ error reason, (service.applyEvent disk event).answer = .failed error reason →
      ∀ trail ∈ strayed, trail ∈ (Operation.applyEvent event).emptied service disk ++
        strayed.filter fun trail => !(Operation.applyEvent event).renews service disk trail := by
    intro error reason answer trail listed
    refine List.mem_append_right _ (List.mem_filter.2 ⟨listed, ?_⟩)
    rw [Operation.renews_of_failed answer]
    rfl
  have applied : ∀ path,
      (∀ trail, (Operation.applyEvent event).renews service disk trail = (trail == names path)) →
      ∀ trail ∈ strayed.filter (· != names path),
        trail ∈ (Operation.applyEvent event).emptied service disk ++
          strayed.filter fun trail => !(Operation.applyEvent event).renews service disk trail := by
    intro path renewed trail listed
    simp only [renewed]
    exact List.mem_append_right _ listed
  cases writes tracked.named tracked.keyed tracked.standard tracked.present event with
  | adrift error reason answer same => exact (tracked.of_untouched same).mono (failed _ _ answer)
  | still root error reason resolved answer same =>
    exact ((tracked.loaded root).of_untouched same).mono (failed _ _ answer)
  | started root error reason resolved answer bare wrote =>
    refine ((tracked.loaded root).of_wrote (Workspace.normal_newFile _ root) wrote).mono ?_
    exact fun trail listed => failed _ _ answer trail (List.mem_filter.1 listed).1
  | noticed root error reason entry resolved answer overlooked stored nodes =>
    have known : Tracked (service.applyEvent disk event).service disk strayed :=
      (tracked.loaded root).of_noticed overlooked stored
    have same : Workspace.Untouched ⟨(service.applyEvent disk event).service.index, disk⟩
        ⟨(service.applyEvent disk event).service.index, (service.applyEvent disk event).disk⟩ :=
      ⟨rfl, nodes⟩
    exact (known.of_untouched same).mono (failed _ _ answer)
  | emptied root path content error reason resolved answer intends surrogates wrote gains =>
    have loaded := tracked.loaded root
    have place : (service.loaded disk root).index.place = service.index.place :=
      loaded_place service disk root
    obtain ⟨normal, open_⟩ := tracked.of_intends intends
    refine loaded.of_emptied normal open_ (place.symm ▸ wrote) gains (failed _ _ answer)
      fun full => ?_
    exact List.mem_append_left _ (Operation.mem_emptied_iff.2 ⟨wrote.bytes?_self, full⟩)
  | revised root found entry resolved matched listed stated answer wrote =>
    obtain ⟨normal, under, _⟩ := held_of_mem_filesUnder (tracked.loaded root).keyed listed
    rw [loaded_place] at under
    exact ((tracked.loaded root).of_wrote normal wrote).mono
      (applied entry.path (Operation.renews_of_applied resolved answer rfl normal under))
  | extended root path content resolved unmatched slot answer wrote =>
    obtain ⟨normal, under⟩ := of_slot (tracked.loaded root).keyed slot
    rw [loaded_place] at under
    exact ((tracked.loaded root).of_wrote normal wrote).mono
      (applied path (Operation.renews_of_applied resolved answer rfl normal under))

/-- Every operation keeps the entries tracked. -/
theorem operate (tracked : Tracked service disk strayed) (operation : Operation) :
    Tracked (operation.run service disk).1 (operation.run service disk).2
      (operation.emptied service disk ++
        strayed.filter fun trail => !operation.renews service disk trail) := by
  cases operation with
  | configure path mappings =>
    exact (tracked.configure path mappings).mono fun trail listed =>
      List.mem_append_right _ listed
  | applyEvent event => exact tracked.applyEvent event
  | applyJson value =>
    cases stated : Event.ofJson service.index.place.rooms value with
    | ok event =>
      obtain ⟨run, emptied, renews⟩ := Operation.applyJson_eq disk stated
      simp only [run, emptied, renews]
      exact tracked.applyEvent event
    | error fault =>
      have renews : ∀ trail, (Operation.applyJson value).renews service disk trail = false := by
        intro trail
        simp only [Operation.renews, Operation.event?, stated, Except.toOption]
      simp only [Operation.run, applyJson, stated, renews]
      exact tracked.mono fun trail listed =>
        List.mem_append_right _ (List.mem_filter.2 ⟨listed, rfl⟩)

/-- An operation leaves where paths are read from. -/
theorem place_operate (tracked : Tracked service disk strayed) (operation : Operation) :
    (operation.run service disk).1.index.place = service.index.place := by
  have applied := fun event =>
    (writes tracked.named tracked.keyed tracked.standard tracked.present event).place_folders.1
  cases operation with
  | configure path mappings => exact service.configure_place disk path mappings
  | applyEvent event => exact applied event
  | applyJson value =>
    cases stated : Event.ofJson service.index.place.rooms value with
    | ok event =>
      rw [(Operation.applyJson_eq disk stated).1]
      exact applied event
    | error fault => simp only [Operation.run, Service.applyJson, stated]

/-- A file that is empty and that an event does not write anew stays empty. -/
theorem empty_applyEvent (tracked : Tracked service disk strayed) {trail : Trail}
    (kept : (Operation.applyEvent event).renews service disk trail = false)
    (empty : disk.bytes? trail = some []) :
    (service.applyEvent disk event).disk.bytes? trail = some [] := by
  have untouched : (service.applyEvent disk event).disk.nodes = disk.nodes →
      (service.applyEvent disk event).disk.bytes? trail = some [] := by
    intro same
    rwa [Disk.bytes?, Disk.node?_congr same]
  have elsewhere : ∀ {root path content}, trail ≠ names path →
      Workspace.Wrote ⟨(service.loaded disk root).index, disk⟩ path content
        ⟨(service.applyEvent disk event).service.index, (service.applyEvent disk event).disk⟩ →
      (service.applyEvent disk event).disk.bytes? trail = some [] := by
    intro root path content apart wrote
    rwa [Disk.bytes?, wrote.disk.node?_eq, if_neg apart]
  cases writes tracked.named tracked.keyed tracked.standard tracked.present event with
  | adrift error reason answer same => exact untouched same.nodes
  | still root error reason resolved answer same => exact untouched same.nodes
  | noticed root error reason entry resolved answer overlooked stored nodes =>
    exact untouched nodes
  | started root error reason resolved answer bare wrote =>
    refine elsewhere ?_ wrote
    rintro rfl
    simp [Disk.bytes?, bare.fresh] at empty
  | emptied root path content error reason resolved answer intends surrogates wrote gains =>
    rw [Disk.bytes?, wrote.node?_eq]
    by_cases here : trail = names path
    · rw [if_pos here]
    · rwa [if_neg here]
  | revised root found entry resolved matched listed stated answer wrote =>
    obtain ⟨normal, under, _⟩ := held_of_mem_filesUnder (tracked.loaded root).keyed listed
    rw [loaded_place] at under
    rw [Operation.renews_of_applied resolved answer rfl normal under, beq_eq_false_iff_ne] at kept
    exact elsewhere kept wrote
  | extended root path content resolved unmatched slot answer wrote =>
    obtain ⟨normal, under⟩ := of_slot (tracked.loaded root).keyed slot
    rw [loaded_place] at under
    rw [Operation.renews_of_applied resolved answer rfl normal under, beq_eq_false_iff_ne] at kept
    exact elsewhere kept wrote

/-- A file that is empty and that an operation does not write anew stays empty. -/
theorem empty_operate (tracked : Tracked service disk strayed) {operation : Operation}
    {trail : Trail} (kept : operation.renews service disk trail = false)
    (empty : disk.bytes? trail = some []) :
    (operation.run service disk).2.bytes? trail = some [] := by
  cases operation with
  | configure path mappings => rwa [Operation.run, configure_disk]
  | applyEvent event => exact tracked.empty_applyEvent kept empty
  | applyJson value =>
    cases stated : Event.ofJson service.index.place.rooms value with
    | ok event =>
      obtain ⟨run, _, renews⟩ := Operation.applyJson_eq disk stated
      rw [run]
      exact tracked.empty_applyEvent (renews trail ▸ kept) empty
    | error fault => simpa only [Operation.run, Service.applyJson, stated] using empty

/-- What an event with texts that can be written is to put into a file of a loaded root can be
written. -/
theorem writable_of_intends (tracked : Tracked service disk strayed) (encodable : event.Encodable)
    (intends : Intends (service.loaded disk root) disk event root path content) :
    Utf8.Writable content := by
  have loaded := tracked.loaded root
  refine intends.writable encodable fun entry listed => ?_
  obtain ⟨_, _, held⟩ := held_of_mem_filesUnder loaded.keyed listed
  exact ⟨loaded.writable _ entry held, loaded.ruled _ entry held⟩

/-- An event with texts that can be written leaves no file empty that was not. -/
theorem empty_of_applyEvent (tracked : Tracked service disk strayed) (encodable : event.Encodable)
    {trail : Trail} (empty : (service.applyEvent disk event).disk.bytes? trail = some []) :
    disk.bytes? trail = some [] := by
  have untouched : (service.applyEvent disk event).disk.nodes = disk.nodes →
      disk.bytes? trail = some [] := by
    intro same
    rwa [Disk.bytes?, Disk.node?_congr same] at empty
  cases writes tracked.named tracked.keyed tracked.standard tracked.present event with
  | adrift error reason answer same => exact untouched same.nodes
  | still root error reason resolved answer same => exact untouched same.nodes
  | noticed root error reason entry resolved answer overlooked stored nodes =>
    exact untouched nodes
  | started root error reason resolved answer bare wrote =>
    exact wrote.empty_of_empty (by decide) empty
  | emptied root path content error reason resolved answer intends surrogates wrote gains =>
    exact absurd (tracked.writable_of_intends encodable intends) surrogates
  | revised root found entry resolved matched listed stated answer wrote file =>
    have intends : Intends (service.loaded disk root) disk event root entry.path _ :=
      .revised found entry matched listed file stated
    exact wrote.empty_of_empty intends.ne_nil empty
  | extended root path content resolved unmatched slot answer wrote =>
    exact wrote.empty_of_empty (Intends.extended path content unmatched slot).ne_nil empty

/-- An operation with texts that can be written leaves no file empty that was not. -/
theorem emptied_eq_nil (tracked : Tracked service disk strayed) {operation : Operation}
    (encodable : operation.Encodable service.index.place) :
    operation.emptied service disk = [] := by
  have still : ∀ trail, (operation.run service disk).2.bytes? trail = some [] →
      disk.bytes? trail = some [] := by
    intro trail empty
    cases operation with
    | configure path mappings =>
      rwa [Operation.run, configure_disk] at empty
    | applyEvent event => exact tracked.empty_of_applyEvent (encodable event rfl) empty
    | applyJson value =>
      cases stated : Event.ofJson service.index.place.rooms value with
      | ok event =>
        rw [(Operation.applyJson_eq disk stated).1] at empty
        refine tracked.empty_of_applyEvent (encodable event ?_) empty
        simp [Operation.event?, stated, Except.toOption]
      | error fault =>
        simpa only [Operation.run, Service.applyJson, stated] using empty
  refine List.eq_nil_iff_forall_not_mem.2 fun trail listed => ?_
  obtain ⟨empty, full⟩ := Operation.mem_emptied_iff.1 listed
  exact full (still trail empty)

end Tracked

namespace Session

/-- Every action keeps the entries of a session tracked. -/
theorem tracked_after {session : Session}
    (tracked : Tracked session.service session.disk session.strayed) (action : Action) :
    Tracked (session.after action).service (session.after action).disk
      (session.after action).strayed := by
  cases action with
  | operate operation => exact tracked.operate operation
  | edit path bytes =>
    rw [after]
    split
    · rename_i known
      obtain ⟨entry, held⟩ := Option.isSome_iff_exists.1 known
      exact tracked.of_edit held bytes
    · exact tracked

/-- Through every run of actions the entries of a session stay tracked. -/
theorem tracked_run {session : Session}
    (tracked : Tracked session.service session.disk session.strayed) (actions : List Action) :
    Tracked (session.run actions).service (session.run actions).disk
      (session.run actions).strayed := by
  induction actions generalizing session with
  | nil => exact tracked
  | cons action rest ih => exact ih (tracked_after tracked action)

end Session

/-- Where no other program edits a file, the files that strayed are empty. -/
theorem Session.empty_after {session : Session}
    (tracked : Tracked session.service session.disk session.strayed)
    (empty : ∀ trail ∈ session.strayed, session.disk.bytes? trail = some [])
    (operation : Operation) :
    ∀ trail ∈ (session.after (.operate operation)).strayed,
      (session.after (.operate operation)).disk.bytes? trail = some [] := by
  intro trail listed
  rcases List.mem_append.1 listed with fresh | old
  · exact (Operation.mem_emptied_iff.1 fresh).1
  · obtain ⟨known, kept⟩ := List.mem_filter.1 old
    exact tracked.empty_operate (by simpa using kept) (empty trail known)

/-- Through every run of operations the files that strayed are empty. -/
theorem Session.empty_run {session : Session}
    (tracked : Tracked session.service session.disk session.strayed)
    (empty : ∀ trail ∈ session.strayed, session.disk.bytes? trail = some [])
    (operations : List Operation) :
    ∀ trail ∈ (session.run (operations.map .operate)).strayed,
      (session.run (operations.map .operate)).disk.bytes? trail = some [] := by
  induction operations generalizing session with
  | nil => exact empty
  | cons operation rest ih =>
    exact ih (tracked_after tracked (.operate operation)) (empty_after tracked empty operation)

/-- Through every run of operations with texts that can be written no file strays. -/
theorem Session.strayed_run {session : Session} {place : Place}
    (tracked : Tracked session.service session.disk session.strayed) (none : session.strayed = [])
    (placed : session.service.index.place = place) {operations : List Operation}
    (encodable : ∀ operation ∈ operations, operation.Encodable place) :
    (session.run (operations.map .operate)).strayed = [] := by
  induction operations generalizing session with
  | nil => exact none
  | cons operation rest ih =>
    refine ih (tracked_after tracked (.operate operation)) ?_ ?_ fun other listed =>
      encodable other (by simp [listed])
    · rw [after, none, tracked.emptied_eq_nil (placed ▸ encodable operation (by simp))]
      rfl
    · exact (tracked.place_operate operation).trans placed

/-- A new service on a disk is tracked. -/
theorem Session.tracked_start (named : disk.Named) (place : Place) (config : Config) :
    Tracked (start place config disk).service (start place config disk).disk
      (start place config disk).strayed := by
  refine tracked_of_empty named ?_ (fun _ => rfl) []
  rfl

end Service

end Restyle
