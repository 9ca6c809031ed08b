import Restyle.Proofs.Service.Configure
import Restyle.Proofs.Service.Writable
import Restyle.Proofs.Sheet.Revised

/-!
# Events that meet a rule

An event whose root is loaded meets the rule that is its match. Applied there it has the rule
written anew in its file and in the entry of that file if its block can be written, or the disk
refuses the write and nothing is changed (`Meets.applied`, `Meets.refused`). Main statement: when a
rule is written anew, an event that meets another one still meets it, where that rule stands then
(`Meets.persists`).
-/
namespace Restyle

open Restyle.Path (Normal names)

/-- The entry of a stylesheet with a rule of it written anew. -/
def Entry.revised (entry : Entry) (rule : Rule) (properties : Properties) : Entry :=
  let content := Workspace.splice entry.content rule (Rule.write rule.selector properties)
  ⟨entry.path, content, Sheet.rules content⟩

namespace Disk

/-- The disk with the text of an entry in its file. -/
def holding (disk : Disk) (entry : Entry) : Disk :=
  disk.fill (names entry.path) (Utf8.bytes entry.content)

/-- The disk once it has given its verdict on a write. -/
def judged (disk : Disk) : Disk := { disk with verdicts := disk.verdicts.drop 1 }

/-- A verdict leaves the items. -/
@[simp] theorem nodes_judged (disk : Disk) : disk.judged.nodes = disk.nodes := rfl

end Disk

namespace Workspace

variable {workspace : Workspace} {path content : Text}

/-- A file that the disk refuses to write is not replaced. -/
theorem replaceFile_refused {refusal : Refusal}
    (judged : workspace.disk.verdicts.head?.join = some refusal) (path content : Text) :
    workspace.replaceFile path content =
      (.error (.writeFailed path (.refused refusal)),
        ⟨workspace.index, workspace.disk.judged⟩) := by
  simp only [replaceFile, overwrite, Disk.write, judged, Except.mapError]
  rfl

/-- A file that can be read is replaced with its entry by a text that can be written. -/
theorem replaceFile_accepted (normal : Normal path) (standard : workspace.index.Standard)
    {old : List UInt8} (held : workspace.disk.read workspace.index.place path = .ok old)
    (accepted : workspace.disk.verdicts.head?.join = none) (writable : Utf8.Writable content) :
    workspace.replaceFile path content =
      (.ok (), ⟨workspace.index.store ⟨path, content, Sheet.rules content⟩,
        workspace.disk.judged.holding ⟨path, content, Sheet.rules content⟩⟩) := by
  let after := workspace.disk.judged.fill (names path) (Utf8.bytes content)
  have written : workspace.overwrite path content = (.ok (), ⟨workspace.index, after⟩) := by
    simp only [overwrite, Disk.write, accepted, Disk.writeTrail_of_read normal held,
      Utf8.encode_eq writable, Except.mapError]
    rfl
  have read : after.read workspace.index.place path = .ok (Utf8.bytes content) := by
    have same : after.nodes = (workspace.disk.fill (names path) (Utf8.bytes content)).nodes := rfl
    rw [Disk.read_congr same]
    exact (Disk.wrote_fill normal held _).readable (Disk.isReadable_of_read normal held)
  have found : workspace.index.readEntry after path = .ok ⟨path, content, Sheet.rules content⟩ :=
    Index.readEntry_eq_ok_iff.2 ⟨rfl, read, standard.parse_eq content, writable⟩
  simp only [replaceFile, written, refresh, Index.loadFile, normal.resolve_eq, found]
  rfl

end Workspace

namespace Service

/-- The service with an entry stored. -/
def stored (service : Service) (entry : Entry) : Service :=
  { service with index := service.index.store entry }

/-- The result of an event that has a rule of a stylesheet written anew. -/
def updated (service : Service) (root : Text) (event : Event) (entry : Entry) (rule : Rule) :
    PatchResult :=
  .applied ⟨Path.relative entry.path (Path.absolute service.index.place root), rule.selector,
    event.changes.keys, false⟩

/-- The result of an event that is refused to write a stylesheet. -/
def barred (entry : Entry) (refusal : Refusal) : PatchResult :=
  resultOf (.error (.writeFailed entry.path (.refused refusal)))

/-- An event has a root that is loaded, in a service that reads rules in the standard way. -/
structure Aims (service : Service) (disk : Disk) (event : Event) (root : Text) : Prop where
  /-- Rules are read in the standard way. -/
  standard : service.index.Standard
  /-- Every entry stands under its own path. -/
  keyed : service.index.Keyed
  /-- The event has the root. -/
  resolved : service.resolveRoot disk event.domain event.target = .ok root
  /-- The root is loaded. -/
  known : service.index.hasUnder root = true

/-- A rule stands in a stylesheet that has an entry and can be read. -/
structure Stands (service : Service) (disk : Disk) (entry : Entry) (rule : Rule) : Prop where
  /-- The path is in normal form. -/
  normal : Normal entry.path
  /-- The entry stands under its path. -/
  held : service.index.entries.get? entry.path = some entry
  /-- The entry has the rules of its text. -/
  ruled : entry.rules = Sheet.rules entry.content
  /-- The rule is one of them. -/
  stated : rule ∈ Sheet.rules entry.content
  /-- The text can be written. -/
  writable : Utf8.Writable entry.content
  /-- The file can be read. -/
  present : ∃ bytes, disk.read service.index.place entry.path = .ok bytes

/-- An event meets a rule: the rule is its match below its root. -/
structure Meets (service : Service) (disk : Disk) (event : Event) (root : Text) (entry : Entry)
    (rule : Rule) : Prop extends Aims service disk event root, Stands service disk entry rule where
  /-- The rule is the match. -/
  matched : (service.match? event root).map Match.Found.spot = some (entry.path, rule)

variable {service : Service} {disk after : Disk} {event : Event} {root : Text}
  {entry entry' : Entry} {rule edited : Rule} {properties : Properties}

/-- An event with a match below its root meets it. -/
theorem exists_meets (sound : Workspace.Sound ⟨service.index, disk⟩)
    (standard : service.index.Standard)
    (resolved : service.resolveRoot disk event.domain event.target = .ok root) {found : Match.Found}
    (matched : service.match? event root = some found) :
    ∃ entry, entry.path = found.file ∧ Meets service disk event root entry found.rule := by
  have spot := Match.best?_mem matched
  rw [Index.rulesUnder, List.mem_flatMap] at spot
  obtain ⟨entry, listed, inside⟩ := spot
  obtain ⟨rule, stated, same⟩ := List.mem_map.1 inside
  obtain ⟨file, rfl⟩ := Prod.mk.inj same
  obtain ⟨path, held, _⟩ := (Index.mem_filesUnder_iff _ _ _).1 listed
  obtain ⟨normal, read⟩ := sound.current path entry held
  obtain ⟨rfl, bytes, parsed, writable⟩ := Index.readEntry_eq_ok_iff.1 read
  rw [standard.parse_eq, Except.ok.injEq] at parsed
  have known := Index.hasUnder_of_mem_filesUnder listed
  refine ⟨entry, file, ⟨standard, sound.current.keyed, resolved, known⟩,
    ⟨normal, held, parsed.symm, parsed ▸ stated, writable, _, bytes⟩, ?_⟩
  rw [matched, Option.map_some, Match.Found.spot, file]

/-- An event meets a rule on every disk with the same items. -/
theorem Meets.congr (meets : Meets service disk event root entry rule)
    (same : after.nodes = disk.nodes) : Meets service after event root entry rule where
  standard := meets.standard
  keyed := meets.keyed
  resolved := resolveRoot_of_folders rfl
    (fun path folder => (Disk.leadsToOpenFolder_congr same _ path).trans folder) meets.resolved
  known := meets.known
  normal := meets.normal
  held := meets.held
  ruled := meets.ruled
  stated := meets.stated
  writable := meets.writable
  present := by
    rw [Disk.read_congr same]
    exact meets.present
  matched := meets.matched

namespace Meets

/-- Applying an event that meets a rule is updating the rule. -/
theorem applyEvent_eq (meets : Meets service disk event root entry rule) :
    let result := Workspace.updateRule ⟨service.index, disk⟩ entry.path rule event.changes
    let effect := service.applyEvent disk event
    effect.answer =
        resultOf (result.1.map fun patched =>
          { patched with
            file := Path.relative patched.file (Path.absolute service.index.place root) }) ∧
      effect.service = { service with index := result.2.index } ∧ effect.disk = result.2.disk := by
  intro result effect
  have loaded : service.loaded disk root = service := by
    rw [loaded, Index.ensureLoaded, if_pos meets.known]
  have patched : service.patch disk event root = result := by
    obtain ⟨found, matched, spot⟩ := Option.map_eq_some_iff.1 meets.matched
    obtain ⟨file, rule⟩ := Prod.mk.inj spot
    rw [match?] at matched
    simp only [patch, matched, file, rule]
    rfl
  obtain ⟨answer, index, last⟩ := service.applyEvent_eq meets.resolved
  obtain ⟨other, shape⟩ := service.applyEvent_service disk event
  rw [loaded, patched] at answer index last
  refine ⟨answer, ?_, last⟩
  rw [shape] at index
  simp only at index
  rw [← index]
  exact shape

/-- The update of a rule that is met is one replacement of its file. -/
theorem updateRule_eq (meets : Meets service disk event root entry rule) :
    Workspace.updateRule ⟨service.index, disk⟩ entry.path rule event.changes =
      let revised := entry.revised rule (event.changes.applyTo rule.properties)
      match Workspace.replaceFile ⟨service.index, disk⟩ entry.path revised.content with
      | (.error fault, workspace) => (.error fault, workspace)
      | (.ok (), workspace) =>
        (.ok ⟨entry.path, rule.selector, event.changes.keys, false⟩, workspace) := by
  have listed : entry.rules.any rule.same = true :=
    List.any_eq_true.2 ⟨rule, meets.ruled ▸ meets.stated, rule.same_self⟩
  simp only [Workspace.updateRule, meets.normal.resolve_eq, Index.get?_eq meets.normal,
    meets.held, listed, Bool.not_true, Bool.false_eq_true, if_false]
  rfl

/-- Where the disk accepts the write and the block can be written, the rule is written anew in its
file and in its entry. -/
theorem applied (meets : Meets service disk event root entry rule)
    (accepted : disk.verdicts.head?.join = none)
    (writable : Utf8.Writable
      (Rule.write rule.selector (event.changes.applyTo rule.properties))) :
    let revised := entry.revised rule (event.changes.applyTo rule.properties)
    let effect := service.applyEvent disk event
    effect.answer = service.updated root event entry rule ∧
      effect.service = service.stored revised ∧ effect.disk = disk.judged.holding revised := by
  intro revised effect
  obtain ⟨bytes, held⟩ := meets.present
  have replaced : Workspace.replaceFile ⟨service.index, disk⟩ entry.path revised.content =
      (.ok (), ⟨service.index.store revised, disk.judged.holding revised⟩) :=
    Workspace.replaceFile_accepted meets.normal meets.standard held accepted
      (Workspace.writable_splice meets.writable writable rule)
  have done := meets.applyEvent_eq
  simp only [meets.updateRule_eq] at done
  simp only [revised] at replaced
  rw [replaced] at done
  exact done

/-- Where the disk refuses the write nothing is changed. -/
theorem refused (meets : Meets service disk event root entry rule) {refusal : Refusal}
    (judged : disk.verdicts.head?.join = some refusal) :
    let effect := service.applyEvent disk event
    effect.answer = barred entry refusal ∧ effect.service = service ∧
      effect.disk = disk.judged := by
  intro effect
  have done := meets.applyEvent_eq
  simp only [meets.updateRule_eq] at done
  rw [Workspace.replaceFile_refused judged] at done
  exact done

end Meets

/-- An event has its root still after a file was written, and the root is loaded if an entry lies
below it then. -/
theorem Aims.of_wrote (standard : service.index.Standard) (keyed : service.index.Keyed)
    (resolved : service.resolveRoot disk event.domain event.target = .ok root) {new : Entry}
    {bytes : List UInt8} (normal : Normal new.path)
    (wrote : disk.Wrote service.index.place new.path bytes after)
    (known : (service.index.store new).hasUnder root = true) :
    Aims (service.stored new) after event root where
  standard := standard
  keyed := by
    intro path entry here
    rcases Index.of_get?_store here with ⟨rfl, rfl⟩ | ⟨_, here⟩
    · exact ⟨normal, rfl⟩
    · exact keyed path entry here
  resolved := by
    exact resolveRoot_of_folders rfl (fun _ folder => wrote.leadsToOpenFolder folder) resolved
  known := known

/-- A rule of a text stands in the stylesheet that has the text once that was written. -/
theorem Stands.of_wrote {new : Entry} (normal : Normal new.path)
    (wrote : disk.Wrote service.index.place new.path (Utf8.bytes new.content) after)
    (open_ : disk.isReadable (names new.path) = true) (writable : Utf8.Writable new.content)
    (ruled : new.rules = Sheet.rules new.content) (stated : rule ∈ Sheet.rules new.content) :
    Stands (service.stored new) after new rule where
  normal := normal
  held := Index.get?_store_self _ _
  ruled := ruled
  stated := stated
  writable := writable
  present := ⟨_, wrote.readable open_⟩

namespace Stands

/-- A stylesheet with a rule has an entry. -/
theorem mem_keys (stands : Stands service disk entry rule) :
    entry.path ∈ service.index.entries.keys :=
  OrderedMap.mem_keys_of_get? stands.held

/-- The file of a stylesheet in which a rule stands may be read. -/
theorem isReadable (stands : Stands service disk entry rule) :
    disk.isReadable (names entry.path) = true := by
  obtain ⟨bytes, held⟩ := stands.present
  exact Disk.isReadable_of_read stands.normal held

/-- The file of a stylesheet in which a rule stands is on the disk. -/
theorem mem_keys_nodes (stands : Stands service disk entry rule) :
    names entry.path ∈ disk.nodes.keys := by
  obtain ⟨bytes, held⟩ := stands.present
  exact Disk.mem_keys_of_read stands.normal held

/-- A stylesheet in which a rule stands can be written anew. -/
theorem wrote (stands : Stands service disk entry rule) {new : Entry}
    (same : new.path = entry.path) :
    disk.Wrote service.index.place new.path (Utf8.bytes new.content) (disk.holding new) := by
  obtain ⟨bytes, held⟩ := stands.present
  rw [← same] at held
  exact Disk.wrote_fill (same ▸ stands.normal) held _

/-- A rule stands in its stylesheet after a rule of it was written anew. -/
theorem revised (stands : Stands service disk entry rule)
    (changed : Stands service disk entry edited)
    (fits : Rule.Representable edited.selector properties)
    (writable : Utf8.Writable (Rule.write edited.selector properties)) :
    Stands (service.stored (entry.revised edited properties))
      (disk.holding (entry.revised edited properties)) (entry.revised edited properties)
      (edited.revised properties rule) :=
  .of_wrote stands.normal (stands.wrote rfl) stands.isReadable
    (Workspace.writable_splice stands.writable writable edited) rfl
    (Sheet.revised_mem changed.stated fits stands.stated)

/-- A rule stands in its stylesheet after another stylesheet was written. -/
theorem elsewhere (stands : Stands service disk entry rule)
    (changed : Stands service disk entry' edited) (apart : entry.path ≠ entry'.path)
    (properties : Properties) :
    Stands (service.stored (entry'.revised edited properties))
      (disk.holding (entry'.revised edited properties)) entry rule where
  normal := stands.normal
  held := by
    have other : entry.path ≠ (entry'.revised edited properties).path := apart
    rw [stored, Index.get?_store_of_ne other]
    exact stands.held
  ruled := stands.ruled
  stated := stands.stated
  writable := stands.writable
  present := by
    obtain ⟨bytes, held⟩ := stands.present
    have wrote := changed.wrote (rfl : (entry'.revised edited properties).path = entry'.path)
    exact ⟨_, wrote.read_eq stands.normal held⟩

/-- The match of an event moves with its rule when a rule is written anew. -/
theorem match?_stored (keyed : service.index.Keyed)
    (changed : Stands service disk entry' edited)
    (fits : Rule.Representable edited.selector properties) (event : Event) (root : Text) :
    ((service.stored (entry'.revised edited properties)).match? event root).map Match.Found.spot =
      (service.match? event root).map fun found =>
        if found.file = entry'.path then (found.file, edited.revised properties found.rule)
        else found.spot := by
  have moved : (entry'.revised edited properties).rules =
      entry'.rules.map (edited.revised properties) := by
    rw [changed.ruled]
    exact Sheet.rules_splice_eq_map changed.stated fits
  have rules := Index.rulesUnder_store keyed changed.held
    (rfl : (entry'.revised edited properties).path = entry'.path) moved root
  rw [match?, match?, stored, rules]
  refine Match.map_spot_best?_map (fun place => ?_) _ _ _ _
  split
  · exact Rule.selector_revised _ _ _
  · rfl

end Stands

/-- Where another rule was written anew, an event still meets its rule: where that stands then if it
is in the same stylesheet, and with its selector and its properties. -/
theorem Meets.persists (meets : Meets service disk event root entry rule)
    (changed : Stands service disk entry' edited)
    (fits : Rule.Representable edited.selector properties)
    (writable : Utf8.Writable (Rule.write edited.selector properties))
    (apart : entry.path = entry'.path → rule ≠ edited) :
    ∃ later moved,
      Meets (service.stored (entry'.revised edited properties))
        (disk.holding (entry'.revised edited properties)) event root later moved ∧
      later.path = entry.path ∧ moved.selector = rule.selector ∧
      moved.properties = rule.properties ∧
      (later, moved) = if entry.path = entry'.path then
          (entry'.revised edited properties, edited.revised properties rule)
        else (entry, rule) := by
  have listed : (entry'.revised edited properties).path ∈ service.index.entries.keys :=
    changed.mem_keys
  have aims : Aims (service.stored (entry'.revised edited properties))
      (disk.holding (entry'.revised edited properties)) event root :=
    .of_wrote meets.standard meets.keyed meets.resolved changed.normal (changed.wrote rfl)
      ((Index.hasUnder_store listed root).trans meets.known)
  obtain ⟨found, matched, spot⟩ := Option.map_eq_some_iff.1 meets.matched
  obtain ⟨file, rfl⟩ := Prod.mk.inj spot
  have moved := Stands.match?_stored meets.keyed changed fits event root
  rw [matched, Option.map_some, file] at moved
  by_cases here : entry.path = entry'.path
  · have whole : entry = entry' := by
      have held := meets.held
      rw [here, changed.held] at held
      exact (Option.some.inj held).symm
    subst whole
    have starts : found.rule.start ≠ edited.start := fun same =>
      apart rfl (Sheet.eq_of_start_eq meets.stated changed.stated same)
    rw [if_pos rfl] at moved
    exact ⟨_, _, ⟨aims, meets.toStands.revised changed fits writable, moved⟩, rfl,
      Rule.selector_revised _ _ _, Rule.properties_revised starts, (if_pos rfl).symm⟩
  · rw [if_neg here, spot] at moved
    exact ⟨entry, found.rule, ⟨aims, meets.toStands.elsewhere changed here properties, moved⟩, rfl,
      rfl, rfl, (if_neg here).symm⟩

end Service

end Restyle
