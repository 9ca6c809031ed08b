import Restyle.Proofs.Service.Configure
import Restyle.Proofs.Service.Settled
import Restyle.Proofs.Service.Writable

/-!
# Runs of events

A run of events that name neither a domain nor a target path is a run of a machine on projects.
A step that is applied revises the rule that matches the event or extends the stylesheet with the
most characters. One that fails has a cause that the machine shows, and changes nothing, except
that it may leave a new stylesheet without rules, and that it takes all rules of its stylesheet when
its block cannot be written (`Follows`). Main statements: `Settled.applies`, for what an event does
to a settled service; `Settled.follows`, for one step of the machine; `run_follows`, for every step
of every run after a project was configured, up to the first block that cannot be written.
-/
namespace Restyle

/-- An event that names neither a domain nor a target path. -/
def Event.Plain (event : Event) : Prop := event.domain = none ∧ event.target = none

namespace Service

open Restyle.Path (IsName Normal names)
open Utf8 (writable_append_iff)

variable {service after : Service} {disk disk' : Disk} {root path content : Text} {event : Event}

/-- What keeps an event from being applied to a settled service. -/
inductive Hinders (service : Service) (disk : Disk) (event : Event) (root : Text) : Prop where
  /-- The event matches no rule and gives no property to a new one. -/
  | empty (unmatched : service.match? event root = none)
    (given : event.changes.kept.isEmpty = true)
  /-- There is no stylesheet. -/
  | bare (none : service.index.entries.entries = [])
  /-- The disk refuses to write the file of the match. -/
  | refused (found : Match.Found) (fault : WriteFault)
    (matched : service.match? event root = some found)
    (refuses : disk.Refuses service.index.place found.file fault)
  /-- The disk refuses to write the file that a new rule goes to. -/
  | barred (entry : Entry) (fault : WriteFault) (unmatched : service.match? event root = none)
    (longest : service.index.largest? root = some entry)
    (refuses : disk.Refuses service.index.place entry.path fault)

/-- What applying an event to a settled service comes to. -/
inductive Applies (service : Service) (disk : Disk) (event : Event) (root : Text)
    (effect : Effect PatchResult) : Prop where
  /-- It fails, and nothing is changed. -/
  | unchanged (error : Text) (reason : Reason) (answer : effect.answer = .failed error reason)
    (same : Workspace.Untouched ⟨service.index, disk⟩ ⟨effect.service.index, effect.disk⟩)
    (cause : Hinders service disk event root)
  /-- It fails, and leaves a new stylesheet without rules, the only one. -/
  | begun (error : Text) (answer : effect.answer = .failed error .writeFailure)
    (bare : service.index.entries.entries = [])
    (wrote : Workspace.Wrote ⟨service.index, disk⟩
      (Workspace.newFile ⟨service.index, disk⟩ root) Workspace.newFileHeader
      ⟨effect.service.index, effect.disk⟩)
  /-- It fails, and a file is left empty, since the text that it is to put there cannot be
  written. -/
  | emptied (path content error : Text) (answer : effect.answer = .failed error .internal)
    (intends : Intends service disk event root path content)
    (surrogates : ¬ Utf8.Writable content)
    (wrote : disk.Wrote service.index.place path [] effect.disk)
    (gains : Workspace.Gains ⟨service.index, disk⟩ root path effect.service.index)
  /-- The block of the match is rewritten. -/
  | revised (found : Match.Found) (entry : Entry) (file : Text)
    (answer : effect.answer =
      .applied ⟨file, found.rule.selector, event.changes.keys, false⟩)
    (matched : service.match? event root = some found)
    (held : service.index.entries.get? found.file = some entry)
    (wrote : Workspace.Wrote ⟨service.index, disk⟩ found.file
      (Workspace.splice entry.content found.rule
        (Rule.write found.rule.selector (event.changes.applyTo found.rule.properties)))
      ⟨effect.service.index, effect.disk⟩)
  /-- A rule is appended. -/
  | extended (path content file : Text)
    (answer : effect.answer = .applied ⟨file, event.newSelector, event.changes.keys, true⟩)
    (unmatched : service.match? event root = none)
    (slot : Workspace.Slot ⟨service.index, disk⟩ root path content)
    (wrote : Workspace.Wrote ⟨service.index, disk⟩ path
      (content ++ Workspace.appendix event.newSelector event.changes)
      ⟨effect.service.index, effect.disk⟩)

namespace Settled

variable {entry : Entry}

/-- A plain event is one for the root of the project. -/
theorem resolveRoot_eq (settled : Settled service disk root) (plain : event.Plain) :
    service.resolveRoot disk event.domain event.target = .ok root := by
  simp only [resolveRoot, plain.1, plain.2, Option.map_none, Option.getD_none, settled.rooted]

/-- Applying a plain event to a settled service is patching it. -/
theorem applyEvent_eq_patch (settled : Settled service disk root) (plain : event.Plain) :
    (service.applyEvent disk event).answer =
        resultOf ((service.patch disk event root).1.map fun patched =>
          { patched with
            file := Path.relative patched.file (Path.absolute service.index.place root) }) ∧
      (service.applyEvent disk event).service.index = (service.patch disk event root).2.index ∧
      (service.applyEvent disk event).disk = (service.patch disk event root).2.disk := by
  have done := service.applyEvent_eq (settled.resolveRoot_eq plain)
  rw [settled.loaded_eq] at done
  exact done

/-- A settled service has no longest stylesheet exactly when it has no entry. -/
theorem largest?_eq_none_iff (settled : Settled service disk root) :
    service.index.largest? root = none ↔ service.index.entries.entries = [] := by
  rw [Index.largest?_eq_none_iff, settled.filesUnder_eq, List.map_eq_nil_iff]

/-- Without a longest stylesheet a new rule goes to a new one. -/
theorem target_of_bare (settled : Settled service disk root)
    (bare : service.index.largest? root = none) :
    service.target disk = Workspace.newFile ⟨service.index, disk⟩ root := by
  rw [target, settled.longest?_eq, bare, settled.rooted]
  rfl

/-- A settled service overlooks no stylesheet of its root. -/
theorem not_overlooked (settled : Settled service disk root) (entry : Entry) :
    ¬ Workspace.Overlooked ⟨service.index, disk⟩ root entry := by
  have seen := Service.not_overlooked settled.sound.named settled.listable entry
  rwa [settled.loaded_eq] at seen

/-- Where every text has rules, a file of a settled service is read again once it was written. -/
theorem not_unread (settled : Settled service disk root) {content : Text} {fault : SkipFault}
    (held : service.index.entries.get? path = some entry) :
    ¬ Workspace.Unread ⟨service.index, disk⟩ path content fault := by
  obtain ⟨normal, _, read, _⟩ := settled.of_get? held
  exact Service.not_unread settled.standard (Disk.isReadable_of_read normal read)

/-- A plain event rewrites the block of its match in a settled service, or appends a rule when
there is none, or empties a file, or changes no rule. -/
theorem applies (settled : Settled service disk root) (plain : event.Plain) :
    Applies service disk event root (service.applyEvent disk event) := by
  obtain ⟨answer, index, last⟩ := settled.applyEvent_eq_patch plain
  have done := patches_loaded settled.sound.named settled.sound.current.keyed event root
  rw [settled.loaded_eq] at done
  generalize service.patch disk event root = result at answer index last done
  cases done with
  | updated found entry _ matched listed file stated step =>
    have held := settled.get?_of_mem_filesUnder listed
    rw [file] at held
    cases step with
    | refused fault after same refuses =>
      refine .unchanged _ _ answer ?_ (.refused found fault matched (file ▸ refuses))
      rw [index, last]
      exact same
    | emptied content refused after whole emptied =>
      subst whole
      refine .emptied entry.path _ _ answer (.revised found entry matched listed file stated)
        emptied.surrogates (last ▸ emptied.disk)
        (.none (index.trans emptied.index) ⟨entry, file ▸ held⟩)
    | unread content fault after _ _ unread =>
      exact absurd unread (settled.not_unread (file ▸ held))
    | written content after whole wrote =>
      subst whole
      refine .revised found entry _ answer matched held ?_
      rw [index, last, ← file]
      exact wrote
  | created _ unmatched step =>
    cases step with
    | empty given =>
      refine .unchanged _ _ answer ?_ (.empty unmatched ?_)
      · rw [index, last]
        exact ⟨rfl, rfl⟩
      · rw [← Changes.applyTo_empty]
        exact given
    | refused fault after same cause =>
      refine .unchanged _ _ answer ?_ ?_
      · rw [index, last]
        exact same
      · cases longest : service.index.largest? root with
        | none => exact .bare (settled.largest?_eq_none_iff.1 longest)
        | some entry =>
          obtain ⟨fault, refuses⟩ := cause root (settled.normal.resolve_eq _) entry longest
          exact .barred entry fault unmatched longest refuses
    | unreadHeader detail after _ _ failed => simp [settled.standard.parse_eq] at failed
    | noticed entry fault after overlooked _ _ =>
      exact absurd overlooked (settled.not_overlooked entry)
    | emptied path content refused after slot surrogates wrote gains =>
      exact .emptied path _ _ answer (.extended path content unmatched slot) surrogates
        (last ▸ wrote) (by rw [index]; exact gains)
    | started refusal after bare wrote _ =>
      refine .begun _ answer (settled.largest?_eq_none_iff.1 bare.unlisted) ?_
      rw [index, last]
      exact wrote
    | unread path content fault after slot _ _ _ unread =>
      cases slot with
      | known entry longest =>
        exact absurd unread (settled.not_unread
          (settled.get?_of_mem_filesUnder (Index.mem_filesUnder_of_largest? longest)))
      | noticed entry overlooked => exact absurd overlooked (settled.not_overlooked entry)
      | new bare =>
        exact absurd unread
          (Service.not_unread settled.standard (Disk.isReadable_of_node?_eq_none bare.fresh))
    | written path content after slot _ wrote =>
      refine .extended path content _ answer unmatched slot ?_
      rw [index, last]
      exact wrote

/-- What a project is around a file with an entry, before and after that file was written. -/
theorem project_of_wrote (settled : Settled service disk root)
    (later : Settled after disk' root) {front back : List (Text × Entry)} {entry : Entry}
    (parted : service.index.entries.entries = front ++ (path, entry) :: back)
    (wrote : Workspace.Wrote ⟨service.index, disk⟩ path content ⟨after.index, disk'⟩) :
    service.project disk =
        Project.ofEntries front ++ (path, (Sheet.rules entry.content).map Rule.statement) ::
          Project.ofEntries back ∧
      after.project disk' =
        Project.ofEntries front ++ (path, (Sheet.rules content).map Rule.statement) ::
          Project.ofEntries back := by
  have held : service.index.entries.get? path = some entry := by
    rw [OrderedMap.get?_eq_some_iff, parted]
    simp
  obtain ⟨rules, parsed, index⟩ := wrote.index
  simp only at index parsed
  rw [settled.standard.parse_eq, Except.ok.injEq] at parsed
  subst parsed
  have stored : after.index.entries.entries =
      front ++ (path, ⟨path, content, Sheet.rules content⟩) :: back := by
    rw [index]
    exact OrderedMap.entries_insert_of_entries_eq parted _
  rw [settled.project_eq, later.project_eq, parted, stored, ← (settled.of_get? held).2.2.2]
  simp only [Project.ofEntries, List.map_append, List.map_cons, and_self]

/-- A new stylesheet begins without rules. -/
theorem rules_newFileHeader : Sheet.rules Workspace.newFileHeader = [] := by decide +kernel

/-- A project whose first file was written consists of it. -/
theorem project_of_wrote_first (settled : Settled service disk root)
    (later : Settled after disk' root) (bare : service.index.entries.entries = [])
    (wrote : Workspace.Wrote ⟨service.index, disk⟩ path content ⟨after.index, disk'⟩) :
    service.project disk = [] ∧
      after.project disk' = [(path, (Sheet.rules content).map Rule.statement)] := by
  obtain ⟨rules, parsed, index⟩ := wrote.index
  simp only at index parsed
  rw [settled.standard.parse_eq, Except.ok.injEq] at parsed
  subst parsed
  have absent : service.index.entries.get? path = none := by
    rw [Option.eq_none_iff_forall_ne_some]
    intro entry held
    rw [OrderedMap.get?_eq_some_iff, bare] at held
    simp at held
  have stored : after.index.entries.entries =
      [(path, ⟨path, content, Sheet.rules content⟩)] := by
    rw [index]
    refine (OrderedMap.entries_insert_of_get?_eq_none absent _).trans ?_
    rw [bare, List.nil_append]
  rw [settled.project_eq, later.project_eq, bare, stored]
  exact ⟨rfl, rfl⟩

/-- No text has no rules. -/
theorem rules_nil : Sheet.rules [] = [] := by decide +kernel

/-- An empty file has no text. -/
theorem textAt_of_read_nil (read : disk.read service.index.place path = .ok []) :
    service.textAt disk path = [] := by
  have bare : Utf8.decode [] = .ok [] := Utf8.decode_bytes (Utf8.writable_toText "")
  rw [textAt, Disk.readText, read]
  simp only [bare]
  rfl

/-- Where a file with an entry was left empty the project has no rules there. -/
theorem project_of_emptied (settled : Settled service disk root)
    (held : service.index.entries.get? path = some entry)
    (wrote : disk.Wrote service.index.place path [] disk')
    (same : after.index = service.index) :
    after.project disk' = (service.project disk).blank path := by
  obtain ⟨normal, _, read, _⟩ := settled.of_get? held
  obtain ⟨front, back, parted⟩ := List.append_of_mem ((OrderedMap.get?_eq_some_iff _ _ _).1 held)
  have other : ∀ item ∈ service.index.entries.entries, item.1 ≠ path →
      (Sheet.rules (after.textAt disk' item.1)).map Rule.statement =
        item.2.rules.map Rule.statement := by
    intro item listed apart
    have known := (OrderedMap.get?_eq_some_iff _ _ _).2 listed
    obtain ⟨normal', _, read', rules⟩ := settled.of_get? known
    have elsewhere : names item.1 ≠ names path := fun alike =>
      apart ((settled.below _ _ known).eq_of_names_eq (settled.below _ _ held) settled.normal alike)
    rw [textAt, same, Disk.readText, wrote.read_of_ne normal' elsewhere read']
    simp only [Utf8.decode_bytes (settled.writable_of_get? known), rules]
    rfl
  have bare : after.textAt disk' path = [] := by
    refine textAt_of_read_nil ?_
    rw [same]
    exact wrote.readable (Disk.isReadable_of_read normal read)
  have distinct := service.index.entries.distinct
  rw [parted, List.map_append, List.map_cons, List.nodup_append, List.nodup_cons] at distinct
  have before : ∀ item ∈ front, item.1 ≠ path := fun item listed =>
    distinct.2.2 item.1 (List.mem_map.2 ⟨item, listed, rfl⟩) path (by simp)
  have behind : ∀ item ∈ back, item.1 ≠ path := fun item listed alike =>
    distinct.2.1.1 (List.mem_map.2 ⟨item, listed, alike⟩)
  have first : path ∉ (Project.ofEntries front).map Prod.fst := by
    rw [Project.ofEntries, List.map_map]
    exact OrderedMap.not_mem_of_entries_eq parted
  have whole : Project.ofEntries service.index.entries.entries = Project.ofEntries front ++
      (path, entry.rules.map Rule.statement) :: Project.ofEntries back := by
    rw [parted]
    simp only [Project.ofEntries, List.map_append, List.map_cons]
  rw [settled.project_eq, whole, Project.blank_append first, project, Index.paths, OrderedMap.keys,
    List.map_map, same, parted, List.map_append,
    List.map_cons]
  congr 1
  · refine List.map_congr_left fun item listed => ?_
    rw [Function.comp_apply, other item (by simp [parted, listed]) (before item listed)]
  · rw [Function.comp_apply, bare, rules_nil]
    refine congrArg (List.cons (path, [])) (List.map_congr_left fun item listed => ?_)
    rw [Function.comp_apply, other item (by simp [parted, listed]) (behind item listed)]

/-- Where the first file of a project was left empty the project has nothing else. -/
theorem project_of_emptied_first (bare : service.index.entries.entries = [])
    (open_ : disk.isReadable (names path) = true) {entry : Entry} (own : entry.path = path)
    (wrote : disk.Wrote service.index.place path [] disk')
    (stored : after.index = service.index.store entry) : after.project disk' = [(path, [])] := by
  have absent : service.index.entries.get? path = none := by
    rw [Option.eq_none_iff_forall_ne_some]
    intro entry held
    rw [OrderedMap.get?_eq_some_iff, bare] at held
    simp at held
  have entries : after.index.entries.entries = [(path, entry)] := by
    rw [stored, ← own]
    refine (OrderedMap.entries_insert_of_get?_eq_none (own ▸ absent) _).trans ?_
    rw [bare, List.nil_append]
  have text : after.textAt disk' path = [] := by
    refine textAt_of_read_nil ?_
    rw [stored]
    exact wrote.readable open_
  rw [project, Index.paths, OrderedMap.keys, entries, List.map_cons, List.map_cons, text, rules_nil]
  rfl

/-- When the block of a match was rewritten, its properties are revised in the project. -/
theorem project_of_revised (settled : Settled service disk root)
    (later : Settled after disk' root) {found : Match.Found} {entry : Entry}
    (matched : service.match? event root = some found)
    (held : service.index.entries.get? found.file = some entry)
    (fits : Rule.Representable found.rule.selector (event.changes.applyTo found.rule.properties))
    (wrote : Workspace.Wrote ⟨service.index, disk⟩ found.file
      (Workspace.splice entry.content found.rule
        (Rule.write found.rule.selector (event.changes.applyTo found.rule.properties)))
      ⟨after.index, disk'⟩) :
    after.project disk' = (service.project disk).step service.config.weights event path := by
  obtain ⟨numbered, outcome, n, place, _, _, number⟩ := settled.exists_match?_eq_some matched
  obtain ⟨front, item, back, j, parted, stated, rfl⟩ := Project.exists_of_getElem?_space place
  have listed : service.index.entries.get? found.file = some item := by
    rw [OrderedMap.get?_eq_some_iff, parted]
    simp
  obtain rfl : entry = item := Option.some.inj (held.symm.trans listed)
  rw [(settled.of_get? held).2.2.2] at stated
  obtain ⟨before, new⟩ := settled.project_of_wrote later parted wrote
  have bound : j < ((Sheet.rules entry.content).map Rule.statement).length := by
    rw [List.length_map]
    exact (List.getElem?_eq_some_iff.1 stated).1
  have start : numbered.rule.start.toNat = (Project.ofEntries front).listed.length + j := by
    have same : numbered.rule.start = _ := number
    rw [same, Project.listed_ofEntries, List.length_map, Int.toNat_natCast]
  rw [Project.step, outcome, new]
  simp only [start, before]
  rw [Project.revise_append bound, ← Project.map_statement_splice stated fits]

/-- When a rule was appended, the project is extended by it. -/
theorem project_of_extended (settled : Settled service disk root)
    (later : Settled after disk' root) (unmatched : service.match? event root = none)
    (slot : Workspace.Slot ⟨service.index, disk⟩ root path content)
    (closed : Sheet.Closed (service.textAt disk (service.target disk)))
    (fits : Rule.Representable event.newSelector event.changes.kept)
    (wrote : Workspace.Wrote ⟨service.index, disk⟩ path
      (content ++ Workspace.appendix event.newSelector event.changes) ⟨after.index, disk'⟩) :
    after.project disk' =
      (service.project disk).step service.config.weights event (service.target disk) := by
  simp only [Project.step, settled.match?_eq_none unmatched]
  cases slot with
  | known entry longest =>
    have held := settled.get?_of_mem_filesUnder (Index.mem_filesUnder_of_largest? longest)
    have here : service.target disk = entry.path := by
      rw [target, settled.longest?_eq, longest]
      rfl
    rw [here, settled.textAt_eq held] at closed
    obtain ⟨front, back, parted⟩ :=
      List.append_of_mem ((OrderedMap.get?_eq_some_iff _ _ _).1 held)
    obtain ⟨before, new⟩ := settled.project_of_wrote later parted wrote
    have first : entry.path ∉ (Project.ofEntries front).map Prod.fst := by
      rw [Project.ofEntries, List.map_map]
      exact OrderedMap.not_mem_of_entries_eq parted
    rw [new, before, here, Project.extend_append first, Project.map_statement_appendix closed fits]
  | noticed entry overlooked => exact absurd overlooked (settled.not_overlooked entry)
  | new bare =>
    have here := settled.target_of_bare bare.unlisted
    have header : Sheet.Closed Workspace.newFileHeader := by decide +kernel
    obtain ⟨before, new⟩ :=
      settled.project_of_wrote_first later (settled.largest?_eq_none_iff.1 bare.unlisted) wrote
    rw [new, before, here, Project.map_statement_appendix header fits, rules_newFileHeader]
    rfl

end Settled

/-- The block that an event writes is read back as it is, and the stylesheet that a rule is
appended to is closed. -/
def Clean (service : Service) (disk : Disk) (event : Event) : Prop :=
  let block := (service.project disk).block service.config.weights event
  Rule.Representable block.1 block.2 ∧
    ((service.project disk).match? service.config.weights event = none →
      Sheet.Closed (service.textAt disk (service.target disk)))

instance (service : Service) (disk : Disk) (event : Event) :
    Decidable (service.Clean disk event) := inferInstanceAs (Decidable (_ ∧ (_ → _)))

/-- The block that an event writes can be written. -/
def Encodes (service : Service) (disk : Disk) (event : Event) : Prop :=
  let block := (service.project disk).block service.config.weights event
  Utf8.Writable (Rule.write block.1 block.2)

instance (service : Service) (disk : Disk) (event : Event) :
    Decidable (service.Encodes disk event) := inferInstanceAs (Decidable (Utf8.Writable _))

/-- What is read at a path can be written. -/
theorem writable_textAt (service : Service) (disk : Disk) (path : Text) :
    Utf8.Writable (service.textAt disk path) := by
  rw [textAt]
  cases read : (disk.readText service.index.place path).toOption with
  | none => simp [Utf8.Writable]
  | some text =>
    exact (Disk.readText_eq_ok_iff.1 (Index.toOption_eq_some_iff.1 read)).1

/-- The block of an event can be written when its own texts can, for the rules of a project were
read. -/
theorem encodes_of_encodable (encodable : event.Encodable) (service : Service) (disk : Disk) :
    Encodes service disk event := by
  rw [Encodes]
  cases matched : (service.project disk).match? service.config.weights event with
  | none =>
    rw [Project.block_of_unmatched matched]
    exact Sheet.writable_write encodable.1 encodable.2
  | some found =>
    rw [Project.block_of_match? matched]
    obtain ⟨file, held, _, stated⟩ := Project.exists_of_match? matched
    obtain ⟨path, _, rfl⟩ := List.mem_map.1 held
    obtain ⟨rule, listed, same⟩ := List.mem_map.1 stated
    obtain ⟨selector, properties⟩ := Prod.mk.inj same
    obtain ⟨named, each⟩ := Sheet.writable_of_mem_rules (service.writable_textAt disk path) listed
    rw [selector] at named
    rw [properties] at each
    exact Sheet.writable_write named (Changes.writable_applyTo encodable.2 each)

/-- The block for a match in a settled service is that of its project. -/
theorem Settled.block_of_match? (settled : Settled service disk root) {found : Match.Found}
    (matched : service.match? event root = some found) :
    (service.project disk).block service.config.weights event =
      (found.rule.selector, event.changes.applyTo found.rule.properties) := by
  obtain ⟨numbered, outcome, _, _, _, alike, _⟩ := settled.exists_match?_eq_some matched
  obtain ⟨selector, properties⟩ := Prod.mk.inj alike
  simp only [Match.Found.spot] at selector properties
  rw [Project.block_of_match? outcome, selector, properties]

/-- The block of a plain event that is applied to a settled service can be written. -/
theorem Settled.encodes_of_applied (settled : Settled service disk root) (plain : event.Plain)
    {patched : Patched} (applied : (service.applyEvent disk event).answer = .applied patched) :
    Encodes service disk event := by
  rw [Encodes]
  have done := settled.applies plain
  generalize service.applyEvent disk event = effect at applied done
  cases done with
  | unchanged _ _ answer _ _ => simp [applied] at answer
  | begun _ answer _ _ => simp [applied] at answer
  | emptied _ _ _ answer _ _ _ _ => simp [applied] at answer
  | revised found entry _ _ matched _ wrote =>
    rw [settled.block_of_match? matched]
    exact (writable_append_iff.1 (writable_append_iff.1 wrote.writable).1).2
  | extended path content _ _ unmatched _ wrote =>
    rw [Project.block_of_unmatched (settled.match?_eq_none unmatched), ← Changes.applyTo_empty]
    exact (writable_append_iff.1 wrote.writable).2.subset (by simp [Workspace.appendix])

/-- The text that an event is to put into a file of a settled service can be written when its block
can. -/
theorem Settled.writable_of_intends (settled : Settled service disk root)
    (encodes : Encodes service disk event)
    (intends : Intends service disk event root path content) : Utf8.Writable content := by
  rw [Encodes] at encodes
  cases intends with
  | revised found entry matched listed file stated =>
    rw [settled.block_of_match? matched] at encodes
    exact Workspace.writable_splice
      (settled.writable_of_get? (settled.get?_of_mem_filesUnder listed))
      encodes found.rule
  | extended _ content unmatched slot =>
    rw [Project.block_of_unmatched (settled.match?_eq_none unmatched)] at encodes
    have whole : Utf8.Writable content := by
      cases slot with
      | known entry longest =>
        exact settled.writable_of_get?
          (settled.get?_of_mem_filesUnder (Index.mem_filesUnder_of_largest? longest))
      | noticed entry overlooked => exact absurd overlooked (settled.not_overlooked entry)
      | new bare => exact Workspace.writable_newFileHeader
    exact Workspace.writable_append_appendix whole encodes

/-- The file that a new rule goes to is below the root of a settled service. -/
theorem Settled.below_slot (settled : Settled service disk root)
    (slot : Workspace.Slot ⟨service.index, disk⟩ root path content) : Below root path := by
  cases slot with
  | known entry longest =>
    exact settled.below _ entry
      (settled.get?_of_mem_filesUnder (Index.mem_filesUnder_of_largest? longest))
  | noticed entry _ => exact below_newFile service disk settled.normal
  | new _ => exact below_newFile service disk settled.normal

/-- A plain event whose block can be written leaves a settled service settled. -/
theorem Settled.applyEvent (settled : Settled service disk root) (plain : event.Plain)
    (encodes : Encodes service disk event) :
    Settled (service.applyEvent disk event).service (service.applyEvent disk event).disk root := by
  have rooted := (service.applyEvent_settings disk event).1
  cases settled.applies plain with
  | unchanged error reason _ same _ => exact settled.of_untouched rooted same
  | begun error _ _ wrote =>
    exact settled.of_wrote rooted (below_newFile service disk settled.normal) wrote
  | emptied path content error answer intends surrogates _ _ =>
    exact absurd (settled.writable_of_intends encodes intends) surrogates
  | revised found entry _ _ _ held wrote =>
    exact settled.of_wrote rooted (settled.below _ entry held) wrote
  | extended path content _ _ _ slot wrote =>
    exact settled.of_wrote rooted (settled.below_slot slot) wrote

/-- The steps of the machine: the result of an event and the project after it, when new rules go
to the stylesheet at a path and some paths may not be written. -/
inductive Follows (weights : Weights) (event : Event) (target : Text) (refuses : Text → Prop)
    (project : Project) : PatchResult → Project → Prop where
  /-- The event is applied to the project, and the result names the rule that is written. -/
  | applied (file : Text) :
    Follows weights event target refuses project
      (.applied ⟨file, (project.block weights event).1, event.changes.keys,
        (project.match? weights event).isNone⟩)
      (project.step weights event target)
  /-- The event fails, and the project stays as it is: a new rule would have no property, there is
  no stylesheet, or the one that the event goes to may not be written. -/
  | failed (error : Text) (reason : Reason)
    (cause : (project.match? weights event = none ∧ event.changes.kept.isEmpty = true) ∨
      project = [] ∨ refuses (project.goal weights event target)) :
    Follows weights event target refuses project (.failed error reason) project
  /-- The event fails, and a stylesheet without rules is the first one of the project. -/
  | begun (error : Text) (bare : project = []) :
    Follows weights event target refuses project (.failed error .writeFailure) [(target, [])]
  /-- The event fails because its block cannot be written, and the stylesheet that it goes to has no
  rules any more. -/
  | emptied (error : Text)
    (surrogates : ¬ Utf8.Writable
      (Rule.write (project.block weights event).1 (project.block weights event).2)) :
    Follows weights event target refuses project (.failed error .internal)
      (project.blank (project.goal weights event target))

/-- The disk has something against a write of the file at a path. -/
def Refused (service : Service) (disk : Disk) (path : Text) : Prop :=
  ∃ fault, disk.Refuses service.index.place path fault

/-- What keeps an event from being applied to a settled service keeps it from its project. -/
theorem Settled.cause_of_hinders (settled : Settled service disk root)
    (hinders : Hinders service disk event root) :
    ((service.project disk).match? service.config.weights event = none ∧
        event.changes.kept.isEmpty = true) ∨
      service.project disk = [] ∨ service.Refused disk
        ((service.project disk).goal service.config.weights event (service.target disk)) := by
  cases hinders with
  | empty unmatched given => exact .inl ⟨settled.match?_eq_none unmatched, given⟩
  | bare none =>
    refine .inr (.inl ?_)
    rw [settled.project_eq, none]
    rfl
  | refused found fault matched refuses =>
    obtain ⟨numbered, outcome, _, _, file, _, _⟩ := settled.exists_match?_eq_some matched
    have here : numbered.file = found.file := file
    refine .inr (.inr ⟨fault, ?_⟩)
    rw [Project.goal, outcome]
    simp only [here]
    exact refuses
  | barred entry fault unmatched longest refuses =>
    refine .inr (.inr ⟨fault, ?_⟩)
    rw [Project.goal, settled.match?_eq_none unmatched, target, settled.longest?_eq, longest]
    exact refuses

/-- Where the file that an event goes to was left empty the project has no rules there. -/
theorem Settled.project_of_intends (settled : Settled service disk root)
    (intends : Intends service disk event root path content)
    (wrote : disk.Wrote service.index.place path [] disk')
    (gains : Workspace.Gains ⟨service.index, disk⟩ root path after.index) :
    after.project disk' = (service.project disk).blank
      ((service.project disk).goal service.config.weights event (service.target disk)) := by
  -- a file with an entry is emptied and the index stays
  have known : ∀ entry : Entry, service.index.entries.get? path = some entry →
      after.project disk' = (service.project disk).blank path := by
    intro entry held
    cases gains with
    | none same _ => exact settled.project_of_emptied held wrote same
    | entry _ _ _ unlisted _ _ _ _ =>
      rw [OrderedMap.get?_eq_some_iff, settled.largest?_eq_none_iff.1 unlisted] at held
      simp at held
  cases intends with
  | revised found entry matched listed file stated =>
    obtain ⟨numbered, outcome, _, _, same, _, _⟩ := settled.exists_match?_eq_some matched
    have here : numbered.file = found.file := same
    rw [Project.goal, outcome]
    simp only [here, ← file]
    exact known entry (settled.get?_of_mem_filesUnder listed)
  | extended _ content unmatched slot =>
    rw [Project.goal, settled.match?_eq_none unmatched]
    cases slot with
    | known entry longest =>
      have here : service.target disk = entry.path := by
        rw [target, settled.longest?_eq, longest]
        rfl
      rw [here]
      exact known entry
        (settled.get?_of_mem_filesUnder (Index.mem_filesUnder_of_largest? longest))
    | noticed entry overlooked => exact absurd overlooked (settled.not_overlooked entry)
    | new bare =>
      have none := settled.largest?_eq_none_iff.1 bare.unlisted
      cases gains with
      | none _ known =>
        obtain ⟨entry, held⟩ := known
        simp only at held
        rw [OrderedMap.get?_eq_some_iff, none] at held
        simp at held
      | entry content rules _ _ _ _ _ stored =>
        rw [settled.target_of_bare bare.unlisted, settled.project_eq, none]
        exact project_of_emptied_first none (Disk.isReadable_of_node?_eq_none bare.fresh) rfl wrote
          stored

/-- A plain event is a step of the machine on the project of a settled service. -/
theorem Settled.follows (settled : Settled service disk root) (plain : event.Plain)
    (clean : ∀ patched, (service.applyEvent disk event).answer = .applied patched →
      Clean service disk event) :
    Follows service.config.weights event (service.target disk) (service.Refused disk)
      (service.project disk) (service.applyEvent disk event).answer
      ((service.applyEvent disk event).service.project (service.applyEvent disk event).disk) := by
  have rooted := (service.applyEvent_settings disk event).1
  have done := settled.applies plain
  generalize service.applyEvent disk event = effect at clean rooted done ⊢
  cases done with
  | unchanged error reason answer same cause =>
    rw [answer, project_of_untouched same]
    exact .failed error reason (settled.cause_of_hinders cause)
  | emptied path content error answer intends surrogates wrote gains =>
    have hampered : ¬ Encodes service disk event := fun encodes =>
      surrogates (settled.writable_of_intends encodes intends)
    rw [answer, settled.project_of_intends intends wrote gains]
    exact .emptied error hampered
  | begun error answer bare wrote =>
    have later := settled.of_wrote rooted (below_newFile service disk settled.normal) wrote
    have here := settled.target_of_bare (settled.largest?_eq_none_iff.2 bare)
    obtain ⟨before, new⟩ := settled.project_of_wrote_first later bare wrote
    rw [answer, new, rules_newFileHeader, here]
    exact .begun error before
  | revised found entry file answer matched held wrote =>
    obtain ⟨fits, _⟩ := clean _ answer
    have later := settled.of_wrote rooted (settled.below _ entry held) wrote
    have block := settled.block_of_match? matched
    obtain ⟨numbered, outcome, _⟩ := settled.exists_match?_eq_some matched
    rw [block] at fits
    have step : Follows service.config.weights event (service.target disk)
        (service.Refused disk) (service.project disk) _ _ := .applied file
    rw [block, outcome] at step
    rw [answer, settled.project_of_revised later matched held fits wrote]
    exact step
  | extended path content file answer unmatched slot wrote =>
    obtain ⟨fits, closed⟩ := clean _ answer
    have later := settled.of_wrote rooted (settled.below_slot slot) wrote
    have outcome := settled.match?_eq_none unmatched
    have block := Project.block_of_unmatched outcome
    rw [block] at fits
    have step : Follows service.config.weights event (service.target disk)
        (service.Refused disk) (service.project disk) _ _ := .applied file
    rw [block, outcome] at step
    rw [answer, settled.project_of_extended later unmatched slot (closed outcome) fits wrote]
    exact step

/-- A service whose root was loaded into an index without entries is settled. -/
theorem settled_loadRoot {index : Index} (rooted : service.root = some root) (normal : Normal root)
    (open_ : disk.leadsToOpenFolder index.place root = true) (standard : index.Standard)
    (named : disk.Named)
    (loaded : service.index = (index.clear.loadRoot disk root).2) :
    Settled service disk root := by
  obtain ⟨entries, shape⟩ := index.clear.loadRoot_eq disk root
  have alike : ∀ path, service.index.readEntry disk path = index.clear.readEntry disk path :=
    Index.readEntry_eq_of (by rw [loaded, shape]) (by rw [loaded, shape]) disk
  have same : service.index.discover disk root = index.clear.discover disk root := by
    rw [loaded, shape]
    rfl
  have held : ∀ path, service.index.entries.get? path =
      if path ∈ index.clear.discover disk root then (index.clear.readEntry disk path).toOption
      else none := by
    intro path
    rw [loaded, Index.get?_loadRoot]
    split
    · rfl
    · split
      · rfl
      · rfl
  refine ⟨rooted, normal, ?_, ?_, ⟨named, ?_⟩, ?_, ?_⟩
  · rw [normal.absolute_eq]
    exact Disk.canList_of_leadsToOpenFolder normal open_
  · rw [Index.Standard, loaded, shape]
    exact standard
  · rw [loaded]
    exact Index.current_loadRoot named (Index.current_clear index disk)
  · intro path entry known
    rw [held] at known
    split at known
    · rename_i found
      have below := Disk.exists_of_mem_stylesheets named found
      rw [normal.absolute_eq] at below
      exact below
    · simp at known
  · intro none path found entry read
    rw [same] at found
    rw [alike] at read
    have known := held path
    rw [if_pos found, read, OrderedMap.get?, none] at known
    simp [Except.toOption, Entries.lookup] at known

/-- Configuring a project settles the service at its root. -/
theorem exists_settled_configure {path : Json} {mappings : List (Text × Json)} {count : Nat}
    (standard : service.index.Standard) (named : disk.Named)
    (configured : (service.configure disk path mappings).answer = .ok count) :
    (service.configure disk path mappings).disk = disk ∧
      ∃ root, Settled (service.configure disk path mappings).service disk root := by
  obtain ⟨same, root, known, normal, open_, shape⟩ := exists_configure_eq configured
  refine ⟨same, root, ?_⟩
  rw [shape]
  exact settled_loadRoot rfl normal open_ standard named rfl

/-- A service and its disk after events. -/
def afterAll (service : Service) (disk : Disk) : List Event → Service × Disk
  | [] => (service, disk)
  | event :: rest =>
    afterAll (service.applyEvent disk event).service (service.applyEvent disk event).disk rest

/-- One more event is applied to what the events before it left. -/
theorem afterAll_concat (service : Service) (disk : Disk) (front : List Event) (event : Event) :
    service.afterAll disk (front ++ [event]) =
      let now := service.afterAll disk front
      ((now.1.applyEvent now.2 event).service, (now.1.applyEvent now.2 event).disk) := by
  induction front generalizing service disk with
  | nil => rfl
  | cons first rest ih => exact ih _ _

/-- Every block that a run of events is to write can be written. -/
def Encoded (service : Service) (disk : Disk) : List Event → Prop
  | [] => True
  | event :: rest =>
    Encodes service disk event ∧
      Encoded (service.applyEvent disk event).service (service.applyEvent disk event).disk rest

/-- The blocks of events with texts that can be written can be written. -/
theorem encoded_of_encodable {events : List Event}
    (encodable : ∀ event ∈ events, event.Encodable) (service : Service) (disk : Disk) :
    Encoded service disk events := by
  induction events generalizing service disk with
  | nil => trivial
  | cons event rest ih =>
    exact ⟨encodes_of_encodable (encodable event (by simp)) service disk,
      ih (fun other listed => encodable other (by simp [listed])) _ _⟩

/-- Plain events whose blocks can be written leave a settled service settled, with the same
settings. -/
theorem Settled.afterAll (settled : Settled service disk root) {events : List Event}
    (plain : ∀ event ∈ events, event.Plain) (encoded : Encoded service disk events) :
    Settled (service.afterAll disk events).1 (service.afterAll disk events).2 root ∧
      (service.afterAll disk events).1.config = service.config := by
  induction events generalizing service disk with
  | nil => exact ⟨settled, rfl⟩
  | cons event rest ih =>
    obtain ⟨index, same⟩ := service.applyEvent_service disk event
    have config : (service.applyEvent disk event).service.config = service.config := by rw [same]
    obtain ⟨later, kept⟩ := ih (settled.applyEvent (plain event (by simp)) encoded.1)
      (fun other listed => plain other (by simp [listed])) encoded.2
    exact ⟨later, kept.trans config⟩

/-- After a project was configured, every event of a run of plain events is a step of the machine on
the stylesheets as they are on the disk, if the blocks of those before it could be written and its
own one, if it is written, is clean. -/
theorem run_follows (service : Service) (disk : Disk) (standard : service.index.Standard)
    (named : disk.Named) (path : Json) (mappings : List (Text × Json)) (count : Nat)
    (configured : (service.configure disk path mappings).answer = .ok count)
    (events : List Event) (plain : ∀ event ∈ events, event.Plain) :
    let start := (service.configure disk path mappings).service
    ∀ front event back, events = front ++ event :: back → start.Encoded disk front →
      let now := start.afterAll disk front
      let effect := now.1.applyEvent now.2 event
      (∀ patched, effect.answer = .applied patched → now.1.Clean now.2 event) →
        Follows service.config.weights event (now.1.target now.2) (now.1.Refused now.2)
            (now.1.project now.2) effect.answer (effect.service.project effect.disk) ∧
          start.afterAll disk (front ++ [event]) = (effect.service, effect.disk) := by
  intro start front event back split encoded now effect clean
  obtain ⟨_, root, settled⟩ := exists_settled_configure standard named configured
  have early : ∀ other ∈ front, other.Plain := fun other listed =>
    plain other (by simp [split, listed])
  obtain ⟨held, config⟩ := settled.afterAll early encoded
  have same : now.1.config = service.config := by
    obtain ⟨_, _, _, _, _, shape⟩ := exists_configure_eq configured
    exact config.trans (by rw [shape])
  refine ⟨?_, start.afterAll_concat disk front event⟩
  rw [← same]
  exact held.follows (plain event (by simp [split])) clean

/-- A rule that one event creates is revised by the next. -/
theorem run_follows_created_then_updated :
    let disk := Disk.empty.put ["p".toText, "a.css".toText]
      (.file (Utf8.bytes "/*é*/ .a\x7bx:1\x7d ".toText) true)
    let service := Service.new ⟨"/w".toText, "/h".toText, [], {}⟩ {} none
    let start := (service.configure disk (.string "/p".toText) []).service
    let event (value : String) : Event :=
      { selector := ".b".toText, changes := .ofList [("y".toText, ⟨some value.toText, none⟩)] }
    let now := start.afterAll disk [event "2"]
    let effect := now.1.applyEvent now.2 (event "3")
    let rules (value : String) : Project :=
      [("/p/a.css".toText, [(".a".toText, .ofList [("x".toText, "1".toText)]),
        (".b".toText, .ofList [("y".toText, value.toText)])])]
    service.index.Standard ∧ disk.Named ∧
      (service.configure disk (.string "/p".toText) []).answer.toOption = some 1 ∧
      now.1.project now.2 = rules "2" ∧ effect.answer.reason? = none ∧
      start.Encoded disk [event "2"] ∧ now.1.Clean now.2 (event "3") ∧
      Follows {} (event "3") "/p/a.css".toText (now.1.Refused now.2) (rules "2") effect.answer
        (rules "3") := by
  intro disk service start event now effect rules
  have named : disk.Named := by decide +kernel
  have counted : (service.configure disk (.string "/p".toText) []).answer.toOption = some 1 := by
    decide +kernel
  have configured : (service.configure disk (.string "/p".toText) []).answer = .ok 1 :=
    Index.toOption_eq_some_iff.1 counted
  have clean : now.1.Clean now.2 (event "3") := by decide +kernel
  have encoded : start.Encoded disk [event "2"] := ⟨by decide +kernel, trivial⟩
  have before : now.1.project now.2 = rules "2" := by decide +kernel
  have final : effect.service.project effect.disk = rules "3" := by decide +kernel
  have target : now.1.target now.2 = "/p/a.css".toText := by decide +kernel
  have plain : ∀ other ∈ [event "2", event "3"], other.Plain := by simp [event, Event.Plain]
  have follows := (run_follows service disk rfl named (.string "/p".toText) [] 1 configured
    [event "2", event "3"] plain [event "2"] (event "3") [] rfl encoded fun _ _ => clean).1
  refine ⟨rfl, named, counted, before, by decide +kernel, encoded, clean, ?_⟩
  rw [← before, ← final, ← target]
  exact follows

/-- An event whose block cannot be written, though it is read back as it is, fails and takes all
rules of its stylesheet. -/
theorem not_follows_surrogate :
    let disk := Disk.empty.put ["p".toText, "a.css".toText]
      (.file (Utf8.bytes ".a\x7bx:1\x7d .keep\x7by:2\x7d".toText) true)
    let service := Service.new ⟨"/w".toText, "/h".toText, [], {}⟩ {} none
    let start := (service.configure disk (.string "/p".toText) []).service
    let event : Event :=
      { selector := ".a".toText
        changes := .ofList [("x".toText, ⟨some [.surrogate 0], none⟩)] }
    let effect := start.applyEvent disk event
    (service.configure disk (.string "/p".toText) []).answer.toOption = some 1 ∧
      disk.verdicts = [] ∧ start.Clean disk event ∧
      start.project disk = [("/p/a.css".toText, [(".a".toText, .ofList [("x".toText, "1".toText)]),
        (".keep".toText, .ofList [("y".toText, "2".toText)])])] ∧
      effect.answer.reason? = some .internal ∧
      effect.service.project effect.disk = [("/p/a.css".toText, [])] ∧
      ¬ Encodes start disk event := by
  intro disk service start event effect
  exact ⟨by decide +kernel, rfl, by decide +kernel, by decide +kernel, by decide +kernel,
    by decide +kernel, by decide +kernel⟩

end Service

end Restyle
