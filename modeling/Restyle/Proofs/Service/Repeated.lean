import Restyle.Proofs.Service.Contained
import Restyle.Proofs.Service.Meets
import Restyle.Proofs.Service.Run
import Restyle.Proofs.Sheet.Update

/-!
# Events that are applied again

An event that is applied stands in a rule then: its changes are merged in, and the rule is its
match, whether it was there or was appended for the event (`landed_revised`, `landed_extended`).
Applied there again the event writes what is written (`Landed.again`). Main statement: to apply an
event once more changes nothing and names the same rule (`applyEvent_again`).
-/
namespace Restyle

open Restyle.Path (Normal names)

/-- An entry of which a block is written as it stands is the same. -/
theorem Entry.revised_written {entry : Entry} {before after selector : Text}
    {properties : Properties}
    (whole : entry.content = before ++ (Rule.write selector properties ++ after))
    (ruled : entry.rules = Sheet.rules entry.content) :
    entry.revised (Rule.written selector properties before.length) properties = entry := by
  have same := Sheet.splice_written before after selector properties
  rw [← whole] at same
  obtain ⟨path, content, rules⟩ := entry
  simp only at same ruled
  simp only [revised, Rule.written] at same ⊢
  rw [same, ruled]

namespace Service

variable {service : Service} {disk after : Disk} {event : Event} {root path content : Text}
  {entry : Entry} {rule : Rule} {patched : Patched}

/-- An event meets a rule that has its changes, in a stylesheet with the text of its file. -/
structure Landed (service : Service) (disk : Disk) (event : Event) (root : Text) (entry : Entry)
    (rule : Rule) : Prop extends Meets service disk event root entry rule where
  /-- The changes are merged in. -/
  merged : event.changes.applyTo rule.properties = rule.properties
  /-- The rule is written as it stands. -/
  kept : entry.revised rule rule.properties = entry
  /-- The file has the text of the entry. -/
  read : disk.read service.index.place entry.path = .ok (Utf8.bytes entry.content)

/-- The block of a rule that an event has landed in can be written: it stands in the text. -/
theorem Landed.writable_block (landed : Landed service disk event root entry rule) :
    Utf8.Writable (Rule.write rule.selector (event.changes.applyTo rule.properties)) := by
  rw [landed.merged]
  have whole := congrArg Entry.content landed.kept
  simp only [Entry.revised, Workspace.splice] at whole
  refine landed.writable.subset fun c inside => ?_
  rw [← whole]
  simp [inside]

/-- An event that has landed in a rule changes nothing, and is applied if the disk accepts the
write. -/
theorem Landed.again (landed : Landed service disk event root entry rule) :
    let effect := service.applyEvent disk event
    (disk.verdicts.head?.join = none → effect.answer = service.updated root event entry rule) ∧
      effect.service = service ∧ effect.disk.nodes = disk.nodes := by
  intro effect
  cases judged : disk.verdicts.head?.join with
  | none =>
    obtain ⟨answer, last, written⟩ := landed.applied judged landed.writable_block
    simp only [landed.merged, landed.kept] at last written
    refine ⟨fun _ => answer, ?_, ?_⟩
    · rw [last, stored, Index.store, OrderedMap.insert_self landed.held]
    · have wrote := Disk.wrote_fill landed.normal landed.read (Utf8.bytes entry.content)
      rw [written]
      exact wrote.nodes_eq_of_bytes? (Disk.bytes?_of_read landed.normal landed.read)
  | some refusal =>
    obtain ⟨_, last, written⟩ := landed.refused judged
    exact ⟨fun accepted => by simp at accepted, last, by rw [written, Disk.nodes_judged]⟩

/-- After the block of its match was written anew an event has landed in the rule. -/
theorem landed_revised (meets : Meets service disk event root entry rule)
    (fits : Rule.Representable rule.selector (event.changes.applyTo rule.properties))
    (writable : Utf8.Writable (entry.revised rule (event.changes.applyTo rule.properties)).content)
    (wrote : disk.Wrote service.index.place entry.path
      (Utf8.bytes (entry.revised rule (event.changes.applyTo rule.properties)).content) after) :
    let properties := event.changes.applyTo rule.properties
    let revised := entry.revised rule properties
    Landed (service.stored revised) after event root revised
      (Rule.written rule.selector properties rule.start) := by
  intro properties revised
  have listed : revised.path ∈ service.index.entries.keys := meets.mem_keys
  have known : (service.index.store revised).hasUnder root = true :=
    (Index.hasUnder_store listed root).trans meets.known
  have moved : rule.revised properties rule = Rule.written rule.selector properties rule.start :=
    Rule.revised_self rule properties
  have stated : Rule.written rule.selector properties rule.start ∈ Sheet.rules revised.content := by
    rw [← moved]
    exact Sheet.revised_mem meets.stated fits meets.stated
  have matched := Stands.match?_stored meets.keyed meets.toStands fits event root
  obtain ⟨found, same, spot⟩ := Option.map_eq_some_iff.1 meets.matched
  obtain ⟨file, here⟩ := Prod.mk.inj spot
  rw [same, Option.map_some, if_pos file, file, here, moved] at matched
  obtain ⟨i, inside⟩ := List.getElem?_of_mem meets.stated
  obtain ⟨before, span, behind, around⟩ := Sheet.exists_surrounds inside
  refine ⟨⟨.of_wrote meets.standard meets.keyed meets.resolved meets.normal wrote known,
    .of_wrote meets.normal wrote meets.toStands.isReadable writable rfl stated, matched⟩,
    event.changes.applyTo_applyTo _, ?_, wrote.readable meets.toStands.isReadable⟩
  rw [around.starts]
  exact Entry.revised_written (around.splice_eq _) rfl

/-- The slot of a root is a file below it. -/
theorem isUnder_of_slot (keyed : service.index.Keyed)
    (slot : Workspace.Slot ⟨service.index, disk⟩ root path content) :
    Normal path ∧ Path.isUnder path (Path.absolute service.index.place root) = true := by
  have new : Normal (Workspace.newFile ⟨service.index, disk⟩ root) ∧
      Path.isUnder (Workspace.newFile ⟨service.index, disk⟩ root)
        (Path.absolute service.index.place root) = true :=
    ⟨Workspace.normal_newFile _ root,
      (Path.normal_absolute service.index.place root).isUnder_append (by simp)
        Workspace.isName_newFileName⟩
  cases slot with
  | known entry longest =>
    have listed := Index.mem_filesUnder_of_largest? longest
    obtain ⟨path, held, under⟩ := (Index.mem_filesUnder_iff _ _ _).1 listed
    obtain ⟨normal, rfl⟩ := keyed path entry held
    exact ⟨normal, under⟩
  | noticed _ _ => exact new
  | new _ => exact new

/-- The rules of the text before a new rule are rules of the root, and nothing is left open there if
nothing is in the longest stylesheet and none is overlooked. -/
theorem closed_of_slot (sound : Workspace.Sound ⟨service.index, disk⟩)
    (standard : service.index.Standard)
    (seen : ∀ entry, ¬ Workspace.Overlooked ⟨service.index, disk⟩ root entry)
    (slot : Workspace.Slot ⟨service.index, disk⟩ root path content)
    (closed : ∀ entry, service.index.largest? root = some entry → Sheet.Closed entry.content) :
    Sheet.Closed content ∧
      ∀ rule ∈ Sheet.rules content, (path, rule) ∈ service.index.rulesUnder root := by
  cases slot with
  | known entry longest =>
    have listed := Index.mem_filesUnder_of_largest? longest
    obtain ⟨_, _, _, parsed⟩ := of_mem_filesUnder sound listed
    rw [standard.parse_eq, Except.ok.injEq] at parsed
    refine ⟨closed entry longest, fun rule stated => ?_⟩
    rw [parsed] at stated
    exact List.mem_flatMap.2 ⟨entry, listed, List.mem_map.2 ⟨rule, stated, rfl⟩⟩
  | noticed entry overlooked => exact absurd overlooked (seen entry)
  | new _ =>
    refine ⟨by decide +kernel, fun rule stated => ?_⟩
    simp [Settled.rules_newFileHeader] at stated

/-- After a rule was appended for it an event has landed in the rule. -/
theorem landed_extended (sound : Workspace.Sound ⟨service.index, disk⟩)
    (standard : service.index.Standard)
    (above : service.config.weights.threshold < service.config.weights.exact)
    (resolved : service.resolveRoot disk event.domain event.target = .ok root)
    (unmatched : service.match? event root = none)
    (seen : ∀ entry, ¬ Workspace.Overlooked ⟨service.index, disk⟩ root entry)
    (slot : Workspace.Slot ⟨service.index, disk⟩ root path content)
    (closed : ∀ entry, service.index.largest? root = some entry → Sheet.Closed entry.content)
    (fits : Rule.Representable event.newSelector event.changes.kept)
    (writable : Utf8.Writable (content ++ Workspace.appendix event.newSelector event.changes))
    (open_ : disk.isReadable (names path) = true)
    (wrote : disk.Wrote service.index.place path
      (Utf8.bytes (content ++ Workspace.appendix event.newSelector event.changes)) after) :
    let text := content ++ Workspace.appendix event.newSelector event.changes
    let new : Entry := ⟨path, text, Sheet.rules text⟩
    Landed (service.stored new) after event root new
      (Rule.written event.newSelector event.changes.kept (content.length + 2)) := by
  intro text new
  let rule := Rule.written event.newSelector event.changes.kept (content.length + 2)
  obtain ⟨normal, under⟩ := isUnder_of_slot sound.current.keyed slot
  obtain ⟨shut, listed⟩ := closed_of_slot sound standard seen slot closed
  have appended : Workspace.appendix event.newSelector event.changes =
      .char '\n' :: .char '\n' :: Rule.write event.newSelector event.changes.kept := by
    rw [Workspace.appendix, Changes.applyTo_empty]
  have rules : Sheet.rules text = Sheet.rules content ++ [rule] := by
    simp only [text, appended]
    exact Sheet.rules_append_block shut fits
  have stated : rule ∈ Sheet.rules text := by simp [rules]
  have known : (service.index.store new).hasUnder root = true :=
    Index.hasUnder_of_mem_filesUnder
      ((Index.mem_filesUnder_iff _ _ new).2 ⟨_, Index.get?_store_self _ new, under⟩)
  have named : rule.selector ∈ event.selectors :=
    Event.newSelector_mem (Sheet.of_mem_rules stated).1.given
  -- no rule that was there is selected by a candidate, so the new one is the first that is
  have unnamed := Match.selector_not_mem_of_best?_eq_none above unmatched
  obtain ⟨front, back, space, earlier⟩ :
      ∃ front back, (service.index.store new).rulesUnder root = front ++ (path, rule) :: back ∧
        ∀ place ∈ front, place ∈ service.index.rulesUnder root :=
    Index.exists_rulesUnder_store under rules listed
  obtain ⟨found, matched, spot⟩ : ∃ found, (service.stored new).match? event root = some found ∧
      found.spot = (path, rule) := by
    rw [match?, stored, space]
    exact Match.best?_exact above (fun place held => unnamed place (earlier place held)) named
  refine ⟨⟨.of_wrote standard sound.current.keyed resolved normal wrote known,
    .of_wrote normal wrote open_ writable rfl stated, ?_⟩, ?_, ?_, wrote.readable open_⟩
  · rw [matched, Option.map_some, spot]
  · rw [← Changes.applyTo_empty]
    exact event.changes.applyTo_applyTo _
  · have whole : new.content = (content ++ [.char '\n', .char '\n']) ++
        (Rule.write event.newSelector event.changes.kept ++ []) := by
      simp [new, text, appended]
    have start : ((content ++ [CodePoint.char '\n', .char '\n']).length : Int) =
        content.length + 2 := by simp
    have written := Entry.revised_written whole rfl
    rw [start] at written
    exact written

/-- What an event writes is read as it was meant: the block is, and if a rule is appended the root
may be listed and nothing is open in the stylesheet that it goes to. -/
structure Faithful (service : Service) (disk : Disk) (event : Event) : Prop where
  /-- The block of its match is read back. -/
  revised : ∀ root found, service.resolveRoot disk event.domain event.target = .ok root →
    (service.loaded disk root).match? event root = some found →
    Rule.Representable found.rule.selector (event.changes.applyTo found.rule.properties)
  /-- The block of a new rule is read back behind the longest stylesheet. -/
  extended : ∀ root, service.resolveRoot disk event.domain event.target = .ok root →
    (service.loaded disk root).match? event root = none →
    disk.canList (names (Path.absolute service.index.place root)) = true ∧
      Rule.Representable event.newSelector event.changes.kept ∧
      ∀ entry, (service.loaded disk root).index.largest? root = some entry →
        Sheet.Closed entry.content

/-- When the root of an event is loaded the service is as sound as before, reads rules as before,
and the event still has the root. -/
theorem sound_loaded (sound : Workspace.Sound ⟨service.index, disk⟩)
    (standard : service.index.Standard)
    (resolved : service.resolveRoot disk event.domain event.target = .ok root) :
    Workspace.Sound ⟨(service.loaded disk root).index, disk⟩ ∧
      (service.loaded disk root).index.Standard ∧
      (service.loaded disk root).resolveRoot disk event.domain event.target = .ok root := by
  refine ⟨sound_ensureLoaded sound root, ?_, ?_⟩
  · rw [Index.Standard, loaded_parse]
    exact standard
  · exact resolveRoot_of_folders (service.loaded_place disk root) (fun _ folder => folder) resolved

/-- A service in which an event had a file written is the loaded one with the new entry. -/
theorem service_of_wrote (standard : service.index.Standard)
    (wrote : Workspace.Wrote ⟨(service.loaded disk root).index, disk⟩ path content
      ⟨(service.applyEvent disk event).service.index, after⟩) :
    (service.applyEvent disk event).service =
      (service.loaded disk root).stored ⟨path, content, Sheet.rules content⟩ := by
  obtain ⟨rules, parsed, index⟩ := wrote.index
  obtain ⟨last, shape⟩ := service.applyEvent_service disk event
  simp only [loaded_parse, standard.parse_eq, Except.ok.injEq] at parsed
  rw [shape] at index ⊢
  simp only at index
  rw [index, ← parsed]
  rfl

/-- What an update in a loaded service results in, by where paths are read from before. -/
theorem updated_loaded (service : Service) (disk : Disk) (root : Text) (event : Event)
    (entry : Entry) (rule : Rule) :
    ((service.loaded disk root).stored entry).updated root event entry rule =
      .applied ⟨Path.relative entry.path (Path.absolute service.index.place root), rule.selector,
        event.changes.keys, false⟩ := by
  have place : ((service.loaded disk root).stored entry).index.place = service.index.place :=
    service.loaded_place disk root
  rw [updated, place]

/-- An event that is applied faithfully lands in the rule that its result names. -/
theorem exists_landed (sound : Workspace.Sound ⟨service.index, disk⟩)
    (standard : service.index.Standard)
    (above : service.config.weights.threshold < service.config.weights.exact)
    (faithful : Faithful service disk event)
    (answer : (service.applyEvent disk event).answer = .applied patched) :
    let effect := service.applyEvent disk event
    ∃ root entry rule, Landed effect.service effect.disk event root entry rule ∧
      effect.service.updated root event entry rule =
        .applied { patched with created := false } := by
  intro effect
  cases writes_of_sound sound standard event with
  | adrift _ _ failed => simp [failed] at answer
  | still _ _ _ _ failed => simp [failed] at answer
  | started _ _ _ _ failed => simp [failed] at answer
  | noticed _ _ _ _ _ failed => simp [failed] at answer
  | emptied _ _ _ _ _ _ failed => simp [failed] at answer
  | revised root found entry resolved matched listed stated applied wrote file =>
    rw [applied, PatchResult.applied.injEq] at answer
    obtain ⟨settled, plain, aimed⟩ := sound_loaded sound standard resolved
    obtain ⟨entry', file', meets⟩ := exists_meets settled plain aimed matched
    obtain rfl : entry' = entry := by
      have held := (held_of_mem_filesUnder settled.current.keyed listed).2.2
      rw [file, ← file', meets.held] at held
      exact Option.some.inj held
    have fits := faithful.revised root found resolved matched
    have landed := landed_revised meets fits wrote.writable wrote.disk
    simp only [effect, service_of_wrote standard wrote, ← answer]
    exact ⟨root, _, _, landed, updated_loaded service disk root event _ _⟩
  | extended root path content resolved unmatched slot applied wrote =>
    rw [applied, PatchResult.applied.injEq] at answer
    obtain ⟨settled, plain, aimed⟩ := sound_loaded sound standard resolved
    obtain ⟨listable, fits, closed⟩ := faithful.extended root resolved unmatched
    have seen := not_overlooked sound.named listable
    have landed := landed_extended settled plain above aimed unmatched seen slot closed fits
      wrote.writable wrote.open_ wrote.disk
    simp only [effect, service_of_wrote standard wrote, ← answer]
    exact ⟨root, _, _, landed, updated_loaded service disk root event _ _⟩

end Service

end Restyle
