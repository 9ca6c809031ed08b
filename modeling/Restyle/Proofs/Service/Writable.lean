import Restyle.Proofs.Change.Landing
import Restyle.Proofs.Patch.Writable
import Restyle.Proofs.Service.Patch

/-!
# Texts that an event can write

What an event is to put into a file is made of the text of the file and of the texts that the event
brings. Main statement: an event whose own texts can be written leaves no file empty
(`Intends.writable`), while one that is to write a surrogate does. The events between two styles of
texts that can be written are of the first kind (`Diff.Leads.encodable`).
-/
namespace Restyle

open Utf8 (writable_append_iff)

/-- The text of a file is the one that its bytes are of. -/
theorem Disk.readText_eq_ok_iff {disk : Disk} {place : Place} {path text : Text} :
    disk.readText place path = .ok text ↔
      Utf8.Writable text ∧ disk.read place path = .ok (Utf8.bytes text) := by
  rw [Disk.readText]
  cases found : disk.read place path with
  | error fault => simp
  | ok bytes =>
    simp only [Except.ok.injEq]
    rw [← Utf8.decode_eq_ok_iff]
    refine ⟨eq_ok_of_mapError_eq_ok, fun decoded => ?_⟩
    rw [decoded]
    rfl

/-- No surrogate is a letter, a number or the low line. -/
theorem Text.isSurrogate_of_isWord {c : CodePoint} (word : Text.isWord c = true) :
    c.isSurrogate = false := by
  have apart : ∀ range ∈ Text.wordRanges, range.2 < 0xD800 ∨ 0xDFFF < range.1 := by decide +kernel
  obtain ⟨range, listed, first, last⟩ := Text.Ranges.exists_of_holds word
  cases c with
  | char c => rfl
  | surrogate offset =>
    have outside := apart range listed
    simp only [CodePoint.toNat] at first last
    omega

/-- A class name can be written. -/
theorem Match.IsClass.writable {name : Text} (named : Match.IsClass name) : Utf8.Writable name := by
  intro c held
  have proper := named.proper c held
  rw [Match.continuesName, Bool.or_eq_true, decide_eq_true_eq] at proper
  rcases proper with word | rfl
  · exact Text.isSurrogate_of_isWord word
  · rfl

/-- The texts that an event may write of its own can be written: the selector of a new rule, and the
names and new values of its changes. -/
def Event.Encodable (event : Event) : Prop :=
  Utf8.Writable event.newSelector ∧ ∀ entry ∈ event.changes.kept.entries,
    Utf8.Writable (Sheet.textsOf entry)

instance (event : Event) : Decidable event.Encodable := inferInstanceAs (Decidable (_ ∧ _))

/-- An event that leads from one style to another can be written where the two styles can. -/
theorem Diff.Leads.encodable {old new : Text → Text → Option Text} {event : Event}
    (leads : Leads old new event)
    (differs : ∃ name, old event.selector name ≠ new event.selector name)
    (before : ∀ selector name value, old selector name = some value →
      Utf8.Writable selector ∧ Utf8.Writable name ∧ Utf8.Writable value)
    (after : ∀ selector name value, new selector name = some value →
      Utf8.Writable selector ∧ Utf8.Writable name ∧ Utf8.Writable value) : event.Encodable := by
  have named : Utf8.Writable event.selector := by
    obtain ⟨name, apart⟩ := differs
    cases gone : old event.selector name with
    | some value => exact (before _ _ _ gone).1
    | none =>
      rw [gone] at apart
      obtain ⟨value, given⟩ := Option.ne_none_iff_exists'.1 apart.symm
      exact (after _ _ _ given).1
  refine ⟨?_, fun entry listed => ?_⟩
  · rcases leads.newSelector_cases.2 with same | ⟨name, single, same⟩
    · exact same ▸ named
    · rw [same]
      exact List.forall_mem_cons.2 ⟨rfl, single.writable⟩
  · obtain ⟨⟨name, change⟩, held, same⟩ := List.mem_filterMap.1 listed
    obtain ⟨value, kept, rfl⟩ := Option.map_eq_some_iff.1 same
    rw [← OrderedMap.get?_eq_some_iff, leads.changes, change?] at held
    split at held
    · simp at held
    · rename_i apart
      obtain rfl := Option.some.inj held
      rw [Changes.value?_eq_some_iff] at kept
      refine writable_append_iff.2 ?_
      cases gone : new event.selector name with
      | some value' =>
        rw [gone] at kept
        obtain rfl := Option.some.inj kept.1
        exact (after _ _ _ gone).2
      | none =>
        rw [gone] at kept
        exact absurd (Option.some.inj kept.1).symm kept.2

namespace Service

variable {service : Service} {disk : Disk} {event : Event} {root path content : Text}

/-- What an event with texts that can be written is to put into a file can be written, when the
texts of the entries can and have their rules. -/
theorem Intends.writable (intends : Intends service disk event root path content)
    (encodable : event.Encodable)
    (known : ∀ entry ∈ service.index.filesUnder root,
      Utf8.Writable entry.content ∧ entry.rules = Sheet.rules entry.content) :
    Utf8.Writable content := by
  cases intends with
  | revised found entry matched listed file stated =>
    obtain ⟨whole, ruled⟩ := known entry listed
    exact Workspace.writable_splice_applyTo whole (ruled ▸ stated) encodable.2
  | extended _ content unmatched slot =>
    have whole : Utf8.Writable content := by
      cases slot with
      | known entry longest => exact (known entry (Index.mem_filesUnder_of_largest? longest)).1
      | noticed entry overlooked => exact (Index.readEntry_eq_ok_iff.1 overlooked.read).2.2.2
      | new bare => exact Workspace.writable_newFileHeader
    exact Workspace.writable_append_appendix whole (Sheet.writable_write encodable.1 encodable.2)

/-- The text that an event is to put into a file is not empty. -/
theorem Intends.ne_nil (intends : Intends service disk event root path content) :
    content ≠ [] := by
  cases intends with
  | revised found entry matched listed file stated =>
    simp [Workspace.splice, Rule.write]
  | extended _ content unmatched slot => simp [Workspace.appendix]

end Service

/-- A write of a text that is not empty leaves no file empty that was not. -/
theorem Workspace.Wrote.empty_of_empty {before after : Workspace} {path content : Text}
    (wrote : Wrote before path content after) (full : content ≠ []) {trail : Trail}
    (empty : after.disk.bytes? trail = some []) : before.disk.bytes? trail = some [] := by
  rw [Disk.bytes?, wrote.disk.node?_eq] at empty
  by_cases here : trail = Path.names path
  · rw [if_pos here] at empty
    have bare : Utf8.bytes content = [] := Option.some.inj empty
    have same := Utf8.decode_bytes wrote.writable
    rw [bare] at same
    exact absurd
      (Except.ok.inj ((Utf8.decode_bytes (Utf8.writable_toText "")).symm.trans same)).symm
      full
  · rwa [if_neg here] at empty

end Restyle
