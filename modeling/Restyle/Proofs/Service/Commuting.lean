import Restyle.Proofs.Service.Coherent
import Restyle.Proofs.Service.Meets

/-!
# Events that may be exchanged

Two events that meet different rules do not meet in what they write: each finds its rule again
after the other was applied, and each writes its own span of its own file. Main statement: when the
blocks of both can be written they may be applied in either order, with the same results, the same
disk and the same service (`applyEvent_comm`). An event whose block cannot be written empties the
file of both, and the other one brings it back when it comes second (`not_comm_surrogate`).
-/
namespace Restyle

open Restyle.Path (Normal names)

namespace Disk

variable {disk other : Disk} {entry entry' : Entry}

/-- Two disks with the same items, of which one has the verdicts on the next two writes in the
order in which the other one has not. -/
structure Exchanged (disk other : Disk) : Prop where
  /-- The items are the same. -/
  nodes : other.nodes = disk.nodes
  /-- The next write of the other disk has the verdict on the second one. -/
  first : other.verdicts.head?.join = disk.judged.verdicts.head?.join
  /-- The second write of the other disk has the verdict on the next one. -/
  second : other.judged.verdicts.head?.join = disk.verdicts.head?.join
  /-- All later writes have the same verdicts. -/
  later : other.judged.judged.verdicts = disk.judged.judged.verdicts

/-- After two writes the disks are one. -/
theorem Exchanged.judged_judged (exchanged : disk.Exchanged other) :
    other.judged.judged = disk.judged.judged := by
  have nodes := exchanged.nodes
  have later := exchanged.later
  simp only [judged, mk.injEq] at later ⊢
  exact ⟨nodes, later⟩

/-- A disk that accepts every write has the verdicts on the next two in either order. -/
theorem exchanged_self (accepting : disk.verdicts = []) : disk.Exchanged disk := by
  have judged : disk.judged.verdicts = [] := by rw [judged, accepting, List.drop_nil]
  exact ⟨rfl, by rw [judged, accepting], by rw [judged, accepting], rfl⟩

/-- A stylesheet of which two rules are written one after the other has the later text. -/
theorem holding_revised (disk : Disk) (entry : Entry) (rule : Rule) (properties : Properties) :
    (disk.holding entry).holding (entry.revised rule properties) =
      disk.holding (entry.revised rule properties) :=
  disk.fill_fill _ _ _

/-- Of two files that are there either may be written first. -/
theorem holding_comm (apart : names entry.path ≠ names entry'.path)
    (known : names entry.path ∈ disk.nodes.keys) (known' : names entry'.path ∈ disk.nodes.keys) :
    (disk.holding entry).holding entry' = (disk.holding entry').holding entry :=
  fill_comm apart known known' _ _

end Disk

/-- Of two rules of a stylesheet either may be written anew first. -/
theorem Entry.revised_revised {entry : Entry} {rule other : Rule}
    (held : rule ∈ Sheet.rules entry.content) (held' : other ∈ Sheet.rules entry.content)
    (apart : rule ≠ other) (properties properties' : Properties) :
    (entry.revised rule properties).revised (rule.revised properties other) properties' =
      (entry.revised other properties').revised (other.revised properties' rule) properties := by
  have same := Sheet.splice_splice held held' apart properties properties'
  simp only [revised, Rule.selector_revised, same]

namespace Service

variable {service : Service} {disk other : Disk} {first second : Event} {root root' : Text}
  {entry entry' : Entry} {rule rule' : Rule}

/-- An entry of which two rules are written one after the other is the later one. -/
theorem stored_revised (service : Service) (entry : Entry) (rule : Rule)
    (properties : Properties) :
    (service.stored entry).stored (entry.revised rule properties) =
      service.stored (entry.revised rule properties) := by
  simp only [stored, Index.store, Entry.revised, OrderedMap.insert_insert]

/-- Of two entries that are known either may be stored first. -/
theorem stored_comm (apart : entry.path ≠ entry'.path)
    (known : entry.path ∈ service.index.entries.keys)
    (known' : entry'.path ∈ service.index.entries.keys) :
    (service.stored entry).stored entry' = (service.stored entry').stored entry := by
  simp only [stored, Index.store, OrderedMap.insert_comm apart known known']

/-- What two events come to, one after the other: their results, the service and the disk. -/
def applyBoth (service : Service) (disk : Disk) (first second : Event) :
    (PatchResult × PatchResult) × Service × Disk :=
  let one := service.applyEvent disk first
  let two := one.service.applyEvent one.disk second
  ((one.answer, two.answer), two.service, two.disk)

section

variable {refusal refusal' : Refusal}

/-- Two events that are refused to write change nothing. -/
theorem applyBoth_refused (meets : Meets service disk first root entry rule)
    (meets' : Meets service disk second root' entry' rule')
    (judged : disk.verdicts.head?.join = some refusal)
    (judged' : disk.judged.verdicts.head?.join = some refusal') :
    service.applyBoth disk first second =
      ((barred entry refusal, barred entry' refusal'), service, disk.judged.judged) := by
  obtain ⟨answer, same, last⟩ := meets.refused judged
  obtain ⟨answer', same', last'⟩ := (meets'.congr disk.nodes_judged).refused judged'
  simp only [applyBoth, answer, same, last, answer', same', last']

/-- When only the first of two events is refused to write, the rule of the second is written. -/
theorem applyBoth_refused_first (meets : Meets service disk first root entry rule)
    (meets' : Meets service disk second root' entry' rule')
    (writable : Utf8.Writable
      (Rule.write rule'.selector (second.changes.applyTo rule'.properties)))
    (judged : disk.verdicts.head?.join = some refusal)
    (accepted : disk.judged.verdicts.head?.join = none) :
    let revised := entry'.revised rule' (second.changes.applyTo rule'.properties)
    service.applyBoth disk first second =
      ((barred entry refusal, service.updated root' second entry' rule'), service.stored revised,
        disk.judged.judged.holding revised) := by
  obtain ⟨answer, same, last⟩ := meets.refused judged
  obtain ⟨answer', same', last'⟩ := (meets'.congr disk.nodes_judged).applied accepted writable
  simp only [applyBoth, answer, same, last, answer', same', last']

/-- When only the second of two events is refused to write, the rule of the first is written. -/
theorem applyBoth_refused_second (meets : Meets service disk first root entry rule)
    (meets' : Meets service disk second root' entry' rule')
    (fits : Rule.Representable rule.selector (first.changes.applyTo rule.properties))
    (writable : Utf8.Writable
      (Rule.write rule.selector (first.changes.applyTo rule.properties)))
    (apart : entry'.path = entry.path → rule' ≠ rule)
    (accepted : disk.verdicts.head?.join = none)
    (judged : disk.judged.verdicts.head?.join = some refusal) :
    let revised := entry.revised rule (first.changes.applyTo rule.properties)
    service.applyBoth disk first second =
      ((service.updated root first entry rule, barred entry' refusal), service.stored revised,
        disk.judged.judged.holding revised) := by
  obtain ⟨answer, same, last⟩ := meets.applied accepted writable
  obtain ⟨later, moved, still, path, _⟩ := (meets'.congr disk.nodes_judged).persists
    (meets.congr disk.nodes_judged).toStands fits writable apart
  obtain ⟨answer', same', last'⟩ := still.refused judged
  simp only [applyBoth, answer, same, last, answer', same', last', barred, path]
  rfl

/-- When two events are not refused to write, both rules are written, the second one where it
stands then. -/
theorem applyBoth_accepted (meets : Meets service disk first root entry rule)
    (meets' : Meets service disk second root' entry' rule')
    (fits : Rule.Representable rule.selector (first.changes.applyTo rule.properties))
    (writable : Utf8.Writable
      (Rule.write rule.selector (first.changes.applyTo rule.properties)))
    (writable' : Utf8.Writable
      (Rule.write rule'.selector (second.changes.applyTo rule'.properties)))
    (apart : entry'.path = entry.path → rule' ≠ rule)
    (accepted : disk.verdicts.head?.join = none)
    (accepted' : disk.judged.verdicts.head?.join = none) :
    let properties := first.changes.applyTo rule.properties
    let properties' := second.changes.applyTo rule'.properties
    let revised := entry.revised rule properties
    let last := if entry'.path = entry.path then
        revised.revised (rule.revised properties rule') properties'
      else entry'.revised rule' properties'
    service.applyBoth disk first second =
      ((service.updated root first entry rule, service.updated root' second entry' rule'),
        (service.stored revised).stored last,
        (disk.judged.judged.holding revised).holding last) := by
  intro properties properties' revised last
  obtain ⟨answer, same, there⟩ := meets.applied accepted writable
  obtain ⟨later, moved, still, path, selector, kept, place⟩ :=
    (meets'.congr disk.nodes_judged).persists (meets.congr disk.nodes_judged).toStands fits writable
      apart
  have whole : later.revised moved properties' = last := by
    simp only [last]
    split at place <;> rename_i here <;> obtain ⟨rfl, rfl⟩ := Prod.mk.inj place
    · rw [if_pos here]
    · rw [if_neg here]
  obtain ⟨answer', same', there'⟩ := still.applied accepted' (by rwa [selector, kept])
  rw [kept, whole] at same' there'
  simp only [applyBoth, answer, same, there, answer', same', there', updated, path, selector]
  rfl

end

/-- Two events that meet different rules come to the same in either order, when the disk has the
same verdict on the write of each. -/
theorem applyBoth_comm (meets : Meets service disk first root entry rule)
    (meets' : Meets service disk second root' entry' rule')
    (fits : Rule.Representable rule.selector (first.changes.applyTo rule.properties))
    (fits' : Rule.Representable rule'.selector (second.changes.applyTo rule'.properties))
    (writable : Utf8.Writable
      (Rule.write rule.selector (first.changes.applyTo rule.properties)))
    (writable' : Utf8.Writable
      (Rule.write rule'.selector (second.changes.applyTo rule'.properties)))
    (apart : entry.path = entry'.path → rule ≠ rule')
    (separate : entry.path ≠ entry'.path → names entry.path ≠ names entry'.path)
    (exchanged : disk.Exchanged other) :
    service.applyBoth other second first =
      Prod.map Prod.swap id (service.applyBoth disk first second) := by
  have apart' : entry'.path = entry.path → rule' ≠ rule := fun same => (apart same.symm).symm
  have there := meets.congr exchanged.nodes
  have there' := meets'.congr exchanged.nodes
  have verdict := exchanged.first
  have verdict' := exchanged.second
  cases judged : disk.verdicts.head?.join with
  | some refusal =>
    rw [judged] at verdict'
    cases judged' : disk.judged.verdicts.head?.join with
    | some refusal' =>
      rw [judged'] at verdict
      rw [applyBoth_refused meets meets' judged judged',
        applyBoth_refused there' there verdict verdict', exchanged.judged_judged]
      rfl
    | none =>
      rw [judged'] at verdict
      rw [applyBoth_refused_first meets meets' writable' judged judged',
        applyBoth_refused_second there' there fits' writable' apart verdict verdict',
        exchanged.judged_judged]
      rfl
  | none =>
    rw [judged] at verdict'
    cases judged' : disk.judged.verdicts.head?.join with
    | some refusal' =>
      rw [judged'] at verdict
      rw [applyBoth_refused_second meets meets' fits writable apart' judged judged',
        applyBoth_refused_first there' there writable verdict verdict', exchanged.judged_judged]
      rfl
    | none =>
      rw [judged'] at verdict
      rw [applyBoth_accepted meets meets' fits writable writable' apart' judged judged',
        applyBoth_accepted there' there fits' writable' writable apart verdict verdict',
        exchanged.judged_judged]
      by_cases here : entry.path = entry'.path
      · have whole : entry' = entry := by
          have held := meets.held
          rw [here, meets'.held] at held
          exact Option.some.inj held
        subst whole
        rw [if_pos rfl, if_pos rfl, stored_revised, stored_revised, Disk.holding_revised,
          Disk.holding_revised, Entry.revised_revised meets.stated meets'.stated (apart rfl)]
        rfl
      · let revised := entry.revised rule (first.changes.applyTo rule.properties)
        let revised' := entry'.revised rule' (second.changes.applyTo rule'.properties)
        have paths : revised.path ≠ revised'.path := here
        have trails : names revised.path ≠ names revised'.path := separate here
        have present : names revised.path ∈ disk.judged.judged.nodes.keys :=
          meets.toStands.mem_keys_nodes
        have present' : names revised'.path ∈ disk.judged.judged.nodes.keys :=
          meets'.toStands.mem_keys_nodes
        have services : (service.stored revised').stored revised =
            (service.stored revised).stored revised' :=
          (stored_comm paths meets.mem_keys meets'.mem_keys).symm
        have disks : (disk.judged.judged.holding revised').holding revised =
            (disk.judged.judged.holding revised).holding revised' :=
          (Disk.holding_comm trails present present').symm
        rw [if_neg here, if_neg fun same => here same.symm, services, disks]
        rfl

/-- Of two events that meet different rules in a service with one entry for each file, and whose
blocks can be written, either may be applied first: results, service and disk come out the same,
when the disk has the same verdict on the write of each. -/
theorem applyEvent_comm (named : disk.Named) (current : service.index.Current disk)
    (standard : service.index.Standard) (sole : ∀ trail, Sole service trail)
    (resolved : service.resolveRoot disk first.domain first.target = .ok root)
    (resolved' : service.resolveRoot disk second.domain second.target = .ok root')
    {found found' : Match.Found} (matched : service.match? first root = some found)
    (matched' : service.match? second root' = some found')
    (apart : found.file ≠ found'.file ∨ found.rule.start ≠ found'.rule.start ∨
      found.rule.stop ≠ found'.rule.stop)
    (fits : Rule.Representable found.rule.selector
      (first.changes.applyTo found.rule.properties))
    (fits' : Rule.Representable found'.rule.selector
      (second.changes.applyTo found'.rule.properties))
    (writable : Utf8.Writable
      (Rule.write found.rule.selector (first.changes.applyTo found.rule.properties)))
    (writable' : Utf8.Writable
      (Rule.write found'.rule.selector (second.changes.applyTo found'.rule.properties)))
    (exchanged : disk.Exchanged other) :
    let one := service.applyEvent disk first
    let two := one.service.applyEvent one.disk second
    let two' := service.applyEvent other second
    let one' := two'.service.applyEvent two'.disk first
    one'.answer = one.answer ∧ two'.answer = two.answer ∧
      one'.service = two.service ∧ one'.disk = two.disk := by
  intro one two two' one'
  have sound : Workspace.Sound ⟨service.index, disk⟩ := ⟨named, current⟩
  obtain ⟨entry, file, meets⟩ := exists_meets sound standard resolved matched
  obtain ⟨entry', file', meets'⟩ := exists_meets sound standard resolved' matched'
  have other_rule : entry.path = entry'.path → found.rule ≠ found'.rule := by
    intro here same
    rw [file, file'] at here
    simp [here, same] at apart
  have separate : entry.path ≠ entry'.path → names entry.path ≠ names entry'.path :=
    fun away same => away (sole _ _ meets.mem_keys _ meets'.mem_keys rfl same.symm)
  have both :=
    applyBoth_comm meets meets' fits fits' writable writable' other_rule separate exchanged
  have answers : (two'.answer, one'.answer) = (two.answer, one.answer) := congrArg Prod.fst both
  have state : (one'.service, one'.disk) = (two.service, two.disk) := congrArg Prod.snd both
  obtain ⟨answer', answer⟩ := Prod.mk.inj answers
  obtain ⟨services, disks⟩ := Prod.mk.inj state
  exact ⟨answer, answer', services, disks⟩

/-- The law at two rules of one stylesheet: one event removes a property of the first rule, the
other one gives the second rule a new one. -/
theorem applyEvent_comm_twofold :
    let place : Place := ⟨"/w".toText, "/h".toText, [], {}⟩
    let disk := Disk.empty.put ["p".toText, "a.css".toText]
      (.file (Utf8.bytes ".a\x7bx:1;y:2\x7d /* . */ .b\x7bz:3\x7d".toText) true)
    let index := ((Index.new place).loadRoot disk "/p".toText).2
    let service : Service := { config := {}, index, root := some "/p".toText }
    let first : Event :=
      { selector := ".a".toText, changes := .ofList [("x".toText, ⟨none, none⟩)] }
    let second : Event :=
      { selector := ".b".toText, changes := .ofList [("w".toText, ⟨some "4".toText, none⟩)] }
    let one := service.applyEvent disk first
    let two := one.service.applyEvent one.disk second
    let two' := service.applyEvent disk second
    let one' := two'.service.applyEvent two'.disk first
    disk.Named ∧ service.index.Current disk ∧ service.index.Standard ∧
      (∀ trail, Sole service trail) ∧ disk.Exchanged disk ∧
      one.answer = .applied ⟨"a.css".toText, ".a".toText, ["x".toText], false⟩ ∧
      two.answer = .applied ⟨"a.css".toText, ".b".toText, ["w".toText], false⟩ ∧
      one'.answer = one.answer ∧ two'.answer = two.answer ∧ one'.service = two.service ∧
      one'.disk = two.disk := by
  intro place disk index service first second one two two' one'
  have named : disk.Named := by decide +kernel
  obtain ⟨current, standard⟩ : service.index.Current disk ∧ service.index.Standard := by
    simp only [service]
    exact Index.loadRoot_new place named "/p".toText
  have paths : service.index.paths = ["/p/a.css".toText] := by decide +kernel
  have sole : ∀ trail, Sole service trail := by
    intro trail path listed other listed' _ _
    rw [paths, List.mem_singleton] at listed listed'
    rw [listed, listed']
  have exchanged : disk.Exchanged disk := Disk.exchanged_self rfl
  let rule : Rule :=
    ⟨".a".toText, .ofList [("x".toText, "1".toText), ("y".toText, "2".toText)], 0, 11, by decide⟩
  let rule' : Rule := ⟨".b".toText, .ofList [("z".toText, "3".toText)], 20, 27, by decide⟩
  have matched : service.match? first "/p".toText =
      some ⟨"/p/a.css".toText, rule, ".a".toText, 100⟩ := by decide +kernel
  have matched' : service.match? second "/p".toText =
      some ⟨"/p/a.css".toText, rule', ".b".toText, 100⟩ := by decide +kernel
  refine ⟨named, current, standard, sole, exchanged, by decide +kernel, by decide +kernel, ?_⟩
  exact applyEvent_comm named current standard sole rfl rfl matched matched'
    (.inr (.inl (by decide))) (by decide +kernel) (by decide +kernel) (by decide +kernel)
    (by decide +kernel) exchanged

/-- Of two events for two rules of one stylesheet, one of which has a block that is read back as it
is but cannot be written, the other one brings the stylesheet back when it comes second, and finds
it lost when it comes first. -/
theorem not_comm_surrogate :
    let place : Place := ⟨"/w".toText, "/h".toText, [], {}⟩
    let disk := Disk.empty.put ["p".toText, "a.css".toText]
      (.file (Utf8.bytes ".a\x7bx:1\x7d .b\x7bz:3\x7d".toText) true)
    let index := ((Index.new place).loadRoot disk "/p".toText).2
    let service : Service := { config := {}, index, root := some "/p".toText }
    let first : Event :=
      { selector := ".a".toText
        changes := .ofList [("x".toText, ⟨some [.surrogate 0], none⟩)] }
    let second : Event :=
      { selector := ".b".toText, changes := .ofList [("z".toText, ⟨some "4".toText, none⟩)] }
    let one := service.applyEvent disk first
    let two := one.service.applyEvent one.disk second
    let two' := service.applyEvent disk second
    let one' := two'.service.applyEvent two'.disk first
    let block := (service.match? first "/p".toText).map fun found =>
      (found.rule.selector, first.changes.applyTo found.rule.properties)
    disk.Named ∧ service.index.Current disk ∧ service.index.Standard ∧
      block.any (fun block => decide (Rule.Representable block.1 block.2)) = true ∧
      (two.disk.readText place "/p/a.css".toText).toOption =
        some ".a\x7bx:1\x7d .b \x7b\n  z: 4;\n\x7d".toText ∧
      (one'.disk.readText place "/p/a.css".toText).toOption = some [] := by
  intro place disk index service first second one two two' one' block
  have named : disk.Named := by decide +kernel
  obtain ⟨current, standard⟩ : service.index.Current disk ∧ service.index.Standard := by
    simp only [service]
    exact Index.loadRoot_new place named "/p".toText
  exact ⟨named, current, standard, by decide +kernel, by decide +kernel, by decide +kernel⟩

end Service

end Restyle
