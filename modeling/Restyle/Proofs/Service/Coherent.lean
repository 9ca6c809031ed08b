import Restyle.Proofs.Service.Led

/-!
# Coherence of the cache

Entries stand under absolute paths, and one file can have two of those: an absolute path keeps two
separators at its front as they are. An event that is applied under one of the two paths renews the
entry of that path and leaves the other one with the old text (`not_coherent_twin`). An event whose
texts cannot be written empties a file and leaves its entry. Main statement: after every run of
operations the file of every entry has the text of one of the entries that it has, of which there
are two at most, or was left empty so; where all paths begin with the same separators every other
entry agrees with its file and no two name one file; and no file is left empty where the texts of
all events can be written (`run_coherent`).
-/
namespace Restyle.Service

open Restyle.Path (Normal names)

variable {service : Service} {disk : Disk} {strayed : List Trail} {place : Place} {lead : Text}

/-- The cache agrees with the disk, but for the files that strayed: every entry has the text of its
file and the rules of that text, and no two entries name one file. -/
structure Coherent (service : Service) (disk : Disk) (strayed : List Trail := []) : Prop where
  /-- The file of an entry has the entry's text. -/
  texts : ∀ path entry, service.index.entries.get? path = some entry → names path ∉ strayed →
    disk.readText service.index.place path = .ok entry.content
  /-- The rules of an entry are those of its text. -/
  ruled : ∀ path entry, service.index.entries.get? path = some entry →
    entry.rules = Sheet.rules entry.content
  /-- Entries of different paths are those of different files. -/
  apart : ∀ path ∈ service.index.paths, ∀ other ∈ service.index.paths, ∀ trail,
    disk.locate service.index.place path = .ok trail →
    disk.locate service.index.place other = .ok trail → path = other

/-- The cache agrees with the disk up to a second path of the same file, but for the files that
strayed: every entry has the rules of its text, its file can be read, and the file has the text of
one of its entries, whose paths differ in the separators at their front. -/
structure Paired (service : Service) (disk : Disk) (strayed : List Trail) : Prop where
  /-- The file of an entry can be read. -/
  present : ∀ path entry, service.index.entries.get? path = some entry →
    ∃ bytes, disk.read service.index.place path = .ok bytes
  /-- The file of an entry has the text of some entry of that file. -/
  texts : ∀ path entry, service.index.entries.get? path = some entry → names path ∉ strayed →
    ∃ twin entry', service.index.entries.get? twin = some entry' ∧ names twin = names path ∧
      disk.readText service.index.place twin = .ok entry'.content
  /-- The rules of an entry are those of its text. -/
  ruled : ∀ path entry, service.index.entries.get? path = some entry →
    entry.rules = Sheet.rules entry.content
  /-- Entries of different paths with the same separators at their front are those of different
  files. -/
  apart : ∀ path ∈ service.index.paths, ∀ other ∈ service.index.paths, ∀ trail,
    disk.locate service.index.place path = .ok trail →
    disk.locate service.index.place other = .ok trail →
    Path.leading path = Path.leading other → path = other

/-- A path in an index has an entry. -/
theorem exists_of_mem_paths {path : Text} (listed : path ∈ service.index.paths) :
    ∃ entry, service.index.entries.get? path = some entry :=
  Option.isSome_iff_exists.1 ((OrderedMap.contains_iff _ _).2 listed)

/-- A path with an entry is in the index. -/
theorem mem_paths_of_get? {path : Text} {entry : Entry}
    (held : service.index.entries.get? path = some entry) : path ∈ service.index.paths :=
  OrderedMap.mem_keys_of_get? held

/-- Tracked entries agree with the disk up to a second path of the same file. -/
theorem Tracked.paired (tracked : Tracked service disk strayed) :
    Paired service disk strayed := by
  refine ⟨tracked.present, ?_, tracked.ruled, ?_⟩
  · intro path entry held settled
    obtain ⟨twin, entry', held', same, read⟩ := tracked.fresh path entry held settled
    exact ⟨twin, entry', held', same,
      Disk.readText_eq_ok_iff.2 ⟨tracked.writable twin entry' held', read⟩⟩
  · intro path listed other listed' trail led led' same
    obtain ⟨entry, held⟩ := exists_of_mem_paths listed
    obtain ⟨entry', held'⟩ := exists_of_mem_paths listed'
    have normal := (tracked.keyed path entry held).1
    have normal' := (tracked.keyed other entry' held').1
    refine normal.eq_of_names_eq normal' same ?_
    rw [← Disk.eq_of_locate normal led, ← Disk.eq_of_locate normal' led']

/-- A file has no more than one entry. -/
def Sole (service : Service) (trail : Trail) : Prop :=
  ∀ path ∈ service.index.paths, ∀ other ∈ service.index.paths,
    names path = trail → names other = trail → path = other

/-- Where all paths begin the same no file has more than one entry. -/
theorem Led.sole (led : Led service place lead) (keyed : service.index.Keyed) (trail : Trail) :
    Sole service trail := by
  intro path listed other listed' here there
  obtain ⟨entry, held⟩ := exists_of_mem_paths listed
  obtain ⟨entry', held'⟩ := exists_of_mem_paths listed'
  have begins : Path.leading path = Path.leading other :=
    (led.entries path entry held).trans (led.entries other entry' held').symm
  exact (keyed path entry held).1.eq_of_names_eq (keyed other entry' held').1 begins
    (here.trans there.symm)

/-- The only entry of a file that did not stray has the text of the file. -/
theorem Tracked.read_of_sole (tracked : Tracked service disk strayed) {path : Text} {entry : Entry}
    (held : service.index.entries.get? path = some entry) (sole : Sole service (names path))
    (settled : names path ∉ strayed) :
    disk.read service.index.place path = .ok (Utf8.bytes entry.content) := by
  obtain ⟨twin, entry', held', same, read⟩ := tracked.fresh path entry held settled
  obtain rfl := sole twin (mem_paths_of_get? held') path (mem_paths_of_get? held) same rfl
  rw [held, Option.some.injEq] at held'
  rw [held']
  exact read

/-- Tracked entries whose paths begin the same agree with the disk. -/
theorem Tracked.coherent (tracked : Tracked service disk strayed)
    (led : Led service place lead) : Coherent service disk strayed := by
  refine ⟨?_, tracked.ruled, ?_⟩
  · intro path entry held settled
    exact Disk.readText_eq_ok_iff.2 ⟨tracked.writable path entry held,
      tracked.read_of_sole held (led.sole tracked.keyed _) settled⟩
  · intro path listed other listed' trail here there
    obtain ⟨entry, held⟩ := exists_of_mem_paths listed
    obtain ⟨entry', held'⟩ := exists_of_mem_paths listed'
    exact tracked.paired.apart path listed other listed' trail here there
      ((led.entries path entry held).trans (led.entries other entry' held').symm)

/-- A session after operations of a new service on a disk. -/
def Session.operated (place : Place) (config : Config) (disk : Disk) (operations : List Operation) :
    Session :=
  (start place config disk).run (operations.map .operate)

/-- After every run of operations of a new service the cache agrees with the disk up to a second
path of the same file, but for files that an event left empty; if all paths that the service is
given begin with the same separators, it agrees with the disk but for those files, and no two
entries name one file; and if the texts of all events can be written, there are no such files. -/
theorem run_coherent (place : Place) (config : Config) (disk : Disk) (named : disk.Named)
    (operations : List Operation) :
    let now := Session.operated place config disk operations
    (∀ trail ∈ now.strayed, now.disk.bytes? trail = some []) ∧
      Paired now.service now.disk now.strayed ∧
      (∀ lead, (∀ operation ∈ operations, operation.Led place lead) →
        Coherent now.service now.disk now.strayed) ∧
      ((∀ operation ∈ operations, operation.Encodable place) → now.strayed = []) := by
  intro now
  have start := Session.tracked_start named place config
  have tracked := Session.tracked_run start (operations.map .operate)
  refine ⟨?_, tracked.paired, fun lead given => ?_, fun encodable => ?_⟩
  · exact Session.empty_run start (by simp [Session.start]) operations
  · refine tracked.coherent (Session.led_run (Session.led_start place config disk lead) start ?_)
    intro action listed
    obtain ⟨operation, member, rfl⟩ := List.mem_map.1 listed
    exact given operation member
  · exact Session.strayed_run start rfl rfl encodable

/-- An event for a folder below the project leaves a coherent cache. -/
theorem run_coherent_target :
    let place : Place := ⟨"/w".toText, "/h".toText, [], {}⟩
    let disk := Disk.empty.put ["p".toText, "q".toText, "b.css".toText]
      (.file (Utf8.bytes ".b\x7bx:1\x7d".toText) true)
    let event : Event :=
      { selector := ".b".toText, changes := .ofList [("x".toText, ⟨some "2".toText, none⟩)]
        target := some (.string "/p/./q".toText) }
    let operations : List Operation := [.configure (.string "/p".toText) [], .applyEvent event]
    let now := Session.operated place {} disk operations
    disk.Named ∧ (∀ operation ∈ operations, operation.Led place [.char '/']) ∧
      (∀ operation ∈ operations, operation.Encodable place) ∧
      (now.disk.readText place "/p/q/b.css".toText).toOption =
        some ".b \x7b\n  x: 2;\n\x7d".toText ∧
      Coherent now.service now.disk := by
  intro place disk event operations now
  have named : disk.Named := by decide +kernel
  have root : Path.leading (Path.absolute place "/p".toText) = [.char '/'] := by decide +kernel
  have folder : Path.leading (Path.absolute place "/p/./q".toText) = [.char '/'] := by
    decide +kernel
  have led : ∀ operation ∈ operations, operation.Led place [.char '/'] := by
    intro operation listed
    rcases List.mem_pair.1 listed with rfl | rfl
    · refine ⟨fun text shown => ?_, by simp⟩
      rw [← Except.ok.inj shown]
      exact root
    · intro target given text shown
      obtain rfl := Option.some.inj given
      rw [← Except.ok.inj shown]
      exact folder
  have encodable : ∀ operation ∈ operations, operation.Encodable place := by
    intro operation listed other applies
    rcases List.mem_pair.1 listed with rfl | rfl
    · simp [Operation.event?] at applies
    · rw [← Option.some.inj applies]
      decide +kernel
  obtain ⟨_, _, coherent, bare⟩ := run_coherent place {} disk named operations
  have whole := coherent [.char '/'] led
  rw [bare encodable] at whole
  exact ⟨named, led, encodable, by decide +kernel, whole⟩

/-- An event whose target path begins with two separators, for the root of the project, leaves the
old text in the entry of a file that it rewrites. -/
theorem not_coherent_twin :
    let place : Place := ⟨"/w".toText, "/h".toText, [], {}⟩
    let disk := Disk.empty.put ["p".toText, "a.css".toText]
      (.file (Utf8.bytes ".a\x7bx:1\x7d".toText) true)
    let event : Event :=
      { selector := ".a".toText, changes := .ofList [("x".toText, ⟨some "2".toText, none⟩)]
        target := some (.string "//p".toText) }
    let now := Session.operated place {} disk
      [.configure (.string "/p".toText) [], .applyEvent event]
    disk.Named ∧ now.service.index.paths = ["/p/a.css".toText, "//p/a.css".toText] ∧
      (now.service.index.entries.get? "/p/a.css".toText).map Entry.content =
        some ".a\x7bx:1\x7d".toText ∧
      (now.disk.readText place "/p/a.css".toText).toOption =
        some ".a \x7b\n  x: 2;\n\x7d".toText ∧
      ¬ Coherent now.service now.disk := by
  intro place disk event now
  have paths : now.service.index.paths = ["/p/a.css".toText, "//p/a.css".toText] := by
    decide +kernel
  have here : (now.disk.locate now.service.index.place "/p/a.css".toText).toOption =
      some ["p".toText, "a.css".toText] := by decide +kernel
  have there : (now.disk.locate now.service.index.place "//p/a.css".toText).toOption =
      some ["p".toText, "a.css".toText] := by decide +kernel
  refine ⟨by decide +kernel, paths, by decide +kernel, by decide +kernel, fun coherent => ?_⟩
  have same := coherent.apart "/p/a.css".toText (by rw [paths]; simp) "//p/a.css".toText
    (by rw [paths]; simp) ["p".toText, "a.css".toText] (Index.toOption_eq_some_iff.1 here)
    (Index.toOption_eq_some_iff.1 there)
  exact absurd same (by decide)

end Restyle.Service
