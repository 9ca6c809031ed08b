import Restyle.Proofs.Index.Scanned
import Restyle.Proofs.Service.Coherent

/-!
# The folders that a service searched

A root is loaded when it is asked for and has no entry below it. So the entries of a service are
those of the folders that were searched since a project was configured (`Searched`), and a root of
which only a folder was asked for before lacks its other stylesheets
(`not_searches_above`). Main statement, where all paths begin with the same separators: what is
known of a root once it is to be loaded is settled by the folders that were searched; it is what a
new index finds when nothing below the root was known, or when the root was searched with a folder
above it and nothing below it behind a folder that is passed by or may not be listed
(`run_searches`).
-/
namespace Restyle.Service

open Restyle.Path (Normal names)

variable {service after : Service} {disk disk' : Disk} {place : Place}
  {root path content lead : Text} {folders : List Text} {event : Event}

/-- The folders that were searched since a project was configured, after an operation. -/
def Operation.searched (service : Service) (disk : Disk) (folders : List Text)
    (operation : Operation) : List Text :=
  match operation, operation.event? service.index.place.rooms with
  | .configure path mappings, _ =>
    let effect := service.configure disk path mappings
    if effect.answer.isOk then effect.service.root.toList else folders
  | _, none => folders
  | _, some event =>
    match service.resolveRoot disk event.domain event.target with
    | .ok root => service.index.searched root folders
    | .error _ => folders

/-- The folders that were searched since a project was configured, after operations. -/
def Session.searched (session : Session) (folders : List Text) : List Operation → List Text
  | [] => folders
  | operation :: rest =>
    (session.after (.operate operation)).searched
      (operation.searched session.service session.disk folders) rest

/-- The entries of a service are those of the folders that it searched, and the paths of these begin
with the same separators. -/
structure Searched (service : Service) (disk : Disk) (lead : Text) (folders : List Text) :
    Prop where
  /-- The usual folders are passed by. -/
  skipped : service.index.skipped = Index.standardSkipped
  /-- The entries are those of the folders. -/
  holds : service.index.Holds disk folders
  /-- The paths of the folders begin with the separators. -/
  begins : ∀ folder ∈ folders, Path.leading (Path.absolute service.index.place folder) = lead

namespace Searched

/-- Where nothing was written the entries are those of the same folders. -/
theorem of_untouched (searched : Searched service disk lead folders)
    (same : Workspace.Untouched ⟨service.index, disk⟩ ⟨after.index, disk'⟩) :
    Searched after disk' lead folders := by
  obtain ⟨index, nodes⟩ := same
  simp only at index nodes
  refine ⟨?_, ?_, ?_⟩
  · rw [index]
    exact searched.skipped
  · rw [index]
    exact searched.holds.congr rfl rfl rfl rfl nodes
  · rw [index]
    exact searched.begins

/-- A root that is loaded is one of the folders, unless an entry lies below it already. -/
theorem loaded (searched : Searched service disk lead folders)
    (begins : Path.leading (Path.absolute service.index.place root) = lead) :
    Searched (service.loaded disk root) disk lead (service.index.searched root folders) := by
  obtain ⟨place, skipped, parse⟩ := service.index.ensureLoaded_settings disk root
  refine ⟨?_, searched.holds.ensureLoaded root, fun folder listed => ?_⟩
  · exact skipped.trans searched.skipped
  · rw [loaded_place]
    rw [Index.searched] at listed
    split at listed
    · exact searched.begins folder listed
    · rcases List.mem_cons.1 listed with rfl | listed
      · exact begins
      · exact searched.begins folder listed

/-- Writing a stylesheet that is found in one of the folders keeps the entries those of the
folders. -/
theorem of_wrote (searched : Searched service disk lead folders) (named : disk'.Named)
    (normal : Normal path) (begins : Path.leading path = lead)
    (wrote : Workspace.Wrote ⟨service.index, disk⟩ path content ⟨after.index, disk'⟩)
    (found : service.index.Finds disk' folders path) :
    Searched after disk' lead folders := by
  obtain ⟨rules, parsed, index⟩ := wrote.index
  have written := wrote.disk
  simp only at parsed index written
  refine ⟨?_, ?_, ?_⟩
  · rw [index]
    exact searched.skipped
  · rw [index]
    refine searched.holds.store named wrote.writable wrote.open_ written parsed found ?_
    rintro twin ⟨folder, listed, inside⟩ same
    have lead' := Index.leading_of_mem_discover named inside
    rw [searched.begins folder listed, ← begins] at lead'
    exact (Index.of_mem_discover named inside).1.eq_of_names_eq normal lead' same
  · rw [index]
    exact searched.begins

/-- The file that a new rule goes to is found in one of the folders once it was written, if the root
is one of them when it has no stylesheet. -/
theorem finds_of_slot (searched : Searched service disk lead folders)
    (keyed : service.index.Keyed)
    (listable : disk.canList (names (Path.absolute service.index.place root)) = true)
    (seen : ∀ entry, ¬ Workspace.Overlooked ⟨service.index, disk⟩ root entry)
    (scanned : service.index.largest? root = none → root ∈ folders)
    (slot : Workspace.Slot ⟨service.index, disk⟩ root path content) {bytes : List UInt8}
    (wrote : disk.Wrote service.index.place path bytes disk') :
    service.index.Finds disk' folders path := by
  cases slot with
  | known entry longest =>
    obtain ⟨_, _, held⟩ := held_of_mem_filesUnder keyed (Index.mem_filesUnder_of_largest? longest)
    exact ((searched.holds _ _).1 held).1.of_wrote wrote
  | noticed entry overlooked => exact absurd overlooked (seen entry)
  | new bare =>
    refine ⟨root, scanned bare.unlisted, mem_discover_newFile ?_
      (wrote.readable (Disk.isReadable_of_node?_eq_none bare.fresh))⟩
    rwa [Disk.canList, wrote.access?_eq]

/-- An event with texts that can be written, whose target path begins with the same separators,
leaves the entries those of the folders that were searched. -/
theorem applyEvent (searched : Searched service disk lead folders)
    (tracked : Tracked service disk []) (rooted : Rooted service disk)
    (led : Led service place lead)
    (target : ∀ value, event.target = some value → Leads place place.rooms.target lead value)
    (encodable : event.Encodable) :
    Searched (service.applyEvent disk event).service (service.applyEvent disk event).disk lead
      (Operation.searched service disk folders (.applyEvent event)) := by
  have begins : ∀ root, service.resolveRoot disk event.domain event.target = .ok root →
      Path.leading (Path.absolute place root) = lead := fun root resolved =>
    led.resolveRoot target resolved
  have begun : ∀ root, service.resolveRoot disk event.domain event.target = .ok root →
      Led (service.loaded disk root) place lead := fun root resolved =>
    led.loaded tracked.named (begins root resolved)
  have inside : ∀ root, service.resolveRoot disk event.domain event.target = .ok root →
      Searched (service.loaded disk root) disk lead
        (Operation.searched service disk folders (.applyEvent event)) := by
    intro root resolved
    simp only [Operation.searched, Operation.event?, resolved]
    exact searched.loaded (led.placed.symm ▸ begins root resolved)
  have found : ∀ root path content {bytes : List UInt8},
      service.resolveRoot disk event.domain event.target = .ok root →
      Workspace.Slot ⟨(service.loaded disk root).index, disk⟩ root path content →
      disk.Wrote (service.loaded disk root).index.place path bytes
        (service.applyEvent disk event).disk →
      (service.loaded disk root).index.Finds (service.applyEvent disk event).disk
        (Operation.searched service disk folders (.applyEvent event)) path := by
    intro root path content bytes resolved slot wrote
    refine (inside root resolved).finds_of_slot (tracked.loaded root).keyed ?_
      (rooted.not_overlooked tracked.named resolved) (fun bare => ?_) slot wrote
    · rw [loaded_place]
      exact rooted.canList resolved
    · have absent := Index.hasUnder_eq_false_of_largest? bare
      simp [Operation.searched, Operation.event?, resolved, Index.searched, absent]
  cases writes tracked.named tracked.keyed tracked.standard tracked.present event with
  | adrift error reason answer same fault unresolved =>
    simp only [Operation.searched, Operation.event?, unresolved]
    exact searched.of_untouched same
  | still root error reason resolved answer same => exact (inside root resolved).of_untouched same
  | started root error reason resolved answer bare wrote =>
    have normal := Workspace.normal_newFile ⟨(service.loaded disk root).index, disk⟩ root
    exact (inside root resolved).of_wrote (wrote.disk.named normal tracked.named) normal
      ((begun root resolved).newFile disk (begins root resolved)) wrote
      (found root _ _ resolved (.new bare) wrote.disk)
  | noticed root error reason entry resolved answer overlooked stored nodes =>
    exact absurd overlooked (rooted.not_overlooked tracked.named resolved entry)
  | emptied root path content error reason resolved answer intends surrogates wrote gains =>
    exact absurd (tracked.writable_of_intends encodable intends) surrogates
  | revised root found entry resolved matched listed stated answer wrote =>
    obtain ⟨normal, _, held⟩ := held_of_mem_filesUnder (tracked.loaded root).keyed listed
    exact (inside root resolved).of_wrote (wrote.disk.named normal tracked.named) normal
      ((begun root resolved).entries _ _ held) wrote
      ((((inside root resolved).holds _ _).1 held).1.of_wrote wrote.disk)
  | extended root path content resolved unmatched slot answer wrote =>
    have keyed := (tracked.loaded root).keyed
    have normal := (of_slot keyed slot).1
    exact (inside root resolved).of_wrote (wrote.disk.named normal tracked.named) normal
      ((begun root resolved).of_slot keyed (begins root resolved) slot) wrote
      (found root path content resolved slot wrote.disk)

/-- Configuring a project leaves its root as the only folder that was searched, or changes
nothing. -/
theorem configure (searched : Searched service disk lead folders) {value : Json}
    (mappings : List (Text × Json))
    (begins : Leads service.index.place service.index.place.rooms.root lead value) :
    Searched (service.configure disk value mappings).service
      (service.configure disk value mappings).disk lead
      (Operation.searched service disk folders (.configure value mappings)) := by
  have done := service.configures disk value mappings
  simp only [Operation.searched]
  generalize service.configure disk value mappings = effect at done ⊢
  cases done with
  | refused fault => exact searched
  | configured root known count notices rooted _ =>
    obtain ⟨entries, shape⟩ := service.index.clear.loadRoot_eq disk root
    obtain ⟨normal, same⟩ := begins.of_namesFolder rooted
    refine ⟨?_, (Index.Holds.clear service.index disk).loadRoot rfl, fun folder listed => ?_⟩
    · show (service.index.clear.loadRoot disk root).2.skipped = _
      rw [shape]
      exact searched.skipped
    · show Path.leading (Path.absolute (service.index.clear.loadRoot disk root).2.place folder) = _
      obtain rfl := List.mem_singleton.1 listed
      rw [normal.absolute_eq]
      exact same

/-- Every operation with paths that begin the same and texts that can be written leaves the entries
those of the folders that were searched. -/
theorem operate (searched : Searched service disk lead folders)
    (tracked : Tracked service disk []) (rooted : Rooted service disk)
    (led : Led service place lead) {operation : Operation}
    (given : operation.Led place lead) (encodable : operation.Encodable place) :
    Searched (operation.run service disk).1 (operation.run service disk).2 lead
      (operation.searched service disk folders) := by
  obtain rfl := led.placed
  cases operation with
  | configure path mappings => exact searched.configure mappings given.1
  | applyEvent event => exact searched.applyEvent tracked rooted led given (encodable event rfl)
  | applyJson value =>
    cases stated : Event.ofJson service.index.place.rooms value with
    | ok event =>
      have applies : (Operation.applyJson value).event? service.index.place.rooms = some event := by
        simp [Operation.event?, stated, Except.toOption]
      simp only [Operation.run, applyJson, Operation.searched, applies, stated]
      exact searched.applyEvent tracked rooted led (given event stated) (encodable event applies)
    | error fault =>
      simp only [Operation.run, applyJson, Operation.searched, Operation.event?, stated,
        Except.toOption]
      exact searched

/-- Through every run of operations with paths that begin the same and texts that can be written the
entries are those of the folders that were searched. -/
theorem run {session : Session}
    (searched : Searched session.service session.disk lead folders)
    (tracked : Tracked session.service session.disk session.strayed)
    (bare : session.strayed = []) (rooted : Rooted session.service session.disk)
    (led : Led session.service place lead) {operations : List Operation}
    (given : ∀ operation ∈ operations, operation.Led place lead ∧ operation.Encodable place) :
    let now := session.run (operations.map .operate)
    Searched now.service now.disk lead (session.searched folders operations) := by
  induction operations generalizing session folders with
  | nil => exact searched
  | cons operation rest ih =>
    obtain ⟨begins, encodable⟩ := given operation (by simp)
    have settled : Tracked session.service session.disk [] := bare ▸ tracked
    have alone : ∀ other ∈ [operation], other.Encodable place := by simpa using encodable
    have still : (session.after (.operate operation)).strayed = [] :=
      Session.strayed_run tracked bare led.placed alone
    exact ih (searched.operate settled rooted led begins encodable)
      (Session.tracked_after tracked (.operate operation)) still (rooted.operate tracked operation)
      (led.operate tracked begins) fun other listed => given other (by simp [listed])

end Searched

/-- A new service searched no folder. -/
theorem searched_new (place : Place) (config : Config) (disk : Disk) (lead : Text) :
    Searched (.new place config none) disk lead [] :=
  ⟨rfl, Index.Holds.clear (Index.new place) disk, by simp⟩

/-- A service with the index of one that is new and went through a root only. -/
def fresh (service : Service) (disk : Disk) (root : Text) : Service :=
  { service with index := ((Index.new service.index.place).loadRoot disk root).2 }

/-- The index of a fresh service reads and finds what a new one does, and holds its root alone. -/
theorem fresh_index (service : Service) (disk : Disk) (root : Text) :
    (service.fresh disk root).index.place = service.index.place ∧
      (service.fresh disk root).index.skipped = Index.standardSkipped ∧
      (service.fresh disk root).index.Standard ∧
      (service.fresh disk root).index.Holds disk [root] := by
  obtain ⟨entries, shape⟩ := (Index.new service.index.place).loadRoot_eq disk root
  have alone : (service.fresh disk root).index.Holds disk [root] :=
    (Index.Holds.clear (Index.new service.index.place) disk).loadRoot rfl
  have index : (service.fresh disk root).index = { Index.new service.index.place with entries } :=
    shape
  refine ⟨?_, ?_, ?_, alone⟩
  all_goals
    rw [index]
    rfl

/-- A fresh service has the rules of every stylesheet of its root that can be read. -/
theorem mem_rulesUnder_fresh (named : disk.Named) (normal : Normal path) {entry : Entry}
    {trail : Trail} {rule : Rule}
    (begins : Path.leading path = Path.leading (Path.absolute service.index.place root))
    (below : names path = names (Path.absolute service.index.place root) ++ trail)
    (listed : Disk.isListed Index.standardSkipped trail = true)
    (lists : disk.Lists (names (Path.absolute service.index.place root)) trail)
    (read : (Index.new service.index.place).readEntry disk path = .ok entry)
    (stated : rule ∈ entry.rules) :
    (path, rule) ∈ (service.fresh disk root).index.rulesUnder root := by
  obtain ⟨place, skipped, parse, alone⟩ := service.fresh_index disk root
  have read' : (service.fresh disk root).index.readEntry disk path = .ok entry := by
    obtain ⟨file, held, parsed, writable⟩ := Index.readEntry_eq_ok_iff.1 read
    refine Index.readEntry_eq_ok_iff.2 ⟨file, ?_, ?_, writable⟩
    · rw [place]
      exact held
    · rw [parse.parse_eq, ← parsed]
      rfl
  have found : path ∈ (service.fresh disk root).index.discover disk root := by
    refine (Index.mem_discover_iff_of_read named normal ?_ read').2 ⟨trail, ?_, ?_, ?_⟩
    · rw [place]
      exact begins
    · rw [place]
      exact below
    · rw [skipped]
      exact listed
    · rw [place]
      exact lists
  exact alone.mem_rulesUnder_iff.2 ⟨⟨root, List.mem_singleton_self _, found⟩,
    (Index.of_mem_discover named found).2, entry, read', stated⟩

/-- Among the same rules an event finds matches of the same score. -/
theorem map_score_match?_of_perm
    (perm : (service.index.rulesUnder root).Perm (after.index.rulesUnder root))
    (config : after.config = service.config) (event : Event) :
    (service.match? event root).map Match.Found.score =
      (after.match? event root).map Match.Found.score := by
  rw [match?, match?, config]
  exact Match.map_score_best?_of_perm perm _ _ _

/-- After every run of operations of a new service whose paths begin with the same separators and
whose texts can be written, and once a root is to be loaded, the entries are those of the folders
that were searched, of which the root is one unless an entry lay below it already. So the rules
below the root are those that a new index finds there, up to order, exactly when these folders show
the same stylesheets with rules below the root as the root itself. They do when no entry lay below
the root, and when the root is a folder, was searched with one of these folders, and none of them
lies below it behind a folder that is passed by or may not be listed. Then every event finds a match
of the same score, or none. -/
theorem run_searches (place : Place) (config : Config) (disk : Disk) (named : disk.Named)
    (operations : List Operation) (root lead : Text)
    (given : ∀ operation ∈ operations, operation.Led place lead ∧ operation.Encodable place)
    (begins : Path.leading (Path.absolute place root) = lead) :
    let now := Session.operated place config disk operations
    let folders := now.service.index.searched root
      ((Session.start place config disk).searched [] operations)
    let loaded := now.service.loaded now.disk root
    let fresh := now.service.fresh now.disk root
    loaded.index.Holds now.disk folders ∧
      ((loaded.index.rulesUnder root).Perm (fresh.index.rulesUnder root) ↔
        ∀ path entry, loaded.index.readEntry now.disk path = .ok entry → entry.rules ≠ [] →
          Path.isUnder path (Path.absolute place root) = true →
          (loaded.index.Finds now.disk folders path ↔ path ∈ loaded.index.discover now.disk root)) ∧
      (now.service.index.hasUnder root = false ∨
          (now.disk.leadsToFolder place (Path.absolute place root) = true ∧
            (∃ folder ∈ folders, loaded.index.Covers now.disk folder root) ∧
            ∀ folder ∈ folders, ¬ loaded.index.Hides now.disk root folder) →
        (loaded.index.filesUnder root).Perm (fresh.index.filesUnder root) ∧
          (loaded.index.rulesUnder root).Perm (fresh.index.rulesUnder root)) ∧
      ((loaded.index.rulesUnder root).Perm (fresh.index.rulesUnder root) →
        ∀ event, (loaded.match? event root).map Match.Found.score =
          (fresh.match? event root).map Match.Found.score) := by
  intro now folders loaded fresh
  have started := Session.tracked_start named place config
  have tracked : Tracked now.service now.disk now.strayed := Session.tracked_run started _
  have searched : Searched now.service now.disk lead _ :=
    (searched_new place config disk lead).run started rfl (Session.rooted_start place config disk)
      (Session.led_start place config disk lead) given
  have led : Led now.service place lead := by
    refine Session.led_run (Session.led_start place config disk lead) started
      fun action listed => ?_
    obtain ⟨operation, member, rfl⟩ := List.mem_map.1 listed
    exact (given operation member).1
  have holds : loaded.index.Holds now.disk folders := searched.holds.ensureLoaded root
  obtain ⟨freshPlace, freshSkipped, freshParse, alone⟩ :
      fresh.index.place = now.service.index.place ∧ fresh.index.skipped = Index.standardSkipped ∧
        fresh.index.Standard ∧ fresh.index.Holds now.disk [root] :=
      now.service.fresh_index now.disk root
  obtain ⟨place', skipped', parse'⟩ := now.service.index.ensureLoaded_settings now.disk root
  have samePlace : fresh.index.place = loaded.index.place := freshPlace.trans place'.symm
  have sameSkipped : fresh.index.skipped = loaded.index.skipped :=
    freshSkipped.trans (skipped'.trans searched.skipped).symm
  have sameParse : fresh.index.parse = loaded.index.parse :=
    freshParse.trans (parse'.trans tracked.standard).symm
  have placed : loaded.index.place = place := place'.trans led.placed
  have found : ∀ path, fresh.index.Finds now.disk [root] path ↔
      path ∈ loaded.index.discover now.disk root := by
    intro path
    simp only [Index.Finds, List.mem_singleton, exists_eq_left,
      Index.discover_congr samePlace sameSkipped rfl]
  refine ⟨holds, ?_, fun settled => ?_, fun perm event => map_score_match?_of_perm perm rfl event⟩
  · rw [holds.perm_rulesUnder_iff alone samePlace sameParse, placed]
    simp only [found]
  · have perm : (loaded.index.filesUnder root).Perm (fresh.index.filesUnder root) := by
      rcases settled with absent | ⟨folder, covered, plain⟩
      · have whole : loaded.index = (now.service.index.loadRoot now.disk root).2 := by
          show (now.service.index.ensureLoaded now.disk root).2 = _
          rw [Index.ensureLoaded, if_neg (by simp [absent])]
        rw [whole]
        exact searched.holds.perm_filesUnder_loadRoot absent alone (samePlace.trans place')
          (sameSkipped.trans skipped') (sameParse.trans parse')
      · refine holds.perm_filesUnder_of_covers alone samePlace sameParse tracked.named sameSkipped
          rfl ?_ ?_ covered plain
        · intro folder listed
          rw [placed, begins, ← placed]
          exact (searched.loaded (led.placed.symm ▸ begins)).begins folder listed
        · rw [placed]
          exact folder
    exact ⟨perm, perm.flatMap_right _⟩

/-- A folder of the project that an event names was searched with the project. -/
theorem run_searches_below :
    let place : Place := ⟨"/w".toText, "/h".toText, [], {}⟩
    let disk := Disk.empty.put ["p".toText, "q".toText, "b.css".toText]
      (.file (Utf8.bytes ".b\x7bx:1\x7d".toText) true)
    let event : Event :=
      { selector := ".c".toText, changes := .ofList [("x".toText, ⟨some "2".toText, none⟩)]
        target := some (.string "/p/q".toText) }
    let operations : List Operation := [.configure (.string "/p".toText) [], .applyEvent event]
    let now := Session.operated place {} disk operations
    let root := "/p/q".toText
    disk.Named ∧
      (∀ operation ∈ operations,
        operation.Led place [.char '/'] ∧ operation.Encodable place) ∧
      Path.leading (Path.absolute place root) = [.char '/'] ∧
      now.service.index.searched root ((Session.start place {} disk).searched [] operations) =
        ["/p".toText] ∧
      ((now.service.loaded now.disk root).index.rulesUnder root).map (fun item => item.2.selector) =
        [".b".toText, ".c".toText] ∧
      ((now.service.loaded now.disk root).index.rulesUnder root).Perm
        ((now.service.fresh now.disk root).index.rulesUnder root) := by
  intro place disk event operations now root
  have named : disk.Named := by decide +kernel
  have folder : Path.leading (Path.absolute place "/p/q".toText) = [.char '/'] := by decide +kernel
  have project : Path.leading (Path.absolute place "/p".toText) = [.char '/'] := by decide +kernel
  have given : ∀ operation ∈ operations,
      operation.Led place [.char '/'] ∧ operation.Encodable place := by
    intro operation listed
    rcases List.mem_pair.1 listed with rfl | rfl
    · refine ⟨⟨fun text shown => ?_, by simp⟩, by simp [Operation.Encodable, Operation.event?]⟩
      rw [← Except.ok.inj shown]
      exact project
    · refine ⟨fun target stated text shown => ?_, fun other applies => ?_⟩
      · obtain rfl := Option.some.inj stated
        rw [← Except.ok.inj shown]
        exact folder
      · rw [← Option.some.inj applies]
        decide +kernel
  have folders : now.service.index.searched root
      ((Session.start place {} disk).searched [] operations) = ["/p".toText] := by decide +kernel
  refine ⟨named, given, folder, folders, by decide +kernel,
    ((run_searches place {} disk named operations root [.char '/'] given folder).2.2.1 (.inr ?_)).2⟩
  refine ⟨by decide +kernel, ⟨"/p".toText, ?_, by decide +kernel⟩, by decide +kernel⟩
  rw [folders]
  exact List.mem_singleton_self _

/-- A root of which only a folder was searched lacks its other stylesheets, and one with a folder
that is passed by has those of that folder once it was searched. -/
theorem not_searches_above :
    let place : Place := ⟨"/w".toText, "/h".toText, [], {}⟩
    let disk := ((Disk.empty.put ["p".toText] (.folder {})).put ["q".toText, "a.css".toText]
      (.file (Utf8.bytes ".a\x7bx:1\x7d".toText) true)).put ["q".toText, "s".toText, "b.css".toText]
      (.file (Utf8.bytes ".b\x7by:1\x7d".toText) true)
    let other := (Disk.empty.put ["p".toText, "a.css".toText]
      (.file (Utf8.bytes ".a\x7bx:1\x7d".toText) true)).put
        ["p".toText, "dist".toText, "b.css".toText]
      (.file (Utf8.bytes ".b\x7by:1\x7d".toText) true)
    let event (target : Text) : Event :=
      { selector := ".b".toText, changes := .ofList [("y".toText, ⟨some "2".toText, none⟩)]
        target := some (.string target) }
    let operations (target : Text) : List Operation :=
      [.configure (.string "/p".toText) [], .applyEvent (event target)]
    let below := Session.operated place {} disk (operations "/q/s".toText)
    let hidden := Session.operated place {} other (operations "/p/dist".toText)
    (disk.Named ∧ below.disk.leadsToFolder place "/q".toText = true ∧
      ¬ ((below.service.loaded below.disk "/q".toText).index.rulesUnder "/q".toText).Perm
        ((below.service.fresh below.disk "/q".toText).index.rulesUnder "/q".toText)) ∧
    (other.Named ∧ hidden.disk.leadsToFolder place "/p".toText = true ∧
      ¬ ((hidden.service.loaded hidden.disk "/p".toText).index.rulesUnder "/p".toText).Perm
        ((hidden.service.fresh hidden.disk "/p".toText).index.rulesUnder "/p".toText)) := by
  intro place disk other event operations below hidden
  have more :
      ((hidden.service.loaded hidden.disk "/p".toText).index.rulesUnder "/p".toText).length ≠
      ((hidden.service.fresh hidden.disk "/p".toText).index.rulesUnder "/p".toText).length := by
    decide +kernel
  have known :
      ((below.service.loaded below.disk "/q".toText).index.rulesUnder "/q".toText).map Prod.fst =
      ["/q/s/b.css".toText] := by
    decide +kernel
  -- the listing of two files does not compute, so the missing rule is shown to be found
  have found : ∀ rule ∈ Sheet.rules ".a\x7bx:1\x7d".toText, ("/q/a.css".toText, rule) ∈
      (below.service.fresh below.disk "/q".toText).index.rulesUnder "/q".toText := by
    intro rule stated
    have read :
        ((Index.new below.service.index.place).readEntry below.disk "/q/a.css".toText).toOption =
        some ⟨"/q/a.css".toText, ".a\x7bx:1\x7d".toText,
          Sheet.rules ".a\x7bx:1\x7d".toText⟩ := by decide +kernel
    have below : names "/q/a.css".toText =
        names (Path.absolute below.service.index.place "/q".toText) ++
        ["a.css".toText] := by decide +kernel
    exact mem_rulesUnder_fresh (by decide +kernel) (by decide +kernel) (by decide +kernel) below
      (by decide +kernel) (by decide +kernel) (Index.toOption_eq_some_iff.1 read) stated
  refine ⟨⟨by decide +kernel, by decide +kernel, fun perm => ?_⟩, by decide +kernel,
    by decide +kernel, fun perm => more perm.length_eq⟩
  obtain ⟨rule, stated⟩ :=
    List.exists_mem_of_ne_nil (Sheet.rules ".a\x7bx:1\x7d".toText) (by decide +kernel)
  have listed := List.mem_map_of_mem (f := Prod.fst) (perm.mem_iff.2 (found rule stated))
  rw [known] at listed
  have same : "/q/a.css".toText = "/q/s/b.css".toText := List.mem_singleton.1 listed
  exact absurd same (by decide)

end Restyle.Service
