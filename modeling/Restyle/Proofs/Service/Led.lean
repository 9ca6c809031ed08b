import Restyle.Proofs.Service.Tracked

/-!
# The roots of a session

The roots that a service knows, its own and those of the mapped domains, are folders that may be
gone through when it is configured, and no operation of the service takes that away from them
(`Session.rooted_run`); so a stylesheet is never overlooked (`Rooted.not_overlooked`). Where all
paths that a session is given begin with the same separators, so do all paths of its service
(`Session.led_run`).
-/
namespace Restyle

namespace Service

open Restyle.Path (Normal names)

variable {service after : Service} {disk disk' : Disk} {strayed : List Trail}
  {root path content lead : Text} {event : Event}

/-- The roots that a service knows are folders that may be gone through. -/
structure Rooted (service : Service) (disk : Disk) : Prop where
  /-- The root of the project is. -/
  root : ∀ root, service.root = some root →
    Normal root ∧ disk.leadsToOpenFolder service.index.place root = true
  /-- So are the roots of the domains. -/
  mappings : ∀ domain root, service.mappings.get? domain = some root →
    Normal root ∧ disk.leadsToOpenFolder service.index.place root = true

namespace Rooted

/-- The root of an event is a folder that may be gone through. -/
theorem resolveRoot (rooted : Rooted service disk)
    (resolved : service.resolveRoot disk event.domain event.target = .ok root) :
    Normal root ∧ disk.leadsToOpenFolder service.index.place root = true := by
  rcases resolveRoot_cases resolved with ⟨value, _, named⟩ | ⟨_, ⟨name, mapped⟩ | chosen⟩
  · exact ⟨named.normal, named.folder⟩
  · exact rooted.mappings name root mapped
  · exact rooted.root root chosen

/-- The names of the root of an event lead to a folder that may be listed. -/
theorem canList (rooted : Rooted service disk)
    (resolved : service.resolveRoot disk event.domain event.target = .ok root) :
    disk.canList (names (Path.absolute service.index.place root)) = true := by
  obtain ⟨normal, open_⟩ := rooted.resolveRoot resolved
  rw [normal.absolute_eq]
  exact Disk.canList_of_leadsToOpenFolder normal open_

/-- No stylesheet of the root of an event is overlooked. -/
theorem not_overlooked (rooted : Rooted service disk) (named : disk.Named)
    (resolved : service.resolveRoot disk event.domain event.target = .ok root) (entry : Entry) :
    ¬ Workspace.Overlooked ⟨(service.loaded disk root).index, disk⟩ root entry :=
  Service.not_overlooked named (rooted.canList resolved) entry

/-- The roots stay open where every open folder does. -/
theorem mono (rooted : Rooted service disk) (place : after.index.place = service.index.place)
    (known : after.root = service.root) (mappings : after.mappings = service.mappings)
    (folders : ∀ path, disk.leadsToOpenFolder service.index.place path = true →
      disk'.leadsToOpenFolder service.index.place path = true) : Rooted after disk' := by
  refine ⟨fun root chosen => ?_, fun domain root mapped => ?_⟩
  · rw [place]
    obtain ⟨normal, open_⟩ := rooted.root root (known ▸ chosen)
    exact ⟨normal, folders root open_⟩
  · rw [place]
    obtain ⟨normal, open_⟩ := rooted.mappings domain root (mappings ▸ mapped)
    exact ⟨normal, folders root open_⟩

/-- Applying an event leaves the roots open. -/
theorem applyEvent (rooted : Rooted service disk) (tracked : Tracked service disk strayed)
    (event : Event) :
    Rooted (service.applyEvent disk event).service (service.applyEvent disk event).disk := by
  obtain ⟨place, folders⟩ :=
    (writes tracked.named tracked.keyed tracked.standard tracked.present event).place_folders
  obtain ⟨root, mappings⟩ := service.applyEvent_settings disk event
  exact rooted.mono place root mappings folders

/-- Configuring a project leaves the roots open, or chooses roots that are. -/
theorem configure (rooted : Rooted service disk) (value : Json) (mappings : List (Text × Json)) :
    Rooted (service.configure disk value mappings).service
      (service.configure disk value mappings).disk := by
  have place := service.configure_place disk value mappings
  have done := service.configures disk value mappings
  generalize service.configure disk value mappings = effect at done place ⊢
  cases done with
  | refused fault => exact rooted
  | configured root known count notices folder mapped =>
    simp only at place
    refine ⟨fun other chosen => ?_, fun domain other held => ?_⟩
    · simp only [place]
      rw [← Option.some.inj chosen]
      exact ⟨folder.normal, folder.folder⟩
    · simp only [place]
      obtain ⟨value, _, folder⟩ := of_validateMappings mapped held
      exact ⟨folder.normal, folder.folder⟩

/-- Every operation leaves the roots open, or chooses roots that are. -/
theorem operate (rooted : Rooted service disk) (tracked : Tracked service disk strayed)
    (operation : Operation) :
    Rooted (operation.run service disk).1 (operation.run service disk).2 := by
  cases operation with
  | configure path mappings => exact rooted.configure path mappings
  | applyEvent event => exact rooted.applyEvent tracked event
  | applyJson value =>
    cases stated : Event.ofJson service.index.place.rooms value with
    | ok event =>
      rw [(Operation.applyJson_eq disk stated).1]
      exact rooted.applyEvent tracked event
    | error fault =>
      simp only [Operation.run, Service.applyJson, stated]
      exact rooted

/-- An edit leaves the roots open. -/
theorem of_edit (rooted : Rooted service disk) (tracked : Tracked service disk strayed)
    {entry : Entry} (held : service.index.entries.get? path = some entry) (bytes : List UInt8) :
    Rooted service (disk.fill (names path) bytes) := by
  obtain ⟨old, read⟩ := tracked.present path entry held
  have wrote := Disk.wrote_fill (tracked.keyed path entry held).1 read bytes
  exact rooted.mono rfl rfl rfl fun folder open_ => wrote.leadsToOpenFolder open_

end Rooted

/-- Through every run of actions the roots that the service of a session knows stay open. -/
theorem Session.rooted_run {session : Session} (rooted : Rooted session.service session.disk)
    (tracked : Tracked session.service session.disk session.strayed) (actions : List Action) :
    Rooted (session.run actions).service (session.run actions).disk := by
  induction actions generalizing session with
  | nil => exact rooted
  | cons action rest ih =>
    refine ih ?_ (Session.tracked_after tracked action)
    cases action with
    | operate operation => exact rooted.operate tracked operation
    | edit path bytes =>
      rw [Session.after]
      split
      · rename_i known
        obtain ⟨entry, held⟩ := Option.isSome_iff_exists.1 known
        exact rooted.of_edit tracked held bytes
      · exact rooted

/-- Through every run of actions paths are read from where they were. -/
theorem Session.place_run {session : Session}
    (tracked : Tracked session.service session.disk session.strayed) (actions : List Action) :
    (session.run actions).service.index.place = session.service.index.place := by
  induction actions generalizing session with
  | nil => rfl
  | cons action rest ih =>
    refine (ih (Session.tracked_after tracked action)).trans ?_
    cases action with
    | operate operation => exact tracked.place_operate operation
    | edit path bytes =>
      rw [Session.after]
      split
      · rfl
      · rfl

/-- A new service knows no root. -/
theorem Session.rooted_start (place : Place) (config : Config) (disk : Disk) :
    Rooted (start place config disk).service (start place config disk).disk := by
  refine ⟨fun root chosen => ?_, fun domain root mapped => ?_⟩
  · simp [start, Service.new] at chosen
  · simp [start, Service.new] at mapped

/-- The text of a value, if it has one, has the separators at the front of its absolute form. -/
def Leads (place : Place) (room : Nat) (lead : Text) (value : Json) : Prop :=
  ∀ text, value.display room = .ok text → Path.leading (Path.absolute place text) = lead

/-- A folder that such a value names begins with the separators. -/
theorem Leads.of_namesFolder {place : Place} {room : Nat} {value : Json}
    (leads : Leads place room lead value) (folder : NamesFolder place room disk value root) :
    Normal root ∧ Path.leading root = lead := by
  obtain ⟨text, shown, rfl⟩ := folder.exists_text
  exact ⟨Path.normal_absolute place text, leads text shown⟩

/-- All paths that an operation is given have the same separators at the front of their absolute
form. -/
def Operation.Led (place : Place) (lead : Text) : Operation → Prop
  | .configure path mappings => Leads place place.rooms.root lead path ∧
      ∀ entry ∈ mappings, Leads place place.rooms.mapping lead entry.2
  | .applyEvent event => ∀ target, event.target = some target →
      Leads place place.rooms.target lead target
  | .applyJson value => ∀ event, Event.ofJson place.rooms value = .ok event → ∀ target,
      event.target = some target → Leads place place.rooms.target lead target

/-- The roots and the entries of a service have paths that begin with the same separators. -/
structure Led (service : Service) (place : Place) (lead : Text) : Prop where
  /-- Paths are read from the place. -/
  placed : service.index.place = place
  /-- The paths of the entries begin with the separators. -/
  entries : ∀ path entry, service.index.entries.get? path = some entry → Path.leading path = lead
  /-- So does the root of the project. -/
  root : ∀ root, service.root = some root → Normal root ∧ Path.leading root = lead
  /-- So do the roots of the domains. -/
  mappings : ∀ domain root, service.mappings.get? domain = some root →
    Normal root ∧ Path.leading root = lead

namespace Led

variable {place : Place}

/-- The root of an event has the separators of the roots that the service knows, or those of its
target path. -/
theorem resolveRoot (led : Led service place lead)
    (target : ∀ value, event.target = some value → Leads place place.rooms.target lead value)
    (resolved : service.resolveRoot disk event.domain event.target = .ok root) :
    Path.leading (Path.absolute place root) = lead := by
  have known : Normal root ∧ Path.leading root = lead →
      Path.leading (Path.absolute place root) = lead := by
    rintro ⟨normal, same⟩
    rw [normal.absolute_eq, same]
  apply known
  rcases resolveRoot_cases resolved with ⟨value, given, named⟩ | ⟨_, ⟨name, mapped⟩ | rooted⟩
  · rw [led.placed] at named
    exact (target value given).of_namesFolder named
  · exact led.mappings name root mapped
  · exact led.root root rooted

/-- Loading a root with the same separators keeps all entries there. -/
theorem loaded (led : Led service place lead) (named : disk.Named)
    (same : Path.leading (Path.absolute place root) = lead) :
    Led (service.loaded disk root) place lead := by
  refine ⟨by rw [loaded_place, led.placed], ?_, led.root, led.mappings⟩
  intro path entry held
  rcases Index.of_get?_ensureLoaded held with old | ⟨found, _⟩
  · exact led.entries path entry old
  · rw [Index.leading_of_mem_discover named found, led.placed, same]

/-- Where nothing was written all paths still begin the same. -/
theorem of_untouched (led : Led service place lead)
    (rooted : after.root = service.root) (mapped : after.mappings = service.mappings)
    (same : Workspace.Untouched ⟨service.index, disk⟩ ⟨after.index, disk'⟩) :
    Led after place lead := by
  have index := same.index
  simp only at index
  refine ⟨by rw [index, led.placed], ?_, ?_, ?_⟩
  · rw [index]
    exact led.entries
  · rw [rooted]
    exact led.root
  · rw [mapped]
    exact led.mappings

/-- Storing an entry whose path begins the same keeps all paths so. -/
theorem of_stored (led : Led service place lead) (rooted : after.root = service.root)
    (mapped : after.mappings = service.mappings) {entry : Entry}
    (begins : Path.leading entry.path = lead)
    (stored : after.index = service.index.store entry) : Led after place lead := by
  refine ⟨by rw [stored]; exact led.placed, ?_, ?_, ?_⟩
  · intro other known held
    rw [stored] at held
    rcases Index.of_get?_store held with ⟨rfl, _⟩ | ⟨_, old⟩
    · exact begins
    · exact led.entries other known old
  · rw [rooted]
    exact led.root
  · rw [mapped]
    exact led.mappings

/-- Writing a file whose path begins the same keeps all paths so. -/
theorem of_wrote (led : Led service place lead)
    (rooted : after.root = service.root) (mapped : after.mappings = service.mappings)
    (begins : Path.leading path = lead)
    (wrote : Workspace.Wrote ⟨service.index, disk⟩ path content ⟨after.index, disk'⟩) :
    Led after place lead := by
  obtain ⟨rules, _, index⟩ := wrote.index
  exact led.of_stored rooted mapped begins index

/-- The new stylesheet of a root begins as the root does. -/
theorem newFile (led : Led service place lead) (disk : Disk)
    (same : Path.leading (Path.absolute place root) = lead) :
    Path.leading (Workspace.newFile ⟨service.index, disk⟩ root) = lead :=
  (leading_newFile service disk root).trans (led.placed.symm ▸ same)

/-- The file that a new rule goes to begins as the root does. -/
theorem of_slot (led : Led service place lead) (keyed : service.index.Keyed)
    (same : Path.leading (Path.absolute place root) = lead)
    (slot : Workspace.Slot ⟨service.index, disk⟩ root path content) :
    Path.leading path = lead := by
  cases slot with
  | known entry longest =>
    exact led.entries _ _
      (held_of_mem_filesUnder keyed (Index.mem_filesUnder_of_largest? longest)).2.2
  | noticed entry _ => exact led.newFile disk same
  | new _ => exact led.newFile disk same

/-- Applying an event whose target path begins the same keeps all paths so. -/
theorem applyEvent (led : Led service place lead) (tracked : Tracked service disk strayed)
    (target : ∀ value, event.target = some value → Leads place place.rooms.target lead value) :
    Led (service.applyEvent disk event).service place lead := by
  obtain ⟨rooted, mapped⟩ := service.applyEvent_settings disk event
  have inside : ∀ root, service.resolveRoot disk event.domain event.target = .ok root →
      Led (service.loaded disk root) place lead := fun root resolved =>
    led.loaded tracked.named (led.resolveRoot target resolved)
  cases writes tracked.named tracked.keyed tracked.standard tracked.present event with
  | adrift error reason answer same => exact led.of_untouched rooted mapped same
  | still root error reason resolved answer same =>
    exact (inside root resolved).of_untouched rooted mapped same
  | started root error reason resolved answer bare wrote =>
    exact (inside root resolved).of_wrote rooted mapped
      ((inside root resolved).of_slot (tracked.loaded root).keyed
        (led.resolveRoot target resolved) (.new bare)) wrote
  | noticed root error reason entry resolved answer overlooked stored nodes =>
    refine (inside root resolved).of_stored rooted mapped ?_ stored
    rw [Index.path_of_readEntry overlooked.read]
    exact (inside root resolved).newFile disk (led.resolveRoot target resolved)
  | emptied root path content error reason resolved answer intends surrogates wrote gains =>
    cases gains with
    | none same _ => exact (inside root resolved).of_untouched rooted mapped ⟨same, rfl⟩
    | entry content rules file unlisted writable parsed old stored =>
      refine (inside root resolved).of_stored rooted mapped ?_ stored
      rw [file]
      exact (inside root resolved).newFile disk (led.resolveRoot target resolved)
  | revised root found entry resolved matched listed stated answer wrote =>
    exact (inside root resolved).of_wrote rooted mapped ((inside root resolved).entries _ _
      (held_of_mem_filesUnder (tracked.loaded root).keyed listed).2.2) wrote
  | extended root path content resolved unmatched slot answer wrote =>
    exact (inside root resolved).of_wrote rooted mapped
      ((inside root resolved).of_slot (tracked.loaded root).keyed
        (led.resolveRoot target resolved) slot) wrote

/-- Configuring a project whose paths begin the same keeps all paths so. -/
theorem configure (led : Led service place lead) (named : disk.Named) {value : Json}
    {mappings : List (Text × Json)}
    (begins : Leads place place.rooms.root lead value)
    (others : ∀ entry ∈ mappings, Leads place place.rooms.mapping lead entry.2) :
    Led (service.configure disk value mappings).service place lead := by
  have done := service.configures disk value mappings
  generalize service.configure disk value mappings = effect at done ⊢
  cases done with
  | refused fault => exact led
  | configured root known count notices rooted mapped =>
    obtain ⟨entries, shape⟩ := service.index.clear.loadRoot_eq disk root
    rw [led.placed] at rooted mapped
    obtain ⟨normal, same⟩ := begins.of_namesFolder rooted
    refine ⟨?_, ?_, ?_, ?_⟩
    · show (service.index.clear.loadRoot disk root).2.place = place
      rw [shape]
      exact led.placed
    · intro path entry held
      rcases Index.of_get?_loadRoot held with old | ⟨found, _⟩
      · simp [Index.clear] at old
      · rw [Index.leading_of_mem_discover named found, normal.absolute_eq, same]
    · intro other chosen
      rw [← Option.some.inj chosen]
      exact ⟨normal, same⟩
    · intro domain other held
      obtain ⟨value, listed, folder⟩ := of_validateMappings mapped held
      exact (others _ listed).of_namesFolder folder

/-- Every operation with paths that begin the same keeps all paths so. -/
theorem operate (led : Led service place lead) (tracked : Tracked service disk strayed)
    {operation : Operation} (given : operation.Led place lead) :
    Led (operation.run service disk).1 place lead := by
  cases operation with
  | configure path mappings => exact led.configure tracked.named given.1 given.2
  | applyEvent event => exact led.applyEvent tracked given
  | applyJson value =>
    obtain rfl := led.placed
    cases stated : Event.ofJson service.index.place.rooms value with
    | ok event =>
      simp only [Operation.run, applyJson, stated]
      exact led.applyEvent tracked (given event stated)
    | error fault =>
      simp only [Operation.run, applyJson, stated]
      exact led

end Led

/-- The operations among actions have paths that begin with the same separators. -/
def Action.Led (place : Place) (lead : Text) : Action → Prop
  | .operate operation => operation.Led place lead
  | .edit _ _ => True

/-- Through every run of actions whose paths begin the same all paths of a session do. -/
theorem Session.led_run {place : Place} {session : Session}
    (led : Led session.service place lead)
    (tracked : Tracked session.service session.disk session.strayed) {actions : List Action}
    (given : ∀ action ∈ actions, action.Led place lead) :
    Led (session.run actions).service place lead := by
  induction actions generalizing session with
  | nil => exact led
  | cons action rest ih =>
    refine ih ?_ (Session.tracked_after tracked action)
      fun other listed => given other (by simp [listed])
    cases action with
    | operate operation => exact led.operate tracked (given (.operate operation) (by simp))
    | edit path bytes =>
      rw [Session.after]
      split
      · exact led
      · exact led

/-- A new service has no paths. -/
theorem Session.led_start (place : Place) (config : Config) (disk : Disk) (lead : Text) :
    Led (start place config disk).service place lead := by
  refine ⟨rfl, ?_, ?_, ?_⟩
  · intro path entry held
    simp [start, Service.new, Index.new] at held
  · intro root rooted
    simp [start, Service.new] at rooted
  · intro domain root held
    simp [start, Service.new] at held

end Service

end Restyle
