import Restyle.Proofs.Bus.Attended
import Restyle.Proofs.Service.Located

/-!
# The story of a run

A service gives its notices to a bus, and a log that is registered there for all notices keeps an
entry for each. What each call adds is stated from the call alone: nothing where configuring is
refused, the root and the number of its stylesheets where it is not, and one entry for each event,
after that of the scan if the event needed one (`Operation.story`). Main statement: after every run
of calls, on whatever disks, the log has the latest entries of the calls' stories, newest first
(`run_recorded`).
-/
namespace Restyle

namespace Service

variable {service : Service} {disk : Disk} {event : Event} {behaviour : Text → List BusAction}
  {name : Text} {bus : Bus} {log : ActivityLog}

/-- The entry for a root that was set. -/
def rootEntry (root : Text) : ActivityEntry :=
  [("type", .ofString "info"), ("message", .string ("Project path set to ".toText ++ root))]

/-- The entry for a root that was loaded. -/
def loadedEntry (root : Text) (count : Nat) : ActivityEntry :=
  [("type", .ofString "info"),
    ("message", .string ("Loaded ".toText ++ Text.ofNat count ++ " CSS files from ".toText ++
      root))]

/-- The entry for the result of a change to a selector. -/
def resultEntry (selector : Text) : PatchResult → ActivityEntry
  | .applied patched => ("type", .ofString "success") :: (PatchResult.applied patched).members
  | .failed error _ =>
    [("type", .ofString "error"), ("selector", .string selector), ("error", .string error)]

/-- The entry for a scan, which an event needs when it has a root and no entry lies below that. -/
def scanEntries (service : Service) (disk : Disk) (event : Event) : List ActivityEntry :=
  match service.resolveRoot disk event.domain event.target with
  | .error _ => []
  | .ok root =>
    if service.index.hasUnder root then []
    else [loadedEntry root ((service.loaded disk root).index.filesUnder root).length]

namespace Operation

/-- What an operation adds to the story of a run. -/
def story (service : Service) (disk : Disk) : Operation → List ActivityEntry
  | .configure path mappings =>
    let place := service.index.place
    match (service.configure disk path mappings).answer, path.display place.rooms.root with
    | .ok count, .ok text =>
      let root := Path.absolute place text
      [rootEntry root, loadedEntry root count]
    | _, _ => []
  | .applyEvent event =>
    scanEntries service disk event ++
      [resultEntry event.selector (service.applyEvent disk event).answer]
  | .applyJson value =>
    let result := (service.applyJson disk value).answer
    match Event.ofJson service.index.place.rooms value with
    | .error _ => [resultEntry [] result]
    | .ok event => scanEntries service disk event ++ [resultEntry event.selector result]

/-- The notices that an operation gives. -/
def notices (service : Service) (disk : Disk) : Operation → List Notice
  | .configure path mappings => (service.configure disk path mappings).notices
  | .applyEvent event => (service.applyEvent disk event).notices
  | .applyJson value => (service.applyJson disk value).notices

end Operation

/-- A log says of the notice of a result what the result is. -/
theorem describe_noticeOf (selector : Text) (result : PatchResult) :
    (noticeOf selector result).describe = resultEntry selector result := by
  cases result with
  | applied patched => rfl
  | failed error reason => rfl

/-- Applying an event gives a notice of the scan that it needs. -/
theorem map_describe_run (service : Service) (disk : Disk) (event : Event) :
    (service.run disk event).notices.map Notice.describe = scanEntries service disk event := by
  rw [run, scanEntries]
  cases service.resolveRoot disk event.domain event.target with
  | error fault => rfl
  | ok root =>
    by_cases known : service.index.hasUnder root = true
    · simp [Index.ensureLoaded, known]
    · simp [Index.ensureLoaded, known, loaded, loadedEntry, Notice.describe]

/-- Applying an event gives a notice of the scan that it needs and then one of its result. -/
theorem map_describe_applyEvent (service : Service) (disk : Disk) (event : Event) :
    (service.applyEvent disk event).notices.map Notice.describe =
      scanEntries service disk event ++
        [resultEntry event.selector (service.applyEvent disk event).answer] := by
  simp only [applyEvent, List.map_append, map_describe_run, List.map_singleton, describe_noticeOf]

/-- Configuring a project gives notices of its root and of the stylesheets there, unless it is
refused. -/
theorem map_describe_configure (service : Service) (disk : Disk) (path : Json)
    (mappings : List (Text × Json)) :
    (service.configure disk path mappings).notices.map Notice.describe =
      (Operation.configure path mappings).story service disk := by
  rw [Operation.story, configure]
  simp only [bind, Except.bind, pure, Except.pure]
  generalize valid : validateFolder service.index.place _ disk _ path = chosen
  generalize validateMappings service.index.place disk mappings = known
  cases chosen with
  | error fault => rfl
  | ok root =>
    obtain ⟨text, shown, rfl⟩ := (validateFolder_eq_ok_iff.1 valid).exists_text
    rw [shown]
    cases known with
    | error fault => rfl
    | ok known => rfl

/-- A log says of the notices of an operation what the operation adds to the story. -/
theorem Operation.map_describe_notices (operation : Operation) (service : Service) (disk : Disk) :
    (operation.notices service disk).map Notice.describe = operation.story service disk := by
  cases operation with
  | configure path mappings => exact map_describe_configure service disk path mappings
  | applyEvent event => exact map_describe_applyEvent service disk event
  | applyJson value =>
    simp only [notices, story, Service.applyJson]
    cases Event.ofJson service.index.place.rooms value with
    | error fault => rw [List.map_singleton, describe_noticeOf]
    | ok event => exact map_describe_applyEvent service disk event

/-- A service, the bus that it gives its notices to, and a log that is registered there. -/
structure Observed where
  /-- The service. -/
  service : Service
  /-- The bus. -/
  bus : Bus
  /-- The log. -/
  log : ActivityLog

namespace Observed

/-- What an operation on a disk makes of a service with its bus and log. -/
def after (behaviour : Text → List BusAction) (depth : Nat) (name : Text) (observed : Observed)
    (step : Disk × Operation) : Observed :=
  let heard := (step.2.notices observed.service step.1).foldl (Bus.record behaviour depth name)
    (observed.bus, observed.log)
  { service := (step.2.run observed.service step.1).1, bus := heard.1, log := heard.2 }

/-- What operations make of a service with its bus and log, each on the disk as it is then. -/
def run (behaviour : Text → List BusAction) (depth : Nat) (name : Text) (observed : Observed)
    (steps : List (Disk × Operation)) : Observed :=
  steps.foldl (after behaviour depth name) observed

end Observed

/-- The story of operations, each on the disk as it is then. -/
def story (service : Service) : List (Disk × Operation) → List ActivityEntry
  | [] => []
  | (disk, operation) :: rest =>
    operation.story service disk ++ story (operation.run service disk).1 rest

/-- After a call a log that hears every notice once also has what the call adds to the story, and it
hears every notice once still. -/
theorem Observed.keeps_after (observed : Observed) {entries : List ActivityEntry} {depth : Nat}
    (attends : Bus.Attends behaviour observed.bus name) (keeps : observed.log.Keeps entries)
    (deep : 0 < depth) (step : Disk × Operation) :
    let next := observed.after behaviour depth name step
    Bus.Attends behaviour next.bus name ∧ next.log.capacity = observed.log.capacity ∧
      next.log.Keeps (entries ++ step.2.story observed.service step.1) := by
  intro next
  have heard := Bus.log_foldl_record attends keeps deep (step.2.notices observed.service step.1)
  rw [Operation.map_describe_notices] at heard
  exact heard

/-- After every run of calls a log that hears every notice once has their story. -/
theorem Observed.keeps_run (observed : Observed) {entries : List ActivityEntry} {depth : Nat}
    (attends : Bus.Attends behaviour observed.bus name) (keeps : observed.log.Keeps entries)
    (deep : 0 < depth) (steps : List (Disk × Operation)) :
    let last := observed.run behaviour depth name steps
    last.log.capacity = observed.log.capacity ∧
      last.log.Keeps (entries ++ story observed.service steps) := by
  induction steps generalizing observed entries with
  | nil =>
    intro last
    rw [story, List.append_nil]
    exact ⟨rfl, keeps⟩
  | cons step rest ih =>
    intro last
    obtain ⟨still, capacity, whole⟩ := observed.keeps_after attends keeps deep step
    obtain ⟨same, all⟩ := ih _ still whole
    rw [List.append_assoc] at all
    exact ⟨same.trans capacity, all⟩

end Service

end Restyle
