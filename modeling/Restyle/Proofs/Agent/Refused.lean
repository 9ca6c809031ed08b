import Restyle.Agent.Routes
import Restyle.Proofs.Service.Configured

/-!
# What is refused changes nothing

A client is told that what it asks for is no event, or that a path is no folder of a project. Main
statements: a service that answers so is left as it was, and so is its disk, whether a project was
to be configured (`Service.configure_of_error`) or a change to be applied
(`Service.applyJson_of_isClients`); and a configuration fails in another way exactly when it comes
to a value without a text or to a path without an absolute form (`Service.configure_strays_iff`).
-/
namespace Restyle

/-- No client is blamed for a file that could not be written. -/
theorem Fault.isClients_writeFailed (path : Text) (fault : WriteFault) :
    Agent.isClients (Fault.writeFailed path fault).reason = false := by
  cases fault with
  | path fault => cases fault <;> rfl
  | refused _ | surrogates _ => rfl

/-- No client is blamed for a file that could not be read. -/
theorem Fault.isClients_skipped (fault : SkipFault) :
    Agent.isClients (Fault.skipped fault).reason = false := by
  cases fault <;> rfl

namespace Workspace

variable {workspace : Workspace} {α : Type}

/-- Where a function of a workspace fails, no client is blamed. -/
def Blameless (result : Except Fault α × Workspace) : Prop :=
  ∀ fault, result.1 = .error fault → Agent.isClients fault.reason = false

/-- What goes through has no fault. -/
theorem blameless_ok (value : α) (after : Workspace) :
    Blameless ((.ok value, after) : Except Fault α × Workspace) :=
  fun _ failed => by simp at failed

/-- A fault of its own is the only one. -/
theorem blameless_error {fault : Fault} (own : Agent.isClients fault.reason = false)
    (after : Workspace) : Blameless ((.error fault, after) : Except Fault α × Workspace) :=
  fun _ failed => Except.error.inj failed ▸ own

/-- No client is blamed where overwriting a file fails. -/
theorem blameless_overwrite (workspace : Workspace) (path content : Text) :
    Blameless (workspace.overwrite path content) := by
  intro fault failed
  obtain ⟨cause, _, rfl⟩ := mapError_eq_error_iff.1 failed
  exact Fault.isClients_writeFailed path cause

/-- No client is blamed where a file cannot be read into the index. -/
theorem blameless_refresh (workspace : Workspace) (path : Text) :
    Blameless (workspace.refresh path) := by
  rw [refresh]
  split
  · rename_i fault _
    exact blameless_error (Fault.isClients_skipped fault) _
  · exact blameless_ok _ _

/-- No client is blamed where a file is not replaced. -/
theorem blameless_replaceFile (workspace : Workspace) (path content : Text) :
    Blameless (workspace.replaceFile path content) := by
  have written := workspace.blameless_overwrite path content
  rw [replaceFile]
  split
  · rename_i fault after failed
    exact blameless_error (written fault (by rw [failed])) after
  · exact blameless_refresh _ path

/-- No client is blamed where a rule is not rewritten. -/
theorem blameless_updateRule (workspace : Workspace) (path : Text) (rule : Rule)
    (changes : Changes) : Blameless (workspace.updateRule path rule changes) := by
  rw [updateRule]
  split
  · exact blameless_error rfl _
  · exact blameless_error rfl _
  · rename_i entry _ _
    split
    · exact blameless_error rfl _
    · have replaced := workspace.blameless_replaceFile entry.path
        (splice entry.content rule (Rule.write rule.selector (changes.applyTo rule.properties)))
      simp only
      split
      · rename_i fault after failed
        exact blameless_error (replaced fault (by rw [failed])) after
      · exact blameless_ok _ _

/-- No client is blamed where there is no stylesheet for a new rule. -/
theorem blameless_targetFile (workspace : Workspace) (root : Text) :
    Blameless (workspace.targetFile root) := by
  rw [targetFile]
  split
  · exact blameless_error rfl _
  · exact blameless_ok _ _
  · simp only
    generalize Path.append (Path.absolute workspace.index.place root) newFileName = path
    have made : Blameless (if workspace.disk.leadsSomewhere workspace.index.place path
        then (.ok (), workspace) else workspace.overwrite path newFileHeader) := by
      split
      · exact blameless_ok _ _
      · exact workspace.blameless_overwrite path newFileHeader
    split
    · rename_i fault failed
      exact blameless_error (made fault failed) _
    · split
      · rename_i fault after failed
        exact blameless_error (blameless_refresh _ path fault (by rw [failed])) after
      · exact blameless_ok _ _

/-- No client is blamed where a rule is not appended. -/
theorem blameless_createRule (workspace : Workspace) (selector : Text) (changes : Changes)
    (root : Text) : Blameless (workspace.createRule selector changes root) := by
  have target := workspace.blameless_targetFile root
  rw [createRule]
  simp only
  split
  · exact blameless_error rfl _
  · split
    · rename_i fault after failed
      exact blameless_error (target fault (by rw [failed])) after
    · rename_i path after _
      split
      · exact blameless_error rfl _
      · rename_i entry _
        have replaced := after.blameless_replaceFile entry.path
          (entry.content ++
            (.char '\n' :: .char '\n' :: Rule.write selector (changes.applyTo .empty)))
        split
        · rename_i fault last failed
          exact blameless_error (replaced fault (by rw [failed])) last
        · exact blameless_ok _ _

end Workspace

namespace Service

variable {service : Service} {disk : Disk} {place : Place} {value path : Json} {room : Nat}
  {mappings : List (Text × Json)}

/-- No client is blamed where patching a root fails. -/
theorem blameless_patch (service : Service) (disk : Disk) (event : Event) (root : Text) :
    Workspace.Blameless (service.patch disk event root) := by
  rw [patch]
  split
  · exact Workspace.blameless_updateRule _ _ _ _
  · exact Workspace.blameless_createRule _ _ _ _

/-- A change that a client is blamed for leaves the service and the disk. -/
theorem applyEvent_of_isClients {event : Event}
    (blamed : (service.applyEvent disk event).answer.reason?.any Agent.isClients = true) :
    (service.applyEvent disk event).service = service ∧
      (service.applyEvent disk event).disk = disk := by
  rw [applyEvent, run] at blamed ⊢
  cases resolved : service.resolveRoot disk event.domain event.target with
  | error fault => exact ⟨rfl, rfl⟩
  | ok root =>
    simp only [resolved] at blamed
    have own := ({ service with
      index := (service.index.ensureLoaded disk root).2 } : Service).blameless_patch disk event root
    generalize patch _ disk event root = result at blamed own
    obtain ⟨outcome, after⟩ := result
    cases outcome with
    | ok patched => simp [Except.map, resultOf, PatchResult.reason?] at blamed
    | error fault =>
      have blame := own fault rfl
      simp [Except.map, resultOf, PatchResult.reason?, blame] at blamed

/-- What a client is blamed for leaves the service and the disk: no event is stated, or one without
a root. -/
theorem applyJson_of_isClients
    (blamed : (service.applyJson disk value).answer.reason?.any Agent.isClients = true) :
    (service.applyJson disk value).service = service ∧
      (service.applyJson disk value).disk = disk := by
  rw [applyJson] at blamed ⊢
  split at blamed
  · exact applyEvent_of_isClients blamed
  · exact ⟨rfl, rfl⟩

/-- A configuration that fails leaves the service and the disk. -/
theorem configure_of_error {fault : Fault}
    (failed : (service.configure disk path mappings).answer = .error fault) :
    (service.configure disk path mappings).service = service ∧
      (service.configure disk path mappings).disk = disk := by
  have done := service.configures disk path mappings
  generalize service.configure disk path mappings = effect at failed done ⊢
  cases done with
  | refused => exact ⟨rfl, rfl⟩
  | configured => simp at failed

/-- A domain with the absolute path of its folder. -/
def validateEntry (place : Place) (disk : Disk) (entry : Text × Json) :
    Except Fault (Text × Text) := do
  return (entry.1,
    ← validateFolder place place.rooms.mapping disk ("Path for ".toText ++ entry.1) entry.2)

/-- A domain is not accepted when its folder is not. -/
theorem validateEntry_eq_error_iff {entry : Text × Json} {fault : Fault} :
    validateEntry place disk entry = .error fault ↔
      validateFolder place place.rooms.mapping disk ("Path for ".toText ++ entry.1) entry.2 =
        .error fault := by
  rw [validateEntry, bind_eq_error_iff]
  simp only [pure, Except.pure, reduceCtorEq, and_false, exists_false, or_false]

/-- A domain is accepted when its value names a folder. -/
theorem exists_validateEntry_eq_ok_iff {entry : Text × Json} :
    (∃ result, validateEntry place disk entry = .ok result) ↔
      ∃ folder, NamesFolder place place.rooms.mapping disk entry.2 folder := by
  constructor
  · rintro ⟨result, valid⟩
    obtain ⟨folder, valid, _⟩ := exists_of_bind_eq_ok valid
    exact ⟨folder, validateFolder_eq_ok_iff.1 valid⟩
  · rintro ⟨folder, names⟩
    rw [validateEntry, validateFolder_eq_ok_iff.2 names]
    exact ⟨_, rfl⟩

/-- The folders of domains are not accepted because of the first one that is not. -/
theorem validateMappings_eq_error_iff {fault : Fault} :
    validateMappings place disk mappings = .error fault ↔
      ∃ front entry back, mappings = front ++ entry :: back ∧
        (∀ earlier ∈ front,
          ∃ folder, NamesFolder place place.rooms.mapping disk earlier.2 folder) ∧
        validateFolder place place.rooms.mapping disk ("Path for ".toText ++ entry.1) entry.2 =
          .error fault := by
  have whole : validateMappings place disk mappings =
      (mappings.mapM (validateEntry place disk)).map .ofList := rfl
  have same : validateMappings place disk mappings = .error fault ↔
      mappings.mapM (validateEntry place disk) = .error fault := by
    rw [whole]
    cases mappings.mapM (validateEntry place disk) <;> simp [Except.map]
  simp only [same, mapM_eq_error_iff, validateEntry_eq_error_iff, exists_validateEntry_eq_ok_iff]

/-- A project is not configured because of its root, or else because of a domain. -/
theorem configure_eq_error_iff {fault : Fault} :
    (service.configure disk path mappings).answer = .error fault ↔
      validateFolder service.index.place service.index.place.rooms.root disk
          "Project path".toText path = .error fault ∨
        (∃ root, NamesRoot service disk path root) ∧
          validateMappings service.index.place disk mappings = .error fault := by
  rw [configure]
  simp only [bind, Except.bind, pure, Except.pure]
  cases valid : validateFolder service.index.place service.index.place.rooms.root disk
      "Project path".toText path with
  | error cause =>
    have stray : ¬ ∃ root, NamesRoot service disk path root := by
      rintro ⟨_, names⟩
      simp [validateFolder_eq_ok_iff.2 names] at valid
    simp [stray]
  | ok root =>
    have names : ∃ root, NamesRoot service disk path root :=
      ⟨root, validateFolder_eq_ok_iff.1 valid⟩
    cases validateMappings service.index.place disk mappings <;> simp [names]

/-- A configuration comes to a value that strays: that of its root, or that of a domain when all
before it name folders. -/
inductive LeadsAstray (service : Service) (disk : Disk) (path : Json)
    (mappings : List (Text × Json)) (fault : Fault) : Prop where
  /-- The root strays. -/
  | root (strays : Strays service.index.place service.index.place.rooms.root path fault)
  /-- The folder of a domain strays. -/
  | domain (front back : List (Text × Json)) (entry : Text × Json) (root : Text)
    (names : NamesRoot service disk path root) (parted : mappings = front ++ entry :: back)
    (before : ∀ earlier ∈ front, ∃ folder, NamesMapped service disk earlier.2 folder)
    (strays : Strays service.index.place service.index.place.rooms.mapping entry.2 fault)

/-- What fails is a fault of the configuration, or it comes to a value that strays. -/
theorem configure_error_cases {fault : Fault}
    (failed : (service.configure disk path mappings).answer = .error fault) :
    (∃ cause, fault = .configuration cause) ∨ LeadsAstray service disk path mappings fault := by
  rcases configure_eq_error_iff.1 failed with refused | ⟨⟨root, names⟩, refused⟩
  · exact (validateFolder_error_cases refused).imp_right .root
  · obtain ⟨front, entry, back, parted, before, refused⟩ := validateMappings_eq_error_iff.1 refused
    exact (validateFolder_error_cases refused).imp_right
      (.domain front back entry root names parted before)

/-- A configuration that comes to a value that strays is not refused by its own fault. -/
theorem LeadsAstray.ne_configuration {fault : Fault}
    (astray : LeadsAstray service disk path mappings fault) (cause : ConfigurationFault) :
    fault ≠ .configuration cause := by
  rcases astray with strays | ⟨_, _, _, _, _, _, _, strays⟩
  · exact strays.ne_configuration cause
  · exact strays.ne_configuration cause

/-- A configuration fails in another way than by its own fault exactly when it comes to a value that
strays, and then by the fault of that. -/
theorem configure_strays_iff {fault : Fault} :
    (service.configure disk path mappings).answer = .error fault ∧
        (∀ cause, fault ≠ .configuration cause) ↔
      LeadsAstray service disk path mappings fault := by
  constructor
  · rintro ⟨failed, other⟩
    rcases configure_error_cases failed with ⟨cause, same⟩ | astray
    · exact absurd same (other cause)
    · exact astray
  · refine fun astray => ⟨?_, astray.ne_configuration⟩
    rcases astray with strays | ⟨front, back, entry, root, names, parted, before, strays⟩
    · exact configure_eq_error_iff.2 (.inl (strays.validateFolder_eq _))
    · have refused := validateMappings_eq_error_iff.2
        ⟨front, entry, back, parted, before, strays.validateFolder_eq _⟩
      exact configure_eq_error_iff.2 (.inr ⟨⟨root, names⟩, refused⟩)

end Service

end Restyle
