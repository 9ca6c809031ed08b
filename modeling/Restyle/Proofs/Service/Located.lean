import Restyle.Proofs.Index.Addressed
import Restyle.Proofs.Service.Tracked

/-!
# Files that are found again

A rule that an event matches stands in the index, and so does the stylesheet that a new rule goes
to, so patching it finds them again: each function of a workspace leaves every entry under its own
path and has no fault that says that the index is stale (`Workspace.Located`). Main statement: after
every run of an index and then of a service, on whatever disks, no event is answered with that
reason (`never_stale`).
-/
namespace Restyle

/-- A file that could not be written is no sign of a stale index. -/
theorem Fault.reason_writeFailed_ne (path : Text) (fault : WriteFault) :
    (Fault.writeFailed path fault).reason ≠ .staleIndex := by
  rcases fault with (_ | _ | _ | _ | _) | refusal <;> simp [reason]

/-- A file that could not be read is no sign of a stale index. -/
theorem Fault.reason_skipped_ne (fault : SkipFault) :
    (Fault.skipped fault).reason ≠ .staleIndex := by
  cases fault <;> simp [reason]

/-- What cannot be read as an event is no sign of a stale index. -/
theorem Fault.reason_ofRead_ne (fault : ReadFault) : (Fault.ofRead fault).reason ≠ .staleIndex := by
  cases fault <;> simp [ofRead, reason]

namespace Workspace

variable {workspace : Workspace} {path content root : Text} {α : Type}

/-- What a function of a workspace comes to: every entry stands under its own path, and a fault is
none of a stale index. -/
structure Located (result : Except Fault α × Workspace) : Prop where
  /-- Entries stand under their own paths. -/
  keyed : result.2.index.Keyed
  /-- The index is not stale. -/
  sound : ∀ fault, result.1 = .error fault → fault.reason ≠ .staleIndex

/-- A fault that is none of a stale index leaves the workspace. -/
theorem located_error {fault : Fault} (keyed : workspace.index.Keyed)
    (other : fault.reason ≠ .staleIndex) :
    Located ((.error fault, workspace) : Except Fault α × Workspace) :=
  ⟨keyed, fun _ same => Except.error.inj same ▸ other⟩

/-- What goes through has no fault. -/
theorem located_ok (keyed : workspace.index.Keyed) (value : α) :
    Located ((.ok value, workspace) : Except Fault α × Workspace) :=
  ⟨keyed, fun _ same => by simp at same⟩

/-- Overwriting a file leaves the index. -/
theorem located_overwrite (keyed : workspace.index.Keyed) (path content : Text) :
    Located (workspace.overwrite path content) := by
  refine ⟨keyed, fun fault failed => ?_⟩
  obtain ⟨cause, _, rfl⟩ := mapError_eq_error_iff.1 failed
  exact Fault.reason_writeFailed_ne path cause

/-- Reading a file into the index stores an entry under its own path. -/
theorem located_refresh (keyed : workspace.index.Keyed) (path : Text) :
    Located (workspace.refresh path) := by
  rw [refresh]
  split
  · rename_i fault _
    exact located_error keyed (Fault.reason_skipped_ne fault)
  · rename_i entry after loaded
    obtain ⟨own, rfl⟩ := Index.of_loadFile loaded
    exact located_ok (Index.keyed_store keyed (own ▸ Path.normal_absolute _ _)) ()

/-- A file that was read into the index is found there. -/
theorem exists_get?_of_refresh {after : Workspace}
    (done : workspace.refresh path = (.ok (), after)) :
    ∃ entry, after.index.get? path = some entry := by
  rw [refresh] at done
  split at done
  · simp at done
  · rename_i entry index loaded
    obtain ⟨own, rfl⟩ := Index.of_loadFile loaded
    obtain rfl := (Prod.mk.inj done).2
    refine ⟨entry, ?_⟩
    show (workspace.index.store entry).entries.get? (Path.absolute workspace.index.place path) = _
    rw [← own, Index.get?_store_self]

/-- Replacing a file stores an entry under its own path. -/
theorem located_replaceFile (keyed : workspace.index.Keyed) (path content : Text) :
    Located (workspace.replaceFile path content) := by
  have written := located_overwrite keyed path content
  rw [replaceFile]
  split
  · rename_i fault after failed
    rw [failed] at written
    exact located_error written.keyed (written.sound fault rfl)
  · rename_i after done
    rw [done] at written
    exact located_refresh written.keyed path

/-- Rewriting a rule of the index finds the rule in its stylesheet. -/
theorem located_updateRule (keyed : workspace.index.Keyed) {rule : Rule}
    (listed : (path, rule) ∈ workspace.index.rulesUnder root) (changes : Changes) :
    Located (workspace.updateRule path rule changes) := by
  obtain ⟨entry, reaches, stated⟩ := keyed.addressed.rulesUnder root _ listed
  have known : entry.rules.any rule.same = true :=
    List.any_eq_true.2 ⟨rule, stated, rule.same_self⟩
  have got : workspace.index.get? path = some entry := reaches.got
  rw [updateRule, got]
  cases Path.resolve workspace.index.place path with
  | error fault => exact located_error keyed (by simp [Fault.reason])
  | ok absolute =>
    simp only [known, Bool.not_true, Bool.false_eq_true, if_false]
    generalize outcome : workspace.replaceFile entry.path _ = result
    have replaced := located_replaceFile keyed entry.path
      (splice entry.content rule (Rule.write rule.selector (changes.applyTo rule.properties)))
    rw [outcome] at replaced
    split
    · exact located_error replaced.keyed (replaced.sound _ rfl)
    · exact located_ok replaced.keyed _

/-- The stylesheet that a new rule goes to is found in the index. -/
theorem located_targetFile (keyed : workspace.index.Keyed) (root : Text) :
    Located (workspace.targetFile root) ∧
      ∀ path after, workspace.targetFile root = (.ok path, after) →
        ∃ entry, after.index.get? path = some entry := by
  rw [targetFile]
  split
  · exact ⟨located_error keyed (by simp [Fault.reason]), by simp⟩
  · rename_i entry _ longest
    refine ⟨located_ok keyed _, fun path after same => ?_⟩
    obtain ⟨own, rfl⟩ := Prod.mk.inj same
    rw [← Except.ok.inj own]
    exact ⟨entry, (keyed.addressed.largest root entry longest).got⟩
  · -- a new stylesheet is read into the index once it is there
    generalize Path.append (Path.absolute workspace.index.place root) newFileName = file
    have made : Located (if workspace.disk.leadsSomewhere workspace.index.place file then
        (.ok (), workspace) else workspace.overwrite file newFileHeader) := by
      split
      · exact located_ok keyed ()
      · exact located_overwrite keyed file newFileHeader
    simp only
    generalize (if workspace.disk.leadsSomewhere workspace.index.place file then
      (.ok (), workspace) else workspace.overwrite file newFileHeader) = result at made ⊢
    obtain ⟨outcome, middle⟩ := result
    cases outcome with
    | error fault => exact ⟨located_error made.keyed (made.sound fault rfl), by simp⟩
    | ok _ =>
      simp only
      have located := located_refresh made.keyed file
      generalize read : middle.refresh file = result at located ⊢
      obtain ⟨outcome, last⟩ := result
      cases outcome with
      | error fault => exact ⟨located_error located.keyed (located.sound fault rfl), by simp⟩
      | ok _ =>
        refine ⟨located_ok located.keyed file, fun path after same => ?_⟩
        obtain ⟨own, rfl⟩ := Prod.mk.inj same
        rw [← Except.ok.inj own]
        exact exists_get?_of_refresh read

/-- Appending a rule finds the stylesheet that it goes to. -/
theorem located_createRule (keyed : workspace.index.Keyed) (selector : Text) (changes : Changes)
    (root : Text) : Located (workspace.createRule selector changes root) := by
  rw [createRule]
  obtain ⟨located, held⟩ := located_targetFile keyed root
  generalize workspace.targetFile root = result at located held
  obtain ⟨outcome, middle⟩ := result
  split
  · exact located_error keyed (by simp [Fault.reason])
  · cases outcome with
    | error fault => exact located_error located.keyed (located.sound fault rfl)
    | ok path =>
      obtain ⟨entry, got⟩ := held path middle rfl
      simp only [got]
      have replaced := located_replaceFile located.keyed entry.path
        (entry.content ++ .char '\n' :: .char '\n' :: Rule.write selector (changes.applyTo .empty))
      split
      · rename_i fault after failed
        rw [failed] at replaced
        exact located_error replaced.keyed (replaced.sound fault rfl)
      · rename_i after done
        rw [done] at replaced
        exact located_ok replaced.keyed _

end Workspace

namespace Service

variable {service : Service} {disk : Disk} {root : Text}

/-- Patching a loaded root finds the match, or the stylesheet of a new rule. -/
theorem located_patch (keyed : service.index.Keyed) (disk : Disk) (event : Event) (root : Text) :
    Workspace.Located (service.patch disk event root) := by
  have settled : (Workspace.mk service.index disk).index.Keyed := keyed
  rw [patch]
  split
  · rename_i found matched
    exact Workspace.located_updateRule settled (Match.best?_mem matched) event.changes
  · exact Workspace.located_createRule settled _ _ root

/-- A folder that is not accepted is no sign of a stale index. -/
theorem reason_validateFolder_ne {place : Place} {room : Nat} {what : Text} {value : Json}
    {fault : Fault} (failed : validateFolder place room disk what value = .error fault) :
    fault.reason ≠ .staleIndex := by
  rcases validateFolder_error_cases failed with ⟨cause, rfl⟩ | strays
  · cases cause <;> simp [Fault.reason]
  · cases strays <;> simp [Fault.reason]

/-- An event without a root is no sign of a stale index. -/
theorem reason_resolveRoot_ne {domain target : Option Json} {fault : Fault}
    (failed : service.resolveRoot disk domain target = .error fault) :
    fault.reason ≠ .staleIndex := by
  cases target with
  | some value => exact reason_validateFolder_ne failed
  | none =>
    simp only [resolveRoot] at failed
    split at failed
    · simp [← Except.error.inj failed, Fault.reason]
    · simp at failed
    · split at failed
      · simp at failed
      · simp [← Except.error.inj failed, Fault.reason]

/-- What a service answers to a fault that is none of a stale index has another reason. -/
theorem reason?_resultOf_ne {outcome : Except Fault Patched}
    (sound : ∀ fault, outcome = .error fault → fault.reason ≠ .staleIndex) :
    (resultOf outcome).reason? ≠ some .staleIndex := by
  cases outcome with
  | ok patched => simp [resultOf, PatchResult.reason?]
  | error fault => simpa [resultOf, PatchResult.reason?] using sound fault rfl

/-- Applying an event leaves every entry under its own path and finds no stale index. -/
theorem applyEvent_located (named : disk.Named) (keyed : service.index.Keyed) (event : Event) :
    (service.applyEvent disk event).service.index.Keyed ∧
      (service.applyEvent disk event).answer.reason? ≠ some .staleIndex := by
  cases resolved : service.resolveRoot disk event.domain event.target with
  | error fault =>
    have run : service.run disk event = { answer := .error fault, service, disk } := by
      rw [run, resolved]
    rw [applyEvent, run]
    refine ⟨keyed, ?_⟩
    show (resultOf (.error fault)).reason? ≠ _
    exact reason?_resultOf_ne fun _ same => Except.error.inj same ▸ reason_resolveRoot_ne resolved
  | ok root =>
    obtain ⟨answer, index, _⟩ := service.applyEvent_eq resolved
    have settled : (service.loaded disk root).index.Keyed := Index.keyed_ensureLoaded named keyed
    have located := located_patch settled disk event root
    rw [answer, index]
    refine ⟨located.keyed, reason?_resultOf_ne fun fault failed => ?_⟩
    generalize (service.loaded disk root).patch disk event root = result at located failed
    obtain ⟨outcome, after⟩ := result
    cases outcome with
    | error cause =>
      rw [← Except.error.inj failed]
      exact located.sound cause rfl
    | ok patched => simp [Except.map] at failed

/-- Applying what a value states leaves every entry under its own path and finds no stale index. -/
theorem applyJson_located (named : disk.Named) (keyed : service.index.Keyed) (value : Json) :
    (service.applyJson disk value).service.index.Keyed ∧
      (service.applyJson disk value).answer.reason? ≠ some .staleIndex := by
  rw [applyJson]
  split
  · exact applyEvent_located named keyed _
  · rename_i fault _
    refine ⟨keyed, ?_⟩
    show (resultOf (.error (.ofRead fault))).reason? ≠ _
    exact reason?_resultOf_ne fun _ same => Except.error.inj same ▸ Fault.reason_ofRead_ne fault

/-- Every operation of a service leaves every entry under its own path. -/
theorem Operation.keyed_run (named : disk.Named) (keyed : service.index.Keyed)
    (operation : Operation) : (operation.run service disk).1.index.Keyed := by
  cases operation with
  | configure path mappings =>
    have done := service.configures disk path mappings
    rw [run]
    generalize service.configure disk path mappings = effect at done ⊢
    cases done with
    | refused fault => exact keyed
    | configured root known count notices _ _ =>
      exact Index.keyed_loadRoot named (Index.keyed_fresh service.index)
  | applyEvent event => exact (applyEvent_located named keyed event).1
  | applyJson value => exact (applyJson_located named keyed value).1

/-- The service after operations, each on the disk as it is then. -/
def runOn (service : Service) (steps : List (Disk × Operation)) : Service :=
  steps.foldl (fun service step => (step.2.run service step.1).1) service

/-- Through every run of operations every entry stays under its own path. -/
theorem keyed_runOn (keyed : service.index.Keyed) {steps : List (Disk × Operation)}
    (named : ∀ step ∈ steps, step.1.Named) : (service.runOn steps).index.Keyed := by
  induction steps generalizing service with
  | nil => exact keyed
  | cons step rest ih =>
    obtain ⟨first, later⟩ := List.forall_mem_cons.1 named
    exact ih (step.2.keyed_run first keyed) later

/-- After every run of an index it reaches all that it hands out, and so does that of a service that
takes it over, after every run of the service; no event is then answered with the reason that the
index is stale. -/
theorem never_stale (index : Index) (loads : List (Disk × Index.Operation))
    (calls : List (Disk × Operation)) (config : Config)
    (loaded : ∀ step ∈ loads, step.1.Named) (called : ∀ step ∈ calls, step.1.Named) :
    let filled := index.fresh.runAll loads
    let service := (Service.new index.place config (some filled)).runOn calls
    filled.Addressed ∧ service.index.Addressed ∧
      ∀ disk : Disk, disk.Named →
        (∀ event, (service.applyEvent disk event).answer.reason? ≠ some .staleIndex) ∧
          ∀ value, (service.applyJson disk value).answer.reason? ≠ some .staleIndex := by
  intro filled service
  have keyed : filled.Keyed := Index.keyed_runAll index.keyed_fresh loaded
  have start : (Service.new index.place config (some filled)).index.Keyed := by
    rw [Service.new]
    simp only
    split
    · exact (Index.new index.place).keyed_fresh
    · exact keyed
  have settled : service.index.Keyed := keyed_runOn start called
  exact ⟨keyed.addressed, settled.addressed, fun disk named =>
    ⟨fun event => (applyEvent_located named settled event).2,
      fun value => (applyJson_located named settled value).2⟩⟩

/-- A file is known by two spellings, one of them is taken away, the other one is edited behind the
back of a service: the service is still not told that its index is stale. -/
theorem never_stale_edited :
    let index := Index.new ⟨"/w".toText, "/h".toText, [], {}⟩
    let disk := Disk.empty.put ["p".toText, "a.css".toText]
      (.file (Utf8.bytes ".a\x7bx:1\x7d".toText) true)
    let edited := disk.set ["p".toText, "a.css".toText] (.file (Utf8.bytes ".b\x7d".toText) true)
    let event : Event :=
      { selector := ".a".toText, changes := .ofList [("x".toText, ⟨some "2".toText, none⟩)] }
    let loads : List (Disk × Index.Operation) := [(disk, .loadRoot "/w/.././/p/".toText),
      (disk, .loadFile "//p/./a.css".toText), (disk, .remove "/p/../p/a.css".toText)]
    let calls : List (Disk × Operation) :=
      [(disk, .configure (.string "//p".toText) []), (edited, .applyEvent event)]
    let filled := index.fresh.runAll loads
    let service := (Service.new index.place {} (some filled)).runOn calls
    (∀ step ∈ loads, step.1.Named) ∧ (∀ step ∈ calls, step.1.Named) ∧ edited.Named ∧
      filled.paths = ["//p/a.css".toText] ∧ filled.Addressed ∧ service.index.Addressed ∧
      (service.applyEvent edited event).answer.reason? ≠ some .staleIndex := by
  intro index disk edited event loads calls filled service
  have named : disk.Named ∧ edited.Named := by decide +kernel
  have loaded : ∀ step ∈ loads, step.1.Named := by simp [loads, named.1]
  have called : ∀ step ∈ calls, step.1.Named := by simp [calls, named.1, named.2]
  obtain ⟨whole, settled, sound⟩ := never_stale index loads calls {} loaded called
  exact ⟨loaded, called, named.2, by decide +kernel, whole, settled,
    (sound edited named.2).1 event⟩

end Service

end Restyle
