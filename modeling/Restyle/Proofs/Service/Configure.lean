import Restyle.Proofs.Disk.Write
import Restyle.Proofs.Except
import Restyle.Proofs.OrderedMap
import Restyle.Service

/-!
# Configuring a project

A service is configured or left as it was (`configures`). All roots that it knows afterwards, its
own and those of the mapped domains, are absolute paths of folders that may be gone through, made of
the texts of values that it was given (`of_validateMappings`), and so is the root that a target path
names (`resolveRoot_cases`).
-/
namespace Restyle

namespace Service

open Restyle.Path (Normal)

variable {service : Service} {place : Place} {disk : Disk} {what root path : Text} {value : Json}
  {room : Nat}

/-- A value names a folder: it is given, and it has a text, which is not blank and has an absolute
form; this leads to a folder that may be gone through. -/
structure NamesFolder (place : Place) (room : Nat) (disk : Disk) (value : Json) (root : Text) :
    Prop where
  /-- The value is given. -/
  given : value.isGiven = true
  /-- Its text has the root as its absolute form. -/
  text : ∃ text, value.display room = .ok text ∧ Text.isBlankText text = false ∧
    Path.resolve place text = .ok root
  /-- The folder is there, and may be gone through. -/
  folder : disk.leadsToOpenFolder place root = true

/-- A value that is given has no text, or one that is not blank and has no absolute form; with the
fault of it. -/
inductive Strays (place : Place) (room : Nat) (value : Json) : Fault → Prop where
  /-- It has no text. -/
  | undisplayed (given : value.isGiven = true) (fault : Json.DisplayFault)
    (shown : value.display room = .error fault) :
    Strays place room value (.coercion (.undisplayed fault))
  /-- Its text is not blank and has no absolute form. -/
  | unresolved (given : value.isGiven = true) (text : Text) (shown : value.display room = .ok text)
    (seen : Text.isBlankText text = false) (fault : NameFault)
    (failed : Path.resolve place text = .error fault) : Strays place room value (.noPath fault)

/-- What the folder of a value comes to. -/
inductive Judged (place : Place) (room : Nat) (disk : Disk) (value : Json) :
    Except Fault Text → Prop where
  /-- The value names the folder. -/
  | accepted (root : Text) (names : NamesFolder place room disk value root) :
    Judged place room disk value (.ok root)
  /-- It is a fault of the configuration. -/
  | refused (cause : ConfigurationFault) :
    Judged place room disk value (.error (.configuration cause))
  /-- The value strays. -/
  | strayed (fault : Fault) (strays : Strays place room value fault) :
    Judged place room disk value (.error fault)

/-- The folder of a value is accepted, or it is a fault of the configuration, or the value
strays. -/
theorem judged_validateFolder (place : Place) (room : Nat) (disk : Disk) (what : Text)
    (value : Json) : Judged place room disk value (validateFolder place room disk what value) := by
  rw [validateFolder]
  split
  · exact .refused _
  · rename_i given
    have given : value.isGiven = true := by simpa using given
    split
    · rename_i fault shown
      exact .strayed _ (.undisplayed given fault shown)
    · rename_i text shown
      split
      · exact .refused _
      · rename_i seen
        have seen : Text.isBlankText text = false := by simpa using seen
        split
        · rename_i fault failed
          exact .strayed _ (.unresolved given text shown seen fault failed)
        · rename_i absolute resolved
          split
          · exact .refused _
          · split
            · exact .refused _
            · split
              · exact .refused _
              · rename_i folder
                exact .accepted _ ⟨given, ⟨text, shown, seen, resolved⟩, by simpa using folder⟩

/-- A folder is accepted when its value names it. -/
theorem validateFolder_eq_ok_iff :
    validateFolder place room disk what value = .ok root ↔
      NamesFolder place room disk value root := by
  constructor
  · intro valid
    have judged := judged_validateFolder place room disk what value
    rw [valid] at judged
    cases judged with
    | accepted _ names => exact names
  · rintro ⟨given, ⟨text, shown, seen, resolved⟩, folder⟩
    have plain := Disk.leadsToFolder_of_leadsToOpenFolder folder
    simp [validateFolder, given, shown, seen, resolved, folder, plain,
      Disk.leadsSomewhere_of_leadsToFolder plain]

/-- A value that strays is no folder. -/
theorem Strays.validateFolder_eq {fault : Fault} (strays : Strays place room value fault)
    (what : Text) : validateFolder place room disk what value = .error fault := by
  cases strays with
  | undisplayed given fault shown => simp [validateFolder, given, shown]
  | unresolved given text shown seen fault failed =>
    simp [validateFolder, given, shown, seen, failed]

/-- A folder that is not accepted is a fault of the configuration, or its value strays. -/
theorem validateFolder_error_cases {fault : Fault}
    (failed : validateFolder place room disk what value = .error fault) :
    (∃ cause, fault = .configuration cause) ∨ Strays place room value fault := by
  have judged := judged_validateFolder place room disk what value
  rw [failed] at judged
  cases judged with
  | refused cause => exact .inl ⟨cause, rfl⟩
  | strayed _ strays => exact .inr strays

/-- A value that strays is no fault of the configuration. -/
theorem Strays.ne_configuration {fault : Fault} (strays : Strays place room value fault)
    (cause : ConfigurationFault) : fault ≠ .configuration cause := by
  cases strays <;> simp

/-- A value that names a folder has a text, of which the folder is the absolute form. -/
theorem NamesFolder.exists_text (names : NamesFolder place room disk value root) :
    ∃ text, value.display room = .ok text ∧ root = Path.absolute place text := by
  obtain ⟨text, shown, _, resolved⟩ := names.text
  exact ⟨text, shown, (Path.resolve_eq_ok_iff.1 resolved).2.symm⟩

/-- A value names no folder but one. -/
theorem NamesFolder.unique {other : Text} (names : NamesFolder place room disk value root)
    (names' : NamesFolder place room disk value other) : root = other := by
  obtain ⟨text, shown, rfl⟩ := names.exists_text
  obtain ⟨text', shown', rfl⟩ := names'.exists_text
  rw [Except.ok.inj (shown.symm.trans shown')]

/-- The path of a folder that a value names is in normal form. -/
theorem NamesFolder.normal (names : NamesFolder place room disk value root) : Normal root := by
  obtain ⟨text, _, rfl⟩ := names.exists_text
  exact Path.normal_absolute place text

/-- The root of a mapped domain is a folder that its value names. -/
theorem of_validateMappings {mappings : List (Text × Json)} {known : OrderedMap Text Text}
    (valid : validateMappings place disk mappings = .ok known) {domain : Text}
    (held : known.get? domain = some root) :
    ∃ value, (domain, value) ∈ mappings ∧
      NamesFolder place place.rooms.mapping disk value root := by
  rw [validateMappings] at valid
  obtain ⟨entries, each, rfl⟩ := exists_of_map_eq_ok valid
  obtain ⟨⟨name, value⟩, given, chosen⟩ :=
    exists_of_mem_mapM each _ (OrderedMap.mem_of_get?_ofList held)
  obtain ⟨folder, found, same⟩ := exists_of_bind_eq_ok chosen
  obtain ⟨rfl, rfl⟩ := Prod.mk.inj (Except.ok.inj same)
  exact ⟨value, given, validateFolder_eq_ok_iff.1 found⟩

/-- What configuring a project comes to. -/
inductive Configures (service : Service) (disk : Disk) (path : Json)
    (mappings : List (Text × Json)) : Effect (Except Fault Nat) → Prop where
  /-- It is refused, and nothing is changed. -/
  | refused (fault : Fault) :
    Configures service disk path mappings { answer := .error fault, service, disk }
  /-- The root is loaded into an index without entries. -/
  | configured (root : Text) (known : OrderedMap Text Text) (count : Nat) (notices : List Notice)
    (rooted : NamesFolder service.index.place service.index.place.rooms.root disk path root)
    (mapped : validateMappings service.index.place disk mappings = .ok known) :
    Configures service disk path mappings
      { answer := .ok count
        service := { service with
          index := (service.index.clear.loadRoot disk root).2, root := some root
          mappings := known }
        disk
        notices }

/-- A service is configured by loading its root into an index without entries, or left as it
was. -/
theorem configures (service : Service) (disk : Disk) (path : Json)
    (mappings : List (Text × Json)) :
    Configures service disk path mappings (service.configure disk path mappings) := by
  rw [configure]
  simp only [bind, Except.bind, pure, Except.pure]
  generalize valid : validateFolder service.index.place _ disk _ path = chosen
  generalize mapped : validateMappings service.index.place disk mappings = known
  cases chosen with
  | error fault => exact .refused fault
  | ok root =>
    cases known with
    | error fault => exact .refused fault
    | ok known => exact .configured root known _ _ (validateFolder_eq_ok_iff.1 valid) mapped

/-- Configuring a project changes no item of the disk. -/
theorem configure_disk (service : Service) (disk : Disk) (path : Json)
    (mappings : List (Text × Json)) : (service.configure disk path mappings).disk = disk := by
  have done := service.configures disk path mappings
  generalize service.configure disk path mappings = effect at done ⊢
  cases done with
  | refused fault => rfl
  | configured root known count notices rooted mapped => rfl

/-- A project is configured by loading its root into an index without entries. -/
theorem exists_configure_eq {path : Json} {mappings : List (Text × Json)} {count : Nat}
    (configured : (service.configure disk path mappings).answer = .ok count) :
    (service.configure disk path mappings).disk = disk ∧
      ∃ root known, Normal root ∧ disk.leadsToOpenFolder service.index.place root = true ∧
        (service.configure disk path mappings).service =
          { service with
            index := (service.index.clear.loadRoot disk root).2, root := some root
            mappings := known } := by
  have done := service.configures disk path mappings
  generalize service.configure disk path mappings = effect at configured done ⊢
  cases done with
  | refused fault => simp at configured
  | configured root known _ _ rooted _ =>
    exact ⟨rfl, root, known, rooted.normal, rooted.folder, rfl⟩

/-- The root of an event is the folder that its target path names, or else a root that the service
knows. -/
theorem resolveRoot_cases {domain target : Option Json}
    (resolved : service.resolveRoot disk domain target = .ok root) :
    (∃ value, target = some value ∧ NamesFolder service.index.place
        service.index.place.rooms.target disk value root) ∨
      (target = none ∧ ((∃ name, service.mappings.get? name = some root) ∨
        service.root = some root)) := by
  cases target with
  | some value => exact .inl ⟨value, rfl, validateFolder_eq_ok_iff.1 resolved⟩
  | none =>
    refine .inr ⟨rfl, ?_⟩
    simp only [resolveRoot] at resolved
    split at resolved
    · simp at resolved
    · rename_i chosen
      obtain rfl := Except.ok.inj resolved
      left
      cases domain with
      | none => simp at chosen
      | some domain =>
        rw [Option.map_some, Option.getD_some] at chosen
        cases domain with
        | string name => exact ⟨name, Except.ok.inj chosen⟩
        | list items => simp [mapped?] at chosen
        | object members => simp [mapped?] at chosen
        | _ => simp [mapped?] at chosen
    · split at resolved
      · rename_i known
        exact .inr (by rw [known, Except.ok.inj resolved])
      · simp at resolved

/-- The root of an event is its root on every disk that has kept the folders, whatever the index
holds. -/
theorem resolveRoot_of_folders {index : Index} {after : Disk} {domain target : Option Json}
    (same : index.place = service.index.place)
    (folders : ∀ path, disk.leadsToOpenFolder service.index.place path = true →
      after.leadsToOpenFolder service.index.place path = true)
    (resolved : service.resolveRoot disk domain target = .ok root) :
    resolveRoot { service with index } after domain target = .ok root := by
  cases target with
  | none => exact resolved
  | some value =>
    obtain ⟨given, text, folder⟩ := validateFolder_eq_ok_iff.1 resolved
    have valid : validateFolder service.index.place service.index.place.rooms.target after
        "Target path".toText value = .ok root :=
      validateFolder_eq_ok_iff.2 ⟨given, text, folders root folder⟩
    rw [← same] at valid
    exact valid

end Service

end Restyle
