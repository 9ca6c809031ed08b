import Restyle.Proofs.Service.Contained
import Restyle.Proofs.Sheet.Update

/-!
# What an event makes of the rules of a file

An event is a value that a client sends, and its property names and values are written as they are.
An update that succeeds leaves the rules before its match as they are and those behind it but for
their offsets, whatever the value holds; the match has its changed properties and nothing else
comes of it exactly when the written block is read as it was meant (`applyJson_updates`).
-/
namespace Restyle.Service

open Restyle.Path (names)
open Sheet (Legible Uncommented rules)

variable {service : Service} {disk : Disk} {event : Event} {value : Json} {patched : Patched}
  {effect : Effect PatchResult}

/-- What an update has made of the file of its match. -/
inductive Updated (service : Service) (disk : Disk) (event : Event) (patched : Patched)
    (effect : Effect PatchResult) : Prop where
  /-- The block of the match is another one, and the file is read differently only there. -/
  | intro (root before after block : Text) (found : Match.Found) (i : Nat) (merged : Properties)
    (resolved : service.resolveRoot disk event.domain event.target = .ok root)
    (matched : (service.loaded disk root).match? event root = some found)
    (selector : patched.selector = found.rule.selector)
    (file : fileAt service.index.place root patched.file = names found.file)
    (only : DiffersAt disk effect.disk (names found.file))
    (held : disk.read service.index.place found.file = .ok (Utf8.bytes before))
    (stated : (rules before)[i]? = some found.rule)
    (changed : merged = event.changes.applyTo found.rule.properties)
    (whole : block = Rule.write found.rule.selector merged)
    (written : effect.disk.read service.index.place found.file = .ok (Utf8.bytes after))
    (parts : rules after =
      (rules before).take i ++ ((rules block).map (Rule.shift found.rule.start) ++
        ((rules before).drop (i + 1)).map
          (Rule.shift (block.length - (found.rule.stop - found.rule.start)))))
    (exact : (rules after).map Rule.statement =
        ((rules before).map Rule.statement).set i (found.rule.selector, merged) ↔
      Uncommented found.rule.selector merged ∧
        ∀ entry ∈ event.changes.kept.entries, Legible entry) :
    Updated service disk event patched effect

/-- An event that is applied to a rule that was there has updated its file. -/
theorem updated_applyEvent (sound : Workspace.Sound ⟨service.index, disk⟩)
    (standard : service.index.Standard) (event : Event)
    (answer : (service.applyEvent disk event).answer = .applied patched)
    (update : patched.created = false) :
    Updated service disk event patched (service.applyEvent disk event) := by
  cases writes_of_sound sound standard event with
  | adrift _ _ failed => simp [failed] at answer
  | still _ _ _ _ failed => simp [failed] at answer
  | started _ _ _ _ failed => simp [failed] at answer
  | noticed _ _ _ _ _ failed => simp [failed] at answer
  | emptied _ _ _ _ _ _ failed => simp [failed] at answer
  | extended _ _ _ _ _ _ applied =>
    rw [applied, PatchResult.applied.injEq] at answer
    simp [← answer] at update
  | revised root found entry resolved matched listed stated applied wrote file =>
    rw [applied, PatchResult.applied.injEq] at answer
    subst answer
    have settled : Workspace.Sound ⟨(service.loaded disk root).index, disk⟩ :=
      sound_ensureLoaded sound root
    obtain ⟨normal, under, held⟩ := held_of_mem_filesUnder settled.current.keyed listed
    obtain ⟨_, read, parsed, _⟩ :=
      Index.readEntry_eq_ok_iff.1 (settled.current entry.path entry held).2
    have written := wrote.read
    have wrote := wrote.disk
    simp only [loaded_place] at under read wrote written
    simp only [loaded_parse, standard.parse_eq, Except.ok.injEq] at parsed
    rw [← parsed] at stated
    obtain ⟨i, stated⟩ := List.getElem?_of_mem stated
    obtain ⟨parts, exact⟩ := Sheet.rules_update stated event.changes
    refine .intro root entry.content _ _ found i _ resolved matched rfl ?_ ?_ ?_ stated rfl rfl ?_
      parts exact
    · rw [← file]
      exact fileAt_relative service.index.place normal under
    · rw [← file]
      exact differsAt_of_wrote wrote
    · rw [← file]
      exact read
    · rw [← file]
      exact written

/-- A value that states an event and succeeds as an update of a rule leaves the rules before it and
those behind it, whatever texts the value holds. It leaves all rules but for the changed properties
of the one exactly when no comment is found in the written block and every name and value that it
writes is legible. -/
theorem applyJson_updates (named : disk.Named) (current : service.index.Current disk)
    (standard : service.index.Standard)
    (accepted : Event.ofJson service.index.place.rooms value = .ok event)
    (answer : (service.applyJson disk value).answer = .applied patched)
    (update : patched.created = false) :
    Updated service disk event patched (service.applyJson disk value) := by
  rw [applyJson, accepted] at answer ⊢
  exact updated_applyEvent ⟨named, current⟩ standard event answer update

/-- The law at a value with an opening brace and the beginning of a comment in it. -/
theorem applyJson_updates_braced :
    let place : Place := ⟨"/w".toText, "/h".toText, [], {}⟩
    let disk := Disk.empty.put ["p".toText, "a.css".toText]
      (.file (Utf8.bytes "\x7d .a\x7bx:1;y:2\x7d .b\x7bz:3\x7d".toText) true)
    let index := ((Index.new place).loadRoot disk "/p".toText).2
    let service : Service := { config := {}, index, root := some "/p".toText }
    let value := Json.record [("selector", .string ".a".toText),
      ("changes", Json.record [("x", .string "\x7b/*".toText)])]
    let event : Event :=
      { selector := ".a".toText, changes := .ofList [("x".toText, ⟨some "\x7b/*".toText, none⟩)] }
    let patched : Patched := ⟨"a.css".toText, ".a".toText, ["x".toText], false⟩
    disk.Named ∧ service.index.Current disk ∧ service.index.Standard ∧
      Event.ofJson place.rooms value = .ok event ∧
      (service.applyJson disk value).answer = .applied patched ∧ patched.created = false ∧
      Updated service disk event patched (service.applyJson disk value) := by
  intro place disk index service value event patched
  have named : disk.Named := by decide +kernel
  have loaded : ((Index.new place).loadRoot disk "/p".toText).2.Current disk :=
    Index.current_loadRoot named (Index.current_clear (Index.new place) disk)
  have current : service.index.Current disk := by
    simp only [service]
    exact loaded
  have plain : (Index.new place).Standard := rfl
  have standard : service.index.Standard := by
    simp only [service]
    exact Index.standard_loadRoot plain disk "/p".toText
  have accepted : Event.ofJson place.rooms value = .ok event := rfl
  have placed : service.index.place = place := by
    obtain ⟨entries, shape⟩ := (Index.new place).loadRoot_eq disk "/p".toText
    simp only [service, index, shape]
    rfl
  have answer : (service.applyJson disk value).answer = .applied patched := by decide +kernel
  exact ⟨named, current, standard, accepted, answer, rfl,
    applyJson_updates named current standard (placed.symm ▸ accepted) answer rfl⟩

/-- Texts of a value escape the declaration they are written in: a closing brace adds a rule, a
semicolon a property, a colon in a name and blanks around a value are read otherwise, an empty value
is not read at all, and with the end of a comment that is there the beginning of one takes away what
is between them. -/
theorem applyJson_escapes :
    let place : Place := ⟨"/w".toText, "/h".toText, [], {}⟩
    let before := ".a\x7bx:1;y:2*/;z:3\x7d".toText
    let disk := Disk.empty.put ["p".toText, "a.css".toText] (.file (Utf8.bytes before) true)
    let index := ((Index.new place).loadRoot disk "/p".toText).2
    let service : Service := { config := {}, index, root := some "/p".toText }
    let value (name given : String) := Json.record [("selector", .string ".a".toText),
      ("changes", Json.record [(name, .string given.toText)])]
    let event (name given : String) : Event :=
      { selector := ".a".toText, changes := .ofList [(name.toText, ⟨some given.toText, none⟩)] }
    let meant (name given : String) := (rules before).map fun rule =>
      (rule.selector, (event name given).changes.applyTo rule.properties)
    let after (name given : String) :=
      ((service.applyJson disk (value name given)).disk.readText place
        "/p/a.css".toText).toOption.map fun text => (rules text).map Rule.statement
    disk.Named ∧ service.index.Current disk ∧ service.index.Standard ∧
      (∀ change ∈ [("x", "2\x7d .b\x7by:3"), ("x", "2;w:3"), ("x:w", "2"), ("x", " 2"), ("x", ""),
          ("x", "/*")],
        Event.ofJson place.rooms (value change.1 change.2) = .ok (event change.1 change.2) ∧
          (service.applyJson disk (value change.1 change.2)).answer =
            .applied ⟨"a.css".toText, ".a".toText, [change.1.toList], false⟩ ∧
          (after change.1 change.2).any (· != meant change.1 change.2) = true) ∧
      after "x" "2\x7d .b\x7by:3" = some [(".a".toText, .ofList [("x".toText, "2".toText)]),
        (".b".toText, .ofList [("y".toText, "2*/".toText), ("z".toText, "3".toText)])] := by
  intro place before disk index service value event meant after
  have named : disk.Named := by decide +kernel
  have loaded : ((Index.new place).loadRoot disk "/p".toText).2.Current disk :=
    Index.current_loadRoot named (Index.current_clear (Index.new place) disk)
  have current : service.index.Current disk := by
    simp only [service]
    exact loaded
  have plain : (Index.new place).Standard := rfl
  have standard : service.index.Standard := by
    simp only [service]
    exact Index.standard_loadRoot plain disk "/p".toText
  refine ⟨named, current, standard, fun change listed => ⟨?_, ?_⟩, by decide +kernel⟩
  · simp only [List.mem_cons, List.not_mem_nil, or_false] at listed
    rcases listed with rfl | rfl | rfl | rfl | rfl | rfl <;> rfl
  · revert change
    decide +kernel

end Restyle.Service
