import Restyle.Proofs.Service.Coherent

/-!
# Edits of another program

Another program may edit stylesheets between the events of a service. The service patches the text
that it read or wrote last, not the text that the file has now, so what the other program wrote
since then is lost, and nothing tells of it (`run_interleaved_loses`). Main statement: in every
session an event that fails leaves every item, or empties one file when its own texts cannot be
written; and one that is applied rewrites one file, by the text of an entry of it; if the file has
no other entry and did not stray since the service read or wrote it last, these are its bytes, and
all outside the block stay (`run_interleaved`).
-/
namespace Restyle.Service

open Restyle.Path (Normal names)

variable {service : Service} {disk : Disk} {strayed : List Trail} {place : Place} {lead : Text}
  {event : Event}

/-- What an event comes to beside another program: it fails and leaves every item, or empties a file
because its own texts cannot be written, or it rewrites the file that its result names by the text
of an entry of it, which the file has unless it strayed or has a second entry. -/
inductive Spares (service : Service) (disk : Disk) (strayed : List Trail) (event : Event)
    (effect : Effect PatchResult) : Prop where
  /-- It fails, and every item is as it was. -/
  | failed (error : Text) (reason : Reason) (answer : effect.answer = .failed error reason)
    (kept : ∀ trail, disk.node? trail ≠ none → effect.disk.node? trail = disk.node? trail)
  /-- It fails, and one file is left empty, since what it is to put there cannot be written. -/
  | emptied (error root path content : Text) (reason : Reason)
    (answer : effect.answer = .failed error reason)
    (resolved : service.resolveRoot disk event.domain event.target = .ok root)
    (under : names (Path.absolute service.index.place root) <+: names path)
    (only : DiffersAt disk effect.disk (names path))
    (emptied : effect.disk.bytes? (names path) = some [])
    (intends : Intends (service.loaded disk root) disk event root path content)
    (surrogates : ¬ Utf8.Writable content) (unencodable : ¬ event.Encodable)
  /-- It is applied, and one file is rewritten. -/
  | applied (patched : Patched) (root : Text) (old : Option (List UInt8)) (new : List UInt8)
    (answer : effect.answer = .applied patched)
    (resolved : service.resolveRoot disk event.domain event.target = .ok root)
    (only : DiffersAt disk effect.disk (fileAt service.index.place root patched.file))
    (written : effect.disk.bytes? (fileAt service.index.place root patched.file) = some new)
    (rewrites : Rewrites (service.loaded disk root) event root old new)
    (known : ∀ bytes, old = some bytes → ∃ path entry,
      (service.loaded disk root).index.entries.get? path = some entry ∧
        names path = fileAt service.index.place root patched.file ∧
        bytes = Utf8.bytes entry.content)
    (settled : Sole (service.loaded disk root) (fileAt service.index.place root patched.file) →
      fileAt service.index.place root patched.file ∉ strayed →
      disk.bytes? (fileAt service.index.place root patched.file) = old)

/-- An event that rewrites a file below its root and then names it spares the rest. -/
theorem spares_applied {effect : Effect PatchResult} {patched : Patched} {root path : Text}
    {old : Option (List UInt8)} {new : List UInt8} (answer : effect.answer = .applied patched)
    (resolved : service.resolveRoot disk event.domain event.target = .ok root)
    (normal : Normal path) (under : names (Path.absolute service.index.place root) <+: names path)
    (file : patched.file = Path.relative path (Path.absolute service.index.place root))
    (wrote : disk.Wrote service.index.place path new effect.disk)
    (rewrites : Rewrites (service.loaded disk root) event root old new)
    (known : ∀ bytes, old = some bytes → ∃ other entry,
      (service.loaded disk root).index.entries.get? other = some entry ∧
        names other = names path ∧ bytes = Utf8.bytes entry.content)
    (settled : Sole (service.loaded disk root) (names path) → names path ∉ strayed →
      disk.bytes? (names path) = old) : Spares service disk strayed event effect := by
  have goal : fileAt service.index.place root patched.file = names path := by
    rw [file, fileAt_relative service.index.place normal under]
  refine .applied patched root old new answer resolved ?_ ?_ rewrites ?_ ?_
  · rw [goal]
    exact differsAt_of_wrote wrote
  · rw [goal]
    exact wrote.bytes?_self
  · rw [goal]
    exact known
  · rw [goal]
    exact settled

/-- An event fails and leaves every item or empties one file, or it rewrites one file by the text of
an entry of it. -/
theorem Tracked.spares (tracked : Tracked service disk strayed) (rooted : Rooted service disk)
    (event : Event) : Spares service disk strayed event (service.applyEvent disk event) := by
  have same : ∀ {nodes : OrderedMap Trail Node}, nodes = disk.nodes →
      (service.applyEvent disk event).disk.nodes = nodes →
      ∀ trail, disk.node? trail ≠ none →
        (service.applyEvent disk event).disk.node? trail = disk.node? trail :=
    fun first second trail _ => Disk.node?_congr (second.trans first) trail
  cases writes tracked.named tracked.keyed tracked.standard tracked.present event with
  | adrift error reason answer untouched =>
    exact .failed error reason answer (same rfl untouched.nodes)
  | still root error reason resolved answer untouched =>
    exact .failed error reason answer (same rfl untouched.nodes)
  | started root error reason resolved answer bare wrote =>
    refine .failed error reason answer fun trail held => ?_
    have fresh := bare.fresh
    simp only at fresh
    have wrote := wrote.disk
    simp only at wrote
    rw [wrote.node?_eq, if_neg]
    rintro rfl
    exact held fresh
  | noticed root error reason entry resolved answer overlooked stored nodes =>
    exact absurd overlooked (rooted.not_overlooked tracked.named resolved entry)
  | emptied root path content error reason resolved answer intends surrogates wrote gains =>
    have under := intends.under (tracked.loaded root).keyed
    rw [loaded_place] at under
    exact .emptied error root path content reason answer resolved under (differsAt_of_wrote wrote)
      wrote.bytes?_self intends surrogates fun encodable =>
        surrogates (tracked.writable_of_intends encodable intends)
  | revised root found entry resolved matched listed stated answer wrote =>
    have loaded := tracked.loaded root
    obtain ⟨normal, under, held⟩ := held_of_mem_filesUnder loaded.keyed listed
    have parsed : (service.loaded disk root).index.parse entry.content = .ok entry.rules := by
      rw [loaded.standard.parse_eq, loaded.ruled entry.path entry held]
    have wrote := wrote.disk
    simp only [loaded_place] at wrote under
    refine spares_applied answer resolved normal under rfl wrote
      (rewrites_block matched parsed stated) ?_ ?_
    · exact fun bytes same => ⟨entry.path, entry, held, rfl, (Option.some.inj same).symm⟩
    · exact fun sole settled =>
        Disk.bytes?_of_read normal (loaded.read_of_sole held sole settled)
  | extended root path content resolved unmatched slot answer wrote =>
    have loaded := tracked.loaded root
    obtain ⟨normal, under⟩ := of_slot loaded.keyed slot
    have wrote := wrote.disk
    simp only [loaded_place] at wrote under
    rw [Utf8.bytes_append] at wrote
    cases slot with
    | known entry longest =>
      have held := (held_of_mem_filesUnder loaded.keyed
        (Index.mem_filesUnder_of_largest? longest)).2.2
      refine spares_applied answer resolved normal under rfl wrote (.appended _ unmatched) ?_ ?_
      · exact fun bytes same => ⟨entry.path, entry, held, rfl, (Option.some.inj same).symm⟩
      · exact fun sole settled =>
          Disk.bytes?_of_read normal (loaded.read_of_sole held sole settled)
    | noticed entry overlooked =>
      exact absurd overlooked (rooted.not_overlooked tracked.named resolved entry)
    | new bare =>
      refine spares_applied answer resolved normal under rfl wrote
        (.founded unmatched bare.unlisted) (by simp) fun _ _ => ?_
      have fresh : disk.node? (names (Workspace.newFile _ root)) = none := bare.fresh
      rw [Disk.bytes?, fresh]

/-- Applying an event, or a value that states it, is that step of a session. -/
theorem run_of_event? {operation : Operation} {service : Service} (disk : Disk)
    (stated : operation.event? service.index.place.rooms = some event) :
    operation.run service disk =
      ((service.applyEvent disk event).service, (service.applyEvent disk event).disk) := by
  cases operation with
  | configure path mappings => simp [Operation.event?] at stated
  | applyEvent other =>
    obtain rfl := Option.some.inj stated
    rfl
  | applyJson value =>
    exact (Operation.applyJson_eq disk (Index.toOption_eq_some_iff.1 stated)).1

/-- The target path of the event of an operation begins as all its paths do. -/
theorem Operation.Led.target {operation : Operation} (led : operation.Led place lead)
    (stated : operation.event? place.rooms = some event) :
    ∀ value, event.target = some value → Leads place place.rooms.target lead value := by
  cases operation with
  | configure path mappings => simp [event?] at stated
  | applyEvent other =>
    obtain rfl := Option.some.inj stated
    exact led
  | applyJson value => exact led event (Index.toOption_eq_some_iff.1 stated)

/-- In every session of a new service and another program each step that applies an event fails and
leaves every item, or empties one file because its own texts cannot be written, or rewrites one file
by the text of an entry of it: by the bytes of the file unless it has a second entry or strayed
since the service read or wrote it last. There is no second entry of any file where all paths that
the service is given begin with the same separators. -/
theorem run_interleaved (place : Place) (config : Config) (disk : Disk) (named : disk.Named)
    (actions : List Action) :
    ∀ front operation event back, actions = front ++ .operate operation :: back →
      operation.event? place.rooms = some event →
      let now := (Session.start place config disk).run front
      let next := (Session.start place config disk).run (front ++ [.operate operation])
      let effect := now.service.applyEvent now.disk event
      Spares now.service now.disk now.strayed event effect ∧
        next.service = effect.service ∧ next.disk = effect.disk ∧
        ∀ lead, (∀ action ∈ actions, action.Led place lead) →
          ∀ root, now.service.resolveRoot now.disk event.domain event.target = .ok root →
            ∀ trail, Sole (now.service.loaded now.disk root) trail := by
  intro front operation event back split stated now next effect
  have tracked : Tracked now.service now.disk now.strayed :=
    Session.tracked_run (Session.tracked_start named place config) front
  have rooted : Rooted now.service now.disk :=
    Session.rooted_run (Session.rooted_start place config disk)
      (Session.tracked_start named place config) front
  have placed : now.service.index.place = place :=
    Session.place_run (Session.tracked_start named place config) front
  rw [← placed] at stated
  have step : next = now.after (.operate operation) := by
    show Session.run _ (front ++ [.operate operation]) = _
    rw [Session.run, List.foldl_append]
    rfl
  have ran := run_of_event? now.disk stated
  refine ⟨tracked.spares rooted event, ?_, ?_, fun lead given root resolved trail => ?_⟩
  · rw [step, Session.after, ran]
  · rw [step, Session.after, ran]
  · have early : ∀ action ∈ front, action.Led place lead := fun action listed =>
      given action (by simp [split, listed])
    have led : Led now.service place lead :=
      Session.led_run (Session.led_start place config disk lead)
        (Session.tracked_start named place config) early
    have target :=
      Operation.Led.target (given (.operate operation) (by simp [split])) (placed ▸ stated)
    exact (led.loaded tracked.named (led.resolveRoot target resolved)).sole
      (tracked.loaded root).keyed trail

/-- What another program wrote stays when the project is configured again before the next event. -/
theorem run_interleaved_reread :
    let place : Place := ⟨"/w".toText, "/h".toText, [], {}⟩
    let disk := Disk.empty.put ["p".toText, "a.css".toText]
      (.file (Utf8.bytes ".a\x7bx:1\x7d".toText) true)
    let configure : Action := .operate (.configure (.string "/p".toText) [])
    let edit : Action := .edit "/p/a.css".toText (Utf8.bytes ".b\x7bz:0\x7d .a\x7bx:1\x7d".toText)
    let event : Event :=
      { selector := ".a".toText, changes := .ofList [("x".toText, ⟨some "2".toText, none⟩)] }
    let now := (Session.start place {} disk).run [configure, edit, configure]
    let effect := now.service.applyEvent now.disk event
    disk.Named ∧
      (∀ action ∈ [configure, edit, configure, .operate (.applyEvent event)],
        action.Led place [.char '/']) ∧
      now.strayed = [] ∧ effect.answer.reason? = none ∧
      (effect.disk.readText place "/p/a.css".toText).toOption =
        some ".b\x7bz:0\x7d .a \x7b\n  x: 2;\n\x7d".toText ∧
      Spares now.service now.disk now.strayed event effect ∧
      ∀ trail, Sole (now.service.loaded now.disk "/p".toText) trail := by
  intro place disk configure edit event now effect
  have named : disk.Named := by decide +kernel
  have root : Path.leading (Path.absolute place "/p".toText) = [.char '/'] := by decide +kernel
  have configured : configure.Led place [.char '/'] := by
    refine ⟨fun text shown => ?_, by simp⟩
    rw [← Except.ok.inj shown]
    exact root
  have applied : Action.Led place [.char '/'] (.operate (.applyEvent event)) := by
    intro target given
    simp [event] at given
  have led : ∀ action ∈ [configure, edit, configure, .operate (.applyEvent event)],
      action.Led place [.char '/'] := by
    intro action listed
    simp only [List.mem_cons, List.not_mem_nil, or_false] at listed
    rcases listed with rfl | rfl | rfl | rfl
    · exact configured
    · trivial
    · exact configured
    · exact applied
  have resolved : (now.service.resolveRoot now.disk event.domain event.target).toOption =
      some "/p".toText := by decide +kernel
  obtain ⟨spares, _, _, sole⟩ := run_interleaved place {} disk named _
    [configure, edit, configure] (.applyEvent event) event [] rfl rfl
  exact ⟨named, led, by decide +kernel, by decide +kernel, by decide +kernel, spares,
    sole [.char '/'] led "/p".toText (Index.toOption_eq_some_iff.1 resolved)⟩

/-- An event overwrites what another program wrote into the file of its match, though the file has
no rule of that selector any more. -/
theorem run_interleaved_loses :
    let place : Place := ⟨"/w".toText, "/h".toText, [], {}⟩
    let disk := Disk.empty.put ["p".toText, "a.css".toText]
      (.file (Utf8.bytes ".a\x7bx:1\x7d".toText) true)
    let event : Event :=
      { selector := ".a".toText, changes := .ofList [("x".toText, ⟨some "2".toText, none⟩)] }
    let now := (Session.start place {} disk).run
      [.operate (.configure (.string "/p".toText) []),
        .edit "/p/a.css".toText (Utf8.bytes ".b\x7bz:0\x7d".toText)]
    let effect := now.service.applyEvent now.disk event
    disk.Named ∧
      (now.disk.readText place "/p/a.css".toText).toOption = some ".b\x7bz:0\x7d".toText ∧
      effect.answer = .applied ⟨"a.css".toText, ".a".toText, ["x".toText], false⟩ ∧
      (effect.disk.readText place "/p/a.css".toText).toOption =
        some ".a \x7b\n  x: 2;\n\x7d".toText := by
  intro place disk event now effect
  refine ⟨?_, ?_, ?_, ?_⟩
  all_goals decide +kernel

end Restyle.Service
