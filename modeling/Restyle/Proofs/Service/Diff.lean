import Restyle.Proofs.Change.Landing
import Restyle.Proofs.Service.Run

/-!
# Applying a difference

The events between two stylesheets, applied to a project whose only stylesheet is the first of
them, need not bring out the second one: an event goes to the first rule of any of its candidates.
They do exactly when the result of each names its own selector and what differs can be written to
the first rule of its selector (`diff_applied_iff`).
-/
namespace Restyle

/-- The selector of the rule that was written, if one was. -/
def PatchResult.selector? : PatchResult → Option Text
  | .applied patched => some patched.selector
  | .failed _ _ => none

namespace Project

variable {file : Text} {rules front back : List (Text × Properties)} {rule : Text × Properties}
  {event : Event}

/-- The rules of a single stylesheet are numbered in order. -/
theorem numbered_single (file : Text) (rules : List (Text × Properties)) :
    numbered [(file, rules)] = rules.mapIdx (place file) := by
  simp only [numbered, listed, List.flatMap_cons, List.flatMap_nil, List.append_nil]
  rw [List.mapIdx_eq_zipIdx_map, List.mapIdx_eq_zipIdx_map, List.zipIdx_map, List.map_map]
  rfl

/-- The match at a number of a single stylesheet has its changes merged in. -/
theorem step_of_match? {found : Match.Found}
    (matched : match? {} event [(file, front ++ rule :: back)] = some found)
    (spot : found.spot = place file front.length rule) (target : Text) :
    step {} event target [(file, front ++ rule :: back)] =
        [(file, front ++ (rule.1, event.changes.applyTo rule.2) :: back)] ∧
      (block {} event [(file, front ++ rule :: back)]).1 = rule.1 := by
  have start : found.rule.start.toNat = front.length := by
    have same : found.rule = (place file front.length rule).2 := congrArg Prod.snd spot
    rw [same]
    rfl
  have selector : found.rule.selector = rule.1 := by
    have same : found.rule = (place file front.length rule).2 := congrArg Prod.snd spot
    rw [same]
    rfl
  have inside : front.length < (front ++ rule :: back).length := by simp
  rw [step, block, matched]
  simp only [start, selector, and_true]
  rw [revise, if_pos inside, List.modify_eq_take_cons_drop inside]
  simp

/-- Rules that no candidate of an event selects are none of its candidates when numbered. -/
theorem unnamed_mapIdx_place (unnamed : ∀ other ∈ rules, other.1 ∉ event.selectors)
    (file : Text) : ∀ other ∈ rules.mapIdx (place file),
      other.2.selector ∉ (Match.candidates event).map Variation.selector := by
  intro other listed
  obtain ⟨i, bound, rfl⟩ := List.mem_mapIdx.1 listed
  exact unnamed _ (List.getElem_mem bound)

/-- The first rule that a candidate of an event selects is its match. -/
theorem exists_match?_of_first (named : rule.1 ∈ event.selectors)
    (before : ∀ other ∈ front, other.1 ∉ event.selectors) (file : Text) :
    ∃ found, match? {} event [(file, front ++ rule :: back)] = some found ∧
      found.spot = place file front.length rule := by
  have numbers : numbered [(file, front ++ rule :: back)] =
      front.mapIdx (place file) ++ place file front.length rule ::
        back.mapIdx fun i => place file (i + 1 + front.length) := by
    rw [numbered_single, List.mapIdx_append, List.mapIdx_cons, Nat.zero_add]
  have above : Weights.threshold {} < Weights.exact {} := by decide
  rw [match?, numbers]
  exact Match.best?_exact above (unnamed_mapIdx_place before file) named

/-- A match in a single stylesheet is one of its rules. -/
theorem exists_spot {found : Match.Found} (matched : match? {} event [(file, rules)] = some found) :
    ∃ front rule back, rules = front ++ rule :: back ∧
      found.spot = place file front.length rule := by
  have spot := Match.best?_mem matched
  rw [numbered_single] at spot
  obtain ⟨n, bound, same⟩ := List.mem_mapIdx.1 spot
  refine ⟨rules.take n, rules[n], rules.drop (n + 1), ?_, ?_⟩
  · rw [← List.drop_eq_getElem_cons bound, List.take_append_drop]
  · rw [List.length_take, Nat.min_eq_left (Nat.le_of_lt bound), same]

/-- A step of a project with a single stylesheet writes the event to a rule of it. -/
theorem exists_moves (file : Text) (rules : List (Text × Properties)) (event : Event) :
    ∃ rules', step {} event file [(file, rules)] = [(file, rules')] ∧
      Landing.Moves event rules (some (block {} event [(file, rules)]).1) rules' := by
  cases first : rules.find? fun rule => decide (rule.1 ∈ event.selectors) with
  | some rule =>
    obtain ⟨named, front, back, rfl, before⟩ := List.find?_eq_some_iff_append.1 first
    rw [decide_eq_true_eq] at named
    have before : ∀ other ∈ front, other.1 ∉ event.selectors := by simpa using before
    obtain ⟨found, matched, spot⟩ := exists_match?_of_first named before file
    obtain ⟨same, selector⟩ := step_of_match? matched spot file
    exact ⟨_, same, selector ▸ .exact front rule back rfl named before⟩
  | none =>
    have unnamed : ∀ other ∈ rules, other.1 ∉ event.selectors := by
      simpa using List.find?_eq_none.1 first
    cases matched : match? {} event [(file, rules)] with
    | none =>
      refine ⟨rules ++ [(event.newSelector, event.changes.kept)], ?_, ?_⟩
      · rw [step, matched]
        simp [extend]
      · rw [block, matched]
        exact .created unnamed
    | some found =>
      have apart := unnamed_mapIdx_place unnamed file
      rw [← numbered_single] at apart
      obtain ⟨candidate, listed, _, above⟩ := Match.best?_similar matched apart
      obtain ⟨front, rule, back, rfl, spot⟩ := exists_spot matched
      obtain ⟨whole, selector⟩ := step_of_match? matched spot file
      have here : found.rule.selector = rule.1 := congrArg (fun spot => spot.2.selector) spot
      rw [here] at above
      exact ⟨_, whole, selector ▸ .similar front rule back candidate rfl unnamed listed above⟩

end Project

namespace Service

open Sheet (declared styleOf)

variable {service : Service} {disk : Disk} {root file : Text} {event : Event}

/-- Events, each with the selector of the rule that it is written to. -/
def landings (service : Service) (disk : Disk) : List Event → List (Event × Option Text)
  | [] => []
  | event :: rest =>
    let effect := service.applyEvent disk event
    (event, effect.answer.selector?) :: landings effect.service effect.disk rest

/-- Every block that events write is clean. -/
def CleanRun (service : Service) (disk : Disk) : List Event → Prop
  | [] => True
  | event :: rest =>
    let effect := service.applyEvent disk event
    (effect.answer.selector?.isSome = true → service.Clean disk event) ∧
      CleanRun effect.service effect.disk rest

instance decidableCleanRun : (service : Service) → (disk : Disk) → (events : List Event) →
    Decidable (service.CleanRun disk events)
  | _, _, [] => .isTrue trivial
  | service, disk, event :: rest =>
    let effect := service.applyEvent disk event
    have := decidableCleanRun effect.service effect.disk rest
    inferInstanceAs (Decidable ((effect.answer.selector?.isSome = true → _) ∧ _))

/-- What the rules of a stylesheet say. -/
def rulesAt (service : Service) (disk : Disk) (file : Text) : List (Text × Properties) :=
  (Sheet.rules (service.textAt disk file)).map Rule.statement

/-- A project with one stylesheet is that stylesheet. -/
theorem project_eq_singleton_iff (service : Service) (disk : Disk) (file : Text)
    (rules : List (Text × Properties)) :
    service.project disk = [(file, rules)] ↔
      service.index.paths = [file] ∧ service.rulesAt disk file = rules := by
  rw [project, List.map_eq_singleton_iff]
  constructor
  · rintro ⟨path, paths, same⟩
    obtain ⟨rfl, rfl⟩ := Prod.mk.inj same
    exact ⟨paths, rfl⟩
  · rintro ⟨paths, rfl⟩
    exact ⟨file, paths, rfl⟩

/-- New rules go to the only stylesheet. -/
theorem target_of_paths (single : service.index.paths = [file]) (disk : Disk) :
    service.target disk = file := by
  rw [target, longest?, single]
  rfl

/-- A plain event is written to a rule of the only stylesheet. -/
theorem Settled.moves (settled : Settled service disk root) (plain : event.Plain)
    (weights : service.config.weights = {}) (single : service.index.paths = [file])
    (encodes : Encodes service disk event)
    (clean : ∀ patched, (service.applyEvent disk event).answer = .applied patched →
      service.Clean disk event) :
    (service.applyEvent disk event).service.index.paths = [file] ∧
      Landing.Moves event (service.rulesAt disk file)
        (service.applyEvent disk event).answer.selector?
        ((service.applyEvent disk event).service.rulesAt (service.applyEvent disk event).disk
          file) := by
  have step := settled.follows plain clean
  have before := (project_eq_singleton_iff service disk file _).2 ⟨single, rfl⟩
  rw [weights, target_of_paths single, before] at step
  generalize service.applyEvent disk event = effect at step
  generalize later : effect.service.project effect.disk = project at step
  generalize effect.answer = answer at step
  cases step with
  | applied name =>
    obtain ⟨rules, same, moves⟩ :=
      Project.exists_moves file (service.rulesAt disk file) event
    obtain ⟨paths, rfl⟩ := (project_eq_singleton_iff _ _ _ _).1 (later.trans same)
    exact ⟨paths, moves⟩
  | failed error reason =>
    obtain ⟨paths, rules⟩ := (project_eq_singleton_iff _ _ _ _).1 later
    rw [rules]
    exact ⟨paths, .failed⟩
  | begun error bare => simp at bare
  | emptied error surrogates =>
    rw [← before, ← weights] at surrogates
    exact absurd encodes surrogates

/-- Plain events are written to rules of the only stylesheet, one after the other. -/
theorem Settled.runs (settled : Settled service disk root) {events : List Event}
    (plain : ∀ event ∈ events, event.Plain) (weights : service.config.weights = {})
    (single : service.index.paths = [file]) (encoded : Encoded service disk events)
    (clean : service.CleanRun disk events) :
    Landing.Runs (service.rulesAt disk file) (service.landings disk events)
      ((service.afterAll disk events).1.rulesAt (service.afterAll disk events).2 file) := by
  induction events generalizing service disk with
  | nil => exact .nil _
  | cons event rest ih =>
    obtain ⟨paths, move⟩ := settled.moves (plain event (by simp)) weights single encoded.1
      fun patched answer => clean.1 (by rw [answer]; rfl)
    refine .cons move (ih (settled.applyEvent (plain event (by simp)) encoded.1)
      (fun other listed => plain other (by simp [listed])) ?_ paths encoded.2 clean.2)
    obtain ⟨index, same⟩ := service.applyEvent_service disk event
    rw [same]
    exact weights

/-- The landings of events are those of each of them. -/
theorem map_fst_landings (service : Service) (disk : Disk) (events : List Event) :
    (service.landings disk events).map Prod.fst = events := by
  induction events generalizing service disk with
  | nil => rfl
  | cons event rest ih => rw [landings, List.map_cons, ih]

/-- Events that are all written have blocks that can be written. -/
theorem Settled.encoded_of_landings (settled : Settled service disk root) {events : List Event}
    (plain : ∀ event ∈ events, event.Plain)
    (written : ∀ landing ∈ service.landings disk events, landing.2 ≠ none) :
    Encoded service disk events := by
  induction events generalizing service disk with
  | nil => trivial
  | cons event rest ih =>
    rw [landings, List.forall_mem_cons] at written
    have encodes : Encodes service disk event := by
      cases answer : (service.applyEvent disk event).answer with
      | applied patched => exact settled.encodes_of_applied (plain event (by simp)) answer
      | failed error reason => exact absurd (by rw [answer]; rfl) written.1
    exact ⟨encodes, ih (settled.applyEvent (plain event (by simp)) encodes)
      (fun other listed => plain other (by simp [listed])) written.2⟩

/-- The events between two styles that stylesheets have can be written. -/
theorem encodable_of_mem_events {old new text : Text} (first : Utf8.Writable old)
    (second : Utf8.Writable text) (same : styleOf text = styleOf new)
    (listed : event ∈ Diff.events old new) : event.Encodable :=
  (Diff.leads_of_mem_events listed).encodable (Diff.exists_differs_of_mem_events listed)
    (fun _ _ _ => Sheet.writable_of_styleOf first)
    (same ▸ fun _ _ _ => Sheet.writable_of_styleOf second)

/-- An event between two stylesheets is written to a rule of its own selector, and no property that
it changes is declared by another rule of the selector than the first, or gets the deletion mark for
its value. -/
def Lands (old new : Text) (landing : Event × Option Text) : Prop :=
  landing.2 = some landing.1.selector ∧ ∀ name ∈ landing.1.changes.keys,
    declared landing.1.selector name
        (Landing.ofSelector landing.1.selector ((Sheet.rules old).map Rule.statement)).tail = none ∧
      styleOf new landing.1.selector name ≠ some deletionMark

instance (old new : Text) (landing : Event × Option Text) : Decidable (Lands old new landing) :=
  inferInstanceAs (Decidable (_ ∧ _))

/-- The events between two stylesheets, applied to a project whose only stylesheet is the first
one, bring out the second one exactly when every one of them lands. -/
theorem diff_applied_iff (service : Service) (disk : Disk) (standard : service.index.Standard)
    (named : disk.Named) (weights : service.config.weights = {}) (path : Json)
    (mappings : List (Text × Json)) (count : Nat)
    (configured : (service.configure disk path mappings).answer = .ok count) (old new : Text) :
    let start := (service.configure disk path mappings).service
    ∀ file, start.index.paths = [file] → start.textAt disk file = old →
      start.CleanRun disk (Diff.events old new) →
        let last := start.afterAll disk (Diff.events old new)
        ((∀ selector name, styleOf (last.1.textAt last.2 file) selector name =
            styleOf new selector name) ↔
          ∀ landing ∈ start.landings disk (Diff.events old new), Lands old new landing) := by
  intro start file single text clean last
  obtain ⟨_, root, settled⟩ := exists_settled_configure standard named configured
  obtain ⟨_, _, _, _, _, shape⟩ := exists_configure_eq configured
  have plain : ∀ event ∈ Diff.events old new, event.Plain := fun event listed =>
    ⟨(Diff.leads_of_mem_events listed).undomained, (Diff.leads_of_mem_events listed).untargeted⟩
  have usual : start.config.weights = {} := by
    show (service.configure disk path mappings).service.config.weights = {}
    rw [shape]
    exact weights
  -- a block that cannot be written is written to no rule, and then it is not in the last text
  by_cases encoded : start.Encoded disk (Diff.events old new)
  case neg =>
    refine iff_of_false (fun agrees => encoded ?_) (fun lands => encoded ?_)
    · have same : styleOf (last.1.textAt last.2 file) = styleOf new :=
        funext fun selector => funext (agrees selector)
      exact encoded_of_encodable (fun event listed => encodable_of_mem_events
        (text ▸ start.writable_textAt disk file) (last.1.writable_textAt last.2 file) same listed)
        start disk
    · exact settled.encoded_of_landings plain fun landing listed gone => by
        simp [(lands landing listed).1] at gone
  have run := settled.runs plain usual single encoded clean
  have whole := map_fst_landings start disk (Diff.events old new)
  have listed : ∀ landing ∈ start.landings disk (Diff.events old new),
      landing.1 ∈ Diff.events old new := by
    intro landing held
    rw [← whole]
    exact List.mem_map.2 ⟨landing, held, rfl⟩
  have rules : start.rulesAt disk file = (Sheet.rules old).map Rule.statement := by
    rw [rulesAt, text]
  have course : Landing.Course (styleOf old) (styleOf new) (start.rulesAt disk file)
      (start.landings disk (Diff.events old new)) (last.1.rulesAt last.2 file) := by
    refine ⟨fun selector name => ?_, fun landing held => Diff.leads_of_mem_events (listed _ held),
      fun landing held => Diff.exists_differs_of_mem_events (listed _ held),
      fun selector name differs => ?_, ?_, run⟩
    · rw [rules, ← Sheet.styleOf_eq]
    · obtain ⟨event, held, same⟩ := Diff.exists_mem_events differs
      rw [← whole] at held
      obtain ⟨landing, inside, rfl⟩ := List.mem_map.1 held
      exact ⟨landing, inside, same⟩
    · have distinct := Diff.nodup_events old new
      rw [← whole, List.map_map] at distinct
      exact distinct
  have settles := course.agree_iff
  rw [rules] at settles
  have ends : ∀ selector name, styleOf (last.1.textAt last.2 file) selector name =
      declared selector name (last.1.rulesAt last.2 file) := Sheet.styleOf_eq _
  simp only [ends]
  exact settles

/-- Two selectors that differ and one that is gone, none of which is like another. -/
theorem diff_applied_iff_landing :
    let old := "a\x7bx:1;y:2\x7d b\x7by:2\x7d".toText
    let new := "a\x7bx:3\x7d c\x7bz:1\x7d".toText
    let disk := Disk.empty.put ["p".toText, "a.css".toText] (.file (Utf8.bytes old) true)
    let service := Service.new ⟨"/w".toText, "/h".toText, [], {}⟩ {} none
    let start := (service.configure disk (.string "/p".toText) []).service
    let last := start.afterAll disk (Diff.events old new)
    let file := "/p/a.css".toText
    service.index.Standard ∧ disk.Named ∧ service.config.weights = {} ∧
      (service.configure disk (.string "/p".toText) []).answer.toOption = some 1 ∧
      start.index.paths = [file] ∧ start.textAt disk file = old ∧
      start.CleanRun disk (Diff.events old new) ∧
      (Diff.events old new).map Event.selector = ["a".toText, "c".toText, "b".toText] ∧
      ∀ selector name, styleOf (last.1.textAt last.2 file) selector name =
        styleOf new selector name := by
  intro old new disk service start last file
  have named : disk.Named := by decide +kernel
  have counted : (service.configure disk (.string "/p".toText) []).answer.toOption = some 1 := by
    decide +kernel
  have configured : (service.configure disk (.string "/p".toText) []).answer = .ok 1 :=
    Index.toOption_eq_some_iff.1 counted
  have paths : start.index.paths = [file] := by decide +kernel
  have text : start.textAt disk file = old := by decide +kernel
  have selectors : (Diff.events old new).map Event.selector =
      ["a".toText, "c".toText, "b".toText] := by decide +kernel
  have clean : start.CleanRun disk (Diff.events old new) := by
    decide +kernel
  have lands : ∀ landing ∈ start.landings disk (Diff.events old new), Lands old new landing := by
    decide +kernel
  exact ⟨rfl, named, rfl, counted, paths, text, clean, selectors,
    (diff_applied_iff service disk rfl named rfl (.string "/p".toText) [] 1 configured old new
      file paths text clean).2 lands⟩

/-- An event may be written to a rule that is only similar to its selector, and the second
stylesheet does not come out. -/
theorem diff_applied_elsewhere :
    let old := "nav ul li a\x7bx:1\x7d".toText
    let new := "nav ul li a\x7bx:1\x7d nav ul li\x7bx:2\x7d".toText
    let disk := Disk.empty.put ["p".toText, "a.css".toText] (.file (Utf8.bytes old) true)
    let service := Service.new ⟨"/w".toText, "/h".toText, [], {}⟩ {} none
    let start := (service.configure disk (.string "/p".toText) []).service
    let last := start.afterAll disk (Diff.events old new)
    let file := "/p/a.css".toText
    service.index.Standard ∧ disk.Named ∧ service.config.weights = {} ∧
      (service.configure disk (.string "/p".toText) []).answer.toOption = some 1 ∧
      start.index.paths = [file] ∧ start.textAt disk file = old ∧
      start.CleanRun disk (Diff.events old new) ∧
      (start.landings disk (Diff.events old new)).map (fun landing =>
        (landing.1.selector, landing.2)) = [("nav ul li".toText, some "nav ul li a".toText)] ∧
      styleOf (last.1.textAt last.2 file) "nav ul li".toText "x".toText = none ∧
      styleOf new "nav ul li".toText "x".toText = some "2".toText := by
  intro old new disk service start last file
  exact ⟨rfl, by decide +kernel, rfl, by decide +kernel, by decide +kernel, by decide +kernel,
    by decide +kernel, by decide +kernel, by decide +kernel, by decide +kernel⟩

end Service

end Restyle
