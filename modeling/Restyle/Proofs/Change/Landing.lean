import Restyle.Proofs.Change.Diff
import Restyle.Proofs.Match.Candidates

/-!
# Where events land

An event is written to the first rule whose selector is one of its candidates, else to a rule that
is similar enough to one of them, else to a new rule (`Moves`). A run of the events of a difference
comes to the new stylesheet only when every event is written to a rule of its own selector: an
event that lands elsewhere leaves its selector to others, and what lands on that selector has left
its own (`own_of_agree`). When all events are written to their own selectors, what comes out is
settled selector by selector (`declared_eq_iff`, `agree_iff`).
-/
namespace Restyle

open Sheet (declared)

namespace Diff.Leads

variable {old new : Text → Text → Option Text} {event : Event}

/-- The candidates of an event of a difference are those of its selector. -/
theorem selectors_eq (leads : Leads old new event) :
    event.selectors = Match.selectorsOf event.selector := by
  rw [Event.selectors, Match.candidates, leads.derived, leads.classes]
  rfl

/-- The selector of an event of a difference is one of its candidates. -/
theorem self_mem (leads : Leads old new event) : event.selector ∈ event.selectors := by
  rw [leads.selectors_eq]
  exact Match.self_mem_selectorsOf _

/-- The selector of a new rule for an event of a difference is one of its candidates: its first
class, or the selector itself when it has none. -/
theorem newSelector_cases (leads : Leads old new event) :
    event.newSelector ∈ event.selectors ∧
      (event.newSelector = event.selector ∨
        ∃ name, Match.IsClass name ∧ event.newSelector = .char '.' :: name) := by
  have head : event.selectors.head? = some event.newSelector := by
    have top := Match.head?_selectorsOf event.selector
    rw [← leads.selectors_eq] at top
    rw [Event.newSelector, ← List.head?_map, ← Event.selectors, top]
    rfl
  refine ⟨List.mem_of_mem_head? head, ?_⟩
  rw [leads.selectors_eq, Match.head?_selectorsOf, Option.some.injEq] at head
  cases classes : Match.classesOf event.selector with
  | nil =>
    rw [classes] at head
    exact .inl head.symm
  | cons name rest =>
    rw [classes] at head
    have named : name ∈ Match.classesOf event.selector := classes ▸ List.mem_cons_self
    exact .inr ⟨name, Match.isClass_of_mem_classesOf named, head.symm⟩

end Diff.Leads

namespace Landing

variable {event : Event} {rules middle after : List (Text × Properties)}

/-- The selector of the rule that an event is written to, none when it is not, and the rules it
leaves. -/
inductive Moves (event : Event) (rules : List (Text × Properties)) :
    Option Text → List (Text × Properties) → Prop where
  /-- The event is not written. -/
  | failed : Moves event rules none rules
  /-- It is written to the first rule whose selector is one of its candidates. -/
  | exact (front : List (Text × Properties)) (rule : Text × Properties)
    (back : List (Text × Properties)) (split : rules = front ++ rule :: back)
    (named : rule.1 ∈ event.selectors) (before : ∀ other ∈ front, other.1 ∉ event.selectors) :
    Moves event rules (some rule.1) (front ++ (rule.1, event.changes.applyTo rule.2) :: back)
  /-- It is written to a rule that is similar enough to one of its candidates. -/
  | similar (front : List (Text × Properties)) (rule : Text × Properties)
    (back : List (Text × Properties)) (candidate : Text) (split : rules = front ++ rule :: back)
    (unnamed : ∀ other ∈ rules, other.1 ∉ event.selectors) (listed : candidate ∈ event.selectors)
    (above : 50 < Match.score {} rule.1 candidate event.classes) :
    Moves event rules (some rule.1) (front ++ (rule.1, event.changes.applyTo rule.2) :: back)
  /-- It is written to a new rule. -/
  | created (unnamed : ∀ other ∈ rules, other.1 ∉ event.selectors) :
    Moves event rules (some event.newSelector) (rules ++ [(event.newSelector, event.changes.kept)])

/-- A run of events, each with the selector of the rule that it is written to. -/
inductive Runs : List (Text × Properties) → List (Event × Option Text) →
    List (Text × Properties) → Prop where
  /-- No events. -/
  | nil (rules : List (Text × Properties)) : Runs rules [] rules
  /-- An event and those behind it. -/
  | cons {rules middle after : List (Text × Properties)} {event : Event} {goal : Option Text}
    {log : List (Event × Option Text)} (move : Moves event rules goal middle)
    (rest : Runs middle log after) : Runs rules ((event, goal) :: log) after

/-- The rules of one selector. -/
def ofSelector (selector : Text) (rules : List (Text × Properties)) : List (Text × Properties) :=
  rules.filter (·.1 = selector)

/-- What a selector is given depends on its rules only. -/
theorem declared_ofSelector (selector name : Text) (rules : List (Text × Properties)) :
    declared selector name (ofSelector selector rules) = declared selector name rules := by
  induction rules with
  | nil => rfl
  | cons rule rest ih =>
    by_cases same : rule.1 = selector
    · rw [ofSelector, List.filter_cons_of_pos (by simpa using same), ← ofSelector, declared, ih,
        declared]
    · rw [ofSelector, List.filter_cons_of_neg (by simpa using same), ← ofSelector, declared, ih,
        if_neg same, Option.or_none]

namespace Moves

variable {goal : Option Text} {selector : Text}

/-- An event keeps the selectors of the rules in their order, and may add the first of its
candidates behind them. -/
theorem map_fst (move : Moves event rules goal after) :
    after.map Prod.fst = rules.map Prod.fst ∨
      goal = some event.newSelector ∧
        after.map Prod.fst = rules.map Prod.fst ++ [event.newSelector] := by
  cases move with
  | failed => exact .inl rfl
  | exact front rule back split _ _ => exact .inl (by simp [split])
  | similar front rule back _ split _ _ _ => exact .inl (by simp [split])
  | created _ => exact .inr ⟨rfl, by simp⟩

/-- An event leaves the rules of every selector that it is not written to. -/
theorem ofSelector_eq (move : Moves event rules goal after) (apart : goal ≠ some selector) :
    ofSelector selector after = ofSelector selector rules := by
  cases move with
  | failed => rfl
  | exact front rule back split _ _ =>
    have other : rule.1 ≠ selector := fun same => apart (congrArg some same)
    simp [ofSelector, split, other]
  | similar front rule back _ split _ _ _ =>
    have other : rule.1 ≠ selector := fun same => apart (congrArg some same)
    simp [ofSelector, split, other]
  | created _ =>
    have other : event.newSelector ≠ selector := fun same => apart (congrArg some same)
    simp [ofSelector, other]

/-- The rules of a selector that is a candidate of the event written to it: the first one has the
changes merged in, or there is a new one. -/
theorem ofSelector_self (move : Moves event rules (some selector) after)
    (self : selector ∈ event.selectors) :
    (∃ rule rest, ofSelector selector rules = rule :: rest ∧
      ofSelector selector after = (selector, event.changes.applyTo rule.2) :: rest) ∨
    (ofSelector selector rules = [] ∧
      ofSelector selector after = [(selector, event.changes.applyTo .empty)]) := by
  have none : ∀ {front : List (Text × Properties)},
      (∀ other ∈ front, other.1 ∉ event.selectors) → ofSelector selector front = [] := by
    refine fun before => List.filter_eq_nil_iff.2 fun other held same => before other held ?_
    rw [decide_eq_true_eq] at same
    exact same ▸ self
  generalize written : some selector = goal at move
  cases move with
  | failed => simp at written
  | exact front rule back parted _ before =>
    have here : rule.1 = selector := (Option.some.inj written).symm
    refine .inl ⟨rule, ofSelector selector back, ?_, ?_⟩
    · rw [parted, ofSelector, List.filter_append, ← ofSelector, none before,
        List.filter_cons_of_pos (by simpa using here)]
      rfl
    · rw [ofSelector, List.filter_append, ← ofSelector, none before,
        List.filter_cons_of_pos (by simpa using here), here]
      rfl
  | similar front rule back _ parted unnamed _ _ =>
    have here : rule.1 = selector := (Option.some.inj written).symm
    exact absurd (here ▸ self) (unnamed rule (by simp [parted]))
  | created unnamed =>
    have here : event.newSelector = selector := (Option.some.inj written).symm
    refine .inr ⟨none unnamed, ?_⟩
    rw [ofSelector, List.filter_append, ← ofSelector, none unnamed, here, Changes.applyTo_empty]
    simp

end Moves

namespace Runs

variable {log front back : List (Event × Option Text)} {entry : Event × Option Text}
  {selector : Text}

/-- A run to an event, the event, and the run behind it. -/
theorem split (run : Runs rules (front ++ entry :: back) after) :
    ∃ middle next, Runs rules front middle ∧ Moves entry.1 middle entry.2 next ∧
      Runs next back after := by
  induction front generalizing rules with
  | nil =>
    cases run with
    | cons move rest => exact ⟨rules, _, .nil rules, move, rest⟩
  | cons first others ih =>
    cases run with
    | cons move rest =>
      obtain ⟨middle, next, start, here, later⟩ := ih rest
      exact ⟨middle, next, .cons move start, here, later⟩

/-- A run keeps the selectors of the rules in front. -/
theorem prefix_map_fst (run : Runs rules log after) :
    rules.map Prod.fst <+: after.map Prod.fst := by
  induction run with
  | nil rules => exact List.prefix_rfl
  | cons move rest ih =>
    rcases move.map_fst with same | ⟨_, more⟩
    · exact same ▸ ih
    · rw [more] at ih
      exact (List.prefix_append _ _).trans ih

/-- A selector that a run leaves a rule of had one before, or is that of a new rule. -/
theorem mem_map_fst (run : Runs rules log after) (held : selector ∈ after.map Prod.fst) :
    selector ∈ rules.map Prod.fst ∨
      ∃ entry ∈ log, entry.2 = some selector ∧ entry.1.newSelector = selector := by
  induction run with
  | nil rules => exact .inl held
  | cons move rest ih =>
    rcases ih held with known | ⟨entry, listed, new⟩
    · rcases move.map_fst with same | ⟨goal, more⟩
      · exact .inl (same ▸ known)
      · rw [more, List.mem_append, List.mem_singleton] at known
        rcases known with known | rfl
        · exact .inl known
        · exact .inr ⟨_, List.mem_cons_self, goal, rfl⟩
    · exact .inr ⟨entry, List.mem_cons_of_mem _ listed, new⟩

/-- A run leaves the rules of every selector that nothing is written to. -/
theorem ofSelector_eq (run : Runs rules log after)
    (apart : ∀ entry ∈ log, entry.2 ≠ some selector) :
    ofSelector selector after = ofSelector selector rules := by
  induction run with
  | nil rules => rfl
  | cons move rest ih =>
    rw [ih fun entry listed => apart entry (List.mem_cons_of_mem _ listed),
      move.ofSelector_eq (apart _ List.mem_cons_self)]

end Runs

/-- What a selector had is left when it has a rule and none was written. -/
theorem mem_map_fst_of_declared {selector name : Text}
    (given : declared selector name rules ≠ none) : selector ∈ rules.map Prod.fst := by
  by_contra absent
  refine given (Sheet.declared_eq_none (fun rule listed same => absent ?_) name)
  exact List.mem_map.2 ⟨rule, listed, same⟩

/-- A run of the events of a difference between two styles, of which the rules have the first:
one event for each selector that some property differs for. -/
structure Course (old new : Text → Text → Option Text) (rules : List (Text × Properties))
    (log : List (Event × Option Text)) (after : List (Text × Properties)) : Prop where
  /-- The rules have the first style. -/
  starts : ∀ selector name, declared selector name rules = old selector name
  /-- The events lead from the first style to the second. -/
  leads : ∀ entry ∈ log, Diff.Leads old new entry.1
  /-- Every event is for a selector with a property that differs. -/
  differs : ∀ entry ∈ log, ∃ name, old entry.1.selector name ≠ new entry.1.selector name
  /-- Every selector with a property that differs has an event. -/
  covers : ∀ selector name, old selector name ≠ new selector name →
    ∃ entry ∈ log, entry.1.selector = selector
  /-- The events are for different selectors. -/
  distinct : (log.map fun entry => entry.1.selector).Nodup
  /-- The run of the events. -/
  run : Runs rules log after

namespace Course

variable {old new : Text → Text → Option Text} {log : List (Event × Option Text)}
  {entry other : Event × Option Text}

/-- The event of a selector is the only one. -/
theorem eq_of_selector_eq (course : Course old new rules log after) (listed : entry ∈ log)
    (held : other ∈ log) (same : other.1.selector = entry.1.selector) : other = entry :=
  List.inj_on_of_nodup_map course.distinct held listed same

/-- What is written to a selector when the run leaves it a style it did not have before. -/
theorem exists_written (course : Course old new rules log after)
    (agrees : ∀ selector name, declared selector name after = new selector name)
    (listed : entry ∈ log) : ∃ other ∈ log, other.2 = some entry.1.selector := by
  by_contra unwritten
  obtain ⟨name, differs⟩ := course.differs entry listed
  have same := course.run.ofSelector_eq fun other held goal => unwritten ⟨other, held, goal⟩
  rw [← course.starts, ← agrees, ← declared_ofSelector _ _ rules, ← declared_ofSelector _ _ after,
    same] at differs
  exact differs rfl

/-- An event whose selector has no rule at first is written to no other selector, if the second
style is to come out: its own rule would have to be made for another event, which only happens
when it is a single class, and then the event has no other rule to go to. -/
theorem own_of_new (course : Course old new rules log after)
    (agrees : ∀ selector name, declared selector name after = new selector name)
    (listed : entry ∈ log) (absent : entry.1.selector ∉ rules.map Prod.fst) {goal : Text}
    (written : entry.2 = some goal) : goal = entry.1.selector := by
  by_contra apart
  have needed : entry.1.selector ∈ after.map Prod.fst := by
    obtain ⟨name, differs⟩ := course.differs entry listed
    have nothing : old entry.1.selector name = none := by
      rw [← course.starts]
      refine Sheet.declared_eq_none (fun rule held same => absent ?_) name
      exact List.mem_map.2 ⟨rule, held, same⟩
    rw [nothing, ← agrees] at differs
    exact mem_map_fst_of_declared differs.symm
  rcases course.run.mem_map_fst needed with known | ⟨other, held, goal', new⟩
  · exact absent known
  · have different : other.1.selector ≠ entry.1.selector := by
      intro same
      have equal := course.eq_of_selector_eq listed held same
      rw [equal, written, Option.some.injEq] at goal'
      exact apart goal'
    rcases (course.leads _ held).newSelector_cases.2 with same | ⟨name, named, same⟩
    · exact different (same.symm.trans new)
    · -- the selector is a class: it has no other candidate, and no rule is similar to it
      have single : entry.1.selector = .char '.' :: name := new.symm.trans same
      have only : ∀ candidate, candidate ∈ entry.1.selectors ↔ candidate = entry.1.selector := by
        intro candidate
        rw [(course.leads _ listed).selectors_eq, single, Match.mem_selectorsOf_class named]
      obtain ⟨front, back, rfl⟩ := List.append_of_mem listed
      obtain ⟨_, _, _, move, _⟩ := course.run.split
      rw [written] at move
      cases move with
      | exact front rule back _ here _ => exact apart ((only _).1 here)
      | similar front rule back candidate _ _ here above =>
        rw [(only _).1 here, (course.leads entry listed).classes, single,
          Match.classesOf_class named] at above
        have bound := Match.score_class_le named fun equal => apart (equal.trans single.symm)
        omega
      | created _ => exact apart ((only _).1 (course.leads _ listed).newSelector_cases.1)

/-- What stands before a selector in a list stands there in every longer list. -/
theorem exists_before {first more front back : List Text} {selector goal : Text}
    (known : selector ∈ first) (whole : first ++ more = front ++ goal :: back)
    (before : selector ∉ front) : ∃ rest, first = front ++ goal :: rest := by
  rcases List.append_eq_append_iff.1 whole with ⟨middle, rfl, _⟩ | ⟨middle, rfl, same⟩
  · exact absurd (List.mem_append_left _ known) before
  · cases middle with
    | nil =>
      rw [List.append_nil] at known
      exact absurd known before
    | cons head rest =>
      rw [List.cons_append, List.cons.injEq] at same
      exact ⟨rest, by rw [same.1]⟩

/-- Of two entries of a list one stands before the other, in whatever way it is parted. -/
theorem mem_of_append_eq {front back front' back' : List Text} {selector goal : Text}
    (whole : front ++ goal :: back = front' ++ selector :: back') (before : selector ∉ front)
    (apart : goal ≠ selector) : goal ∈ front' := by
  rcases List.append_eq_append_iff.1 whole with ⟨middle, rfl, same⟩ | ⟨middle, rfl, same⟩
  · cases middle with
    | nil => exact absurd (List.cons.inj same).1 apart
    | cons head rest =>
      rw [List.cons_append, List.cons.injEq] at same
      simp [same.1]
  · cases middle with
    | nil => exact absurd (List.cons.inj same).1.symm apart
    | cons head rest =>
      rw [List.cons_append, List.cons.injEq] at same
      simp [same.1] at before

/-- An event whose selector has a rule at first is written to the first rule of a candidate. -/
theorem exists_first (course : Course old new rules log after) (listed : entry ∈ log)
    (known : entry.1.selector ∈ rules.map Prod.fst) {goal : Text} (written : entry.2 = some goal) :
    goal ∈ entry.1.selectors ∧ ∃ more front back,
      rules.map Prod.fst ++ more = front ++ goal :: back ∧
        ∀ selector ∈ front, selector ∉ entry.1.selectors := by
  have self := (course.leads _ listed).self_mem
  obtain ⟨start, later, split⟩ := List.append_of_mem listed
  have run := course.run
  rw [split] at run
  obtain ⟨middle, _, early, move, _⟩ := run.split
  obtain ⟨more, kept⟩ := early.prefix_map_fst
  have present : entry.1.selector ∈ middle.map Prod.fst := kept ▸ List.mem_append_left _ known
  obtain ⟨rule, inside, same⟩ := List.mem_map.1 present
  rw [written] at move
  cases move with
  | exact front rule back parted named before =>
    refine ⟨named, more, front.map Prod.fst, back.map Prod.fst, ?_, fun selector held => ?_⟩
    · rw [kept, parted, List.map_append, List.map_cons]
    · obtain ⟨other, inside, rfl⟩ := List.mem_map.1 held
      exact before other inside
  | similar _ _ _ _ _ unnamed _ _ => exact absurd (same ▸ self) (unnamed rule inside)
  | created unnamed => exact absurd (same ▸ self) (unnamed rule inside)

/-- An event whose selector has a rule at first is written to no other selector, if the second
style is to come out: it goes to another candidate only when a rule of that one stands before,
and what would be written to its own rule has the same candidate. -/
theorem own_of_old (course : Course old new rules log after)
    (agrees : ∀ selector name, declared selector name after = new selector name)
    (listed : entry ∈ log) (known : entry.1.selector ∈ rules.map Prod.fst) {goal : Text}
    (written : entry.2 = some goal) : goal = entry.1.selector := by
  by_contra apart
  obtain ⟨candidate, more, front, back, whole, before⟩ := course.exists_first listed known written
  have unlisted : entry.1.selector ∉ front := fun held =>
    before _ held (course.leads _ listed).self_mem
  obtain ⟨rest, shape⟩ := exists_before known whole unlisted
  obtain ⟨other, held, taken⟩ := course.exists_written agrees listed
  have different : other.1.selector ≠ entry.1.selector := by
    intro same
    have equal := course.eq_of_selector_eq listed held same
    rw [equal, written, Option.some.injEq] at taken
    exact apart taken
  by_cases present : other.1.selector ∈ rules.map Prod.fst
  · obtain ⟨candidate', more', front', back', whole', before'⟩ :=
      course.exists_first held present taken
    rw [shape, List.append_assoc, List.cons_append] at whole'
    refine before' goal (mem_of_append_eq whole' unlisted apart) ?_
    rw [(course.leads _ listed).selectors_eq] at candidate
    rw [(course.leads _ held).selectors_eq] at candidate' ⊢
    exact Match.selectorsOf_trans candidate' candidate
  · exact different (course.own_of_new agrees held present taken).symm

/-- If the second style comes out, every event is written to a rule of its own selector. -/
theorem own_of_agree (course : Course old new rules log after)
    (agrees : ∀ selector name, declared selector name after = new selector name)
    (listed : entry ∈ log) : entry.2 = some entry.1.selector := by
  have own : ∀ other ∈ log, ∀ goal, other.2 = some goal → goal = other.1.selector := by
    intro other held goal written
    by_cases known : other.1.selector ∈ rules.map Prod.fst
    · exact course.own_of_old agrees held known written
    · exact course.own_of_new agrees held known written
  obtain ⟨other, held, taken⟩ := course.exists_written agrees listed
  have same := course.eq_of_selector_eq listed held (own other held _ taken).symm
  exact same ▸ taken

/-- The rules of a selector after its event was written to one of them: the first one has the
changes merged in, or there is a new one. -/
theorem ofSelector_of_own (course : Course old new rules log after)
    (own : ∀ entry ∈ log, entry.2 = some entry.1.selector) (listed : entry ∈ log) :
    (∃ rule rest, ofSelector entry.1.selector rules = rule :: rest ∧
      ofSelector entry.1.selector after =
        (entry.1.selector, entry.1.changes.applyTo rule.2) :: rest) ∨
    (ofSelector entry.1.selector rules = [] ∧
      ofSelector entry.1.selector after =
        [(entry.1.selector, entry.1.changes.applyTo .empty)]) := by
  obtain ⟨start, later, split⟩ := List.append_of_mem listed
  have distinct := course.distinct
  rw [split, List.map_append, List.map_cons, List.nodup_middle, List.nodup_cons] at distinct
  have others : ∀ other, other ∈ start ∨ other ∈ later → other.2 ≠ some entry.1.selector := by
    intro other held same
    have inside : other ∈ log := by
      rw [split]
      rcases held with held | held <;> simp [held]
    rw [own other inside, Option.some.injEq] at same
    refine distinct.1 (same ▸ ?_)
    rw [← List.map_append]
    exact List.mem_map.2 ⟨other, List.mem_append.2 held, rfl⟩
  have run := course.run
  rw [split] at run
  obtain ⟨middle, next, early, move, late⟩ := run.split
  rw [← early.ofSelector_eq fun other held => others other (.inl held),
    late.ofSelector_eq fun other held => others other (.inr held)]
  rw [own entry listed] at move
  exact move.ofSelector_self (course.leads _ listed).self_mem

/-- Changes merged into the first rule of a selector bring out the new value of a property exactly
when it does not differ, or no later rule declares it and the value is not the deletion mark. -/
theorem merged_eq_iff {event : Event} (leads : Diff.Leads old new event) {properties : Properties}
    {name : Text} {later : Option Text}
    (starts : later.or (properties.get? name) = old event.selector name) :
    later.or ((event.changes.applyTo properties).get? name) = new event.selector name ↔
      (old event.selector name ≠ new event.selector name →
        later = none ∧ new event.selector name ≠ some deletionMark) := by
  rw [Diff.get?_applyTo_of_change? leads.changes]
  by_cases same : old event.selector name = new event.selector name
  · rw [if_pos same, starts]
    exact ⟨fun _ differs => absurd same differs, fun _ => same⟩
  · rw [if_neg same]
    cases later with
    | none =>
      by_cases marked : new event.selector name = some deletionMark
      · simp only [marked] at same ⊢
        simp [same]
      · simp [same, marked]
    | some value =>
      rw [Option.some_or] at starts ⊢
      constructor
      · intro equal
        exact absurd (starts.symm.trans equal) same
      · intro kept
        exact absurd (kept same).1 (by simp)

/-- When every event is written to a rule of its own selector, the second style comes out exactly
for the properties that do not differ, and for those that no rule of the selector but its first
declares and whose new value is not the deletion mark. -/
theorem declared_eq_iff (course : Course old new rules log after)
    (own : ∀ entry ∈ log, entry.2 = some entry.1.selector) (selector name : Text) :
    declared selector name after = new selector name ↔
      (old selector name ≠ new selector name →
        declared selector name (ofSelector selector rules).tail = none ∧
          new selector name ≠ some deletionMark) := by
  by_cases known : ∃ entry ∈ log, entry.1.selector = selector
  · obtain ⟨entry, listed, rfl⟩ := known
    have leads := course.leads entry listed
    have starts := course.starts entry.1.selector name
    rw [← declared_ofSelector] at starts ⊢
    rcases course.ofSelector_of_own own listed with ⟨rule, rest, before, later⟩ | ⟨before, later⟩
    · have held : rule ∈ ofSelector entry.1.selector rules := before ▸ List.mem_cons_self
      have here : rule.1 = entry.1.selector := by simpa using (List.mem_filter.1 held).2
      rw [before, declared, if_pos here] at starts
      rw [before, later, declared, if_pos rfl]
      exact merged_eq_iff leads starts
    · rw [before] at starts
      rw [before, later, declared, if_pos rfl]
      exact merged_eq_iff leads starts
  · have same : old selector name = new selector name := by
      by_contra differs
      exact known (course.covers selector name differs)
    have unwritten := course.run.ofSelector_eq fun entry listed goal =>
      known ⟨entry, listed, Option.some.inj ((own entry listed).symm.trans goal)⟩
    rw [← declared_ofSelector, unwritten, declared_ofSelector, course.starts]
    simp [same]

/-- The properties that an event of a difference changes are those that differ. -/
theorem mem_keys_iff {event : Event} (leads : Diff.Leads old new event) (name : Text) :
    name ∈ event.changes.keys ↔ old event.selector name ≠ new event.selector name := by
  rw [← OrderedMap.contains_iff, OrderedMap.contains, leads.changes, Diff.change?]
  split <;> simp [*]

/-- The second style comes out exactly when every event is written to a rule of its own selector,
and every property that it changes is declared by no other rule of the selector than the first and
gets no value that is the deletion mark. -/
theorem agree_iff (course : Course old new rules log after) :
    (∀ selector name, declared selector name after = new selector name) ↔
      ∀ entry ∈ log, entry.2 = some entry.1.selector ∧ ∀ name ∈ entry.1.changes.keys,
        declared entry.1.selector name (ofSelector entry.1.selector rules).tail = none ∧
          new entry.1.selector name ≠ some deletionMark := by
  constructor
  · intro agrees entry listed
    have own : ∀ entry ∈ log, entry.2 = some entry.1.selector := fun entry listed =>
      course.own_of_agree agrees listed
    refine ⟨own entry listed, fun name changed => ?_⟩
    exact (course.declared_eq_iff own entry.1.selector name).1 (agrees _ _)
      ((mem_keys_iff (course.leads entry listed) name).1 changed)
  · intro kept selector name
    have own : ∀ entry ∈ log, entry.2 = some entry.1.selector := fun entry listed =>
      (kept entry listed).1
    refine (course.declared_eq_iff own selector name).2 fun differs => ?_
    obtain ⟨entry, listed, rfl⟩ := course.covers selector name differs
    exact (kept entry listed).2 name ((mem_keys_iff (course.leads entry listed) name).2 differs)

end Course

end Landing

end Restyle
