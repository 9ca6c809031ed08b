import Restyle.Proofs.Change.Property
import Restyle.Proofs.Service.Patch
import Restyle.Proofs.Sheet.Splice

/-!
# Projects as lists of rules

A project, seen without its texts, is the list of its stylesheets with the selector and the
properties of each rule in order. An event revises the properties of the rule that matches it, or
extends a stylesheet by a rule. The stylesheets of an index are such a project, and a match among
their rules is a match in the project, at the same number (`match?_rel`).
-/
namespace Restyle

/-- The rules of each stylesheet, by selector and properties, in order. -/
abbrev Project := List (Text × List (Text × Properties))

namespace Project

variable {front back : Project} {path : Text} {rules : List (Text × Properties)} {event : Event}

/-- The rules of a project in order, each with the path of its stylesheet. -/
def listed (project : Project) : List (Text × Text × Properties) :=
  project.flatMap fun file => file.2.map fun rule => (file.1, rule)

/-- A rule of a stylesheet to be matched; its span tells its number. -/
def place (path : Text) (n : Nat) (rule : Text × Properties) : Text × Rule :=
  (path, ⟨rule.1, rule.2, n, n + 1, Int.lt_succ n⟩)

/-- The rules of a project to be matched. -/
def numbered (project : Project) : List (Text × Rule) :=
  project.listed.mapIdx fun n rule => place rule.1 n rule.2

/-- The rule that an event matches. -/
def match? (weights : Weights) (event : Event) (project : Project) : Option Match.Found :=
  Match.best? weights (Match.candidates event) event.classes project.numbered

/-- A project with changes merged into the properties of the rule of a number. -/
def revise (n : Nat) (changes : Changes) : Project → Project
  | [] => []
  | (path, rules) :: rest =>
    if n < rules.length then
      (path, rules.modify n fun rule => (rule.1, changes.applyTo rule.2)) :: rest
    else (path, rules) :: revise (n - rules.length) changes rest

/-- A project with a rule added to a stylesheet as its last one; a new stylesheet comes last. -/
def extend (path : Text) (rule : Text × Properties) : Project → Project
  | [] => [(path, [rule])]
  | (known, rules) :: rest =>
    if known = path then (known, rules ++ [rule]) :: rest
    else (known, rules) :: extend path rule rest

/-- A project with no rules in a stylesheet; a new stylesheet comes last. -/
def blank (path : Text) : Project → Project
  | [] => [(path, [])]
  | (known, rules) :: rest =>
    if known = path then (known, []) :: rest else (known, rules) :: blank path rest

/-- The block that an event writes: that of its match with the changes merged in, or that of a
new rule for its first candidate with the changes that are not deletions. -/
def block (weights : Weights) (event : Event) (project : Project) : Text × Properties :=
  match project.match? weights event with
  | some found => (found.rule.selector, event.changes.applyTo found.rule.properties)
  | none => (event.newSelector, event.changes.kept)

/-- The stylesheet that an event goes to: that of its match, or the one that new rules go to. -/
def goal (weights : Weights) (event : Event) (target : Text) (project : Project) : Text :=
  match project.match? weights event with
  | some found => found.file
  | none => target

/-- The block for a match goes by the match. -/
theorem block_of_match? {weights : Weights} {project : Project} {found : Match.Found}
    (matched : project.match? weights event = some found) : project.block weights event =
      (found.rule.selector, event.changes.applyTo found.rule.properties) := by
  rw [block, matched]

/-- The block for no match goes by the event. -/
theorem block_of_unmatched {weights : Weights} {project : Project}
    (unmatched : project.match? weights event = none) :
    project.block weights event = (event.newSelector, event.changes.kept) := by
  rw [block, unmatched]

/-- A match is a rule of one of the stylesheets. -/
theorem exists_of_match? {weights : Weights} {project : Project} {found : Match.Found}
    (matched : project.match? weights event = some found) :
    ∃ file ∈ project, found.file = file.1 ∧ found.rule.statement ∈ file.2 := by
  obtain ⟨n, bound, same⟩ := List.mem_mapIdx.1 (Match.best?_mem matched)
  obtain ⟨file, held, inside⟩ := List.mem_flatMap.1 (List.getElem_mem bound)
  obtain ⟨rule, stated, alike⟩ := List.mem_map.1 inside
  rw [← alike] at same
  obtain ⟨path, placed⟩ := Prod.mk.inj same
  exact ⟨file, held, path.symm, by rw [← placed]; exact stated⟩

/-- A project after an event, when a new rule goes to the stylesheet at a path. -/
def step (weights : Weights) (event : Event) (target : Text) (project : Project) : Project :=
  match project.match? weights event with
  | some found => project.revise found.rule.start.toNat event.changes
  | none => project.extend target (event.newSelector, event.changes.kept)

/-- A revision finds its rule behind the rules of the stylesheets before. -/
theorem revise_append {j : Nat} (bound : j < rules.length) (changes : Changes) :
    (front ++ (path, rules) :: back).revise (front.listed.length + j) changes =
      front ++ (path, rules.modify j fun rule => (rule.1, changes.applyTo rule.2)) :: back := by
  induction front with
  | nil => simp [revise, listed, bound]
  | cons file rest ih =>
    obtain ⟨known, others⟩ := file
    have size : listed ((known, others) :: rest) =
        others.map (fun rule => (known, rule)) ++ listed rest := rfl
    have past : ¬ others.length + (listed rest).length + j < others.length := by omega
    have left : others.length + (listed rest).length + j - others.length =
        (listed rest).length + j := by omega
    rw [List.cons_append, revise, size, List.length_append, List.length_map, if_neg past, left, ih,
      List.cons_append]

/-- An extension finds its stylesheet behind those with other paths. -/
theorem extend_append (new : path ∉ front.map Prod.fst) (rule : Text × Properties) :
    (front ++ (path, rules) :: back).extend path rule =
      front ++ (path, rules ++ [rule]) :: back := by
  induction front with
  | nil => simp [extend]
  | cons file rest ih =>
    obtain ⟨known, others⟩ := file
    rw [List.map_cons, List.mem_cons, not_or] at new
    have other : ¬ known = path := fun same => new.1 same.symm
    rw [List.cons_append, extend, if_neg other, ih new.2, List.cons_append]

/-- A stylesheet loses its rules behind those with other paths. -/
theorem blank_append (new : path ∉ front.map Prod.fst) :
    (front ++ (path, rules) :: back).blank path = front ++ (path, []) :: back := by
  induction front with
  | nil => simp [blank]
  | cons file rest ih =>
    obtain ⟨known, others⟩ := file
    rw [List.map_cons, List.mem_cons, not_or] at new
    have other : ¬ known = path := fun same => new.1 same.symm
    rw [List.cons_append, blank, if_neg other, ih new.2, List.cons_append]

/-- Writing changes into the block of a rule merges them into its properties. -/
theorem map_statement_splice {text : Text} {i : Nat} {rule : Rule} {changes : Changes}
    (found : (Sheet.rules text)[i]? = some rule)
    (fits : Rule.Representable rule.selector (changes.applyTo rule.properties)) :
    (Sheet.rules (Workspace.splice text rule
        (Rule.write rule.selector (changes.applyTo rule.properties)))).map Rule.statement =
      ((Sheet.rules text).map Rule.statement).modify i
        fun rule => (rule.1, changes.applyTo rule.2) := by
  obtain ⟨bound, here⟩ := List.getElem?_eq_some_iff.1 found
  rw [Sheet.rules_replace found fits, List.map_append, List.map_cons, List.map_map,
    Rule.statement_comp_shift, List.modify_eq_take_cons_drop (by simpa using bound), List.map_take,
    List.map_drop, List.getElem_map, here]
  rfl

/-- Appending a block adds a rule. -/
theorem map_statement_appendix {text selector : Text} {changes : Changes}
    (closed : Sheet.Closed text) (fits : Rule.Representable selector changes.kept) :
    (Sheet.rules (text ++ Workspace.appendix selector changes)).map Rule.statement =
      (Sheet.rules text).map Rule.statement ++ [(selector, changes.kept)] := by
  rw [Workspace.appendix, Changes.applyTo_empty, Sheet.rules_append_block closed fits,
    List.map_append]
  rfl

/-- The project that entries of an index are. -/
def ofEntries (entries : List (Text × Entry)) : Project :=
  entries.map fun item => (item.1, item.2.rules.map Rule.statement)

/-- The rules of entries in order, each with the path of its stylesheet. -/
def space (entries : List (Text × Entry)) : List (Text × Rule) :=
  entries.flatMap fun item => item.2.rules.map fun rule => (item.1, rule)

/-- The rules of the project of entries are theirs. -/
theorem listed_ofEntries (entries : List (Text × Entry)) :
    (ofEntries entries).listed = (space entries).map fun place => (place.1, place.2.statement) := by
  simp only [listed, ofEntries, space, List.flatMap_map, List.map_flatMap, List.map_map]
  rfl

/-- A rule of a number stands in one of the entries, behind the rules of those before. -/
theorem exists_of_getElem?_space {entries : List (Text × Entry)} {n : Nat} {path : Text}
    {rule : Rule} (found : (space entries)[n]? = some (path, rule)) :
    ∃ front entry back j, entries = front ++ (path, entry) :: back ∧
      entry.rules[j]? = some rule ∧ n = (space front).length + j := by
  induction entries generalizing n with
  | nil => simp [space] at found
  | cons item rest ih =>
    obtain ⟨known, entry⟩ := item
    have split : space ((known, entry) :: rest) =
        entry.rules.map (fun rule => (known, rule)) ++ space rest := rfl
    rw [split] at found
    by_cases here : n < entry.rules.length
    · rw [List.getElem?_append_left (by simpa using here), List.getElem?_map,
        Option.map_eq_some_iff] at found
      obtain ⟨_, held, same⟩ := found
      obtain ⟨rfl, rfl⟩ := Prod.mk.inj same
      exact ⟨[], entry, rest, n, rfl, held, by simp [space]⟩
    · rw [List.getElem?_append_right (by simpa using here), List.length_map] at found
      obtain ⟨front, other, back, j, rfl, held, place⟩ := ih found
      refine ⟨(known, entry) :: front, other, back, j, rfl, held, ?_⟩
      have size : space ((known, entry) :: front) =
          entry.rules.map (fun rule => (known, rule)) ++ space front := rfl
      rw [size, List.length_append, List.length_map]
      omega

/-- A rule of entries and the rule of its number in their project. -/
def SameRule (entries : List (Text × Entry)) (place numbered : Text × Rule) : Prop :=
  ∃ n : Nat, (space entries)[n]? = some place ∧ numbered.1 = place.1 ∧
    numbered.2.statement = place.2.statement ∧ numbered.2.start = n

/-- The rules of entries and those of their project are the same in order. -/
theorem forall₂_sameRule (entries : List (Text × Entry)) :
    List.Forall₂ (SameRule entries) (space entries) (ofEntries entries).numbered := by
  rw [List.forall₂_iff_get]
  have size : (ofEntries entries).numbered.length = (space entries).length := by
    rw [numbered, List.length_mapIdx, listed_ofEntries, List.length_map]
  refine ⟨size.symm, fun n bound bound' => ?_⟩
  refine ⟨n, List.getElem?_eq_getElem bound, ?_⟩
  simp only [List.get_eq_getElem, numbered, List.getElem_mapIdx, listed_ofEntries,
    List.getElem_map, Rule.statement, place, and_self]

/-- A match among the rules of entries is the match in their project, at its number. -/
theorem match?_rel (weights : Weights) (event : Event) (entries : List (Text × Entry)) :
    Option.Rel (fun found found' => SameRule entries found.spot found'.spot)
      (Match.best? weights (Match.candidates event) event.classes (space entries))
      ((ofEntries entries).match? weights event) := by
  refine Match.best?_rel (fun place place' related => ?_) (forall₂_sameRule entries) weights _ _
  obtain ⟨n, _, _, same, _⟩ := related
  exact (congrArg Prod.fst same).symm

end Project

end Restyle
