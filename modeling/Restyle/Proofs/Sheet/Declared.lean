import Restyle.Proofs.OrderedMap
import Restyle.Proofs.Sheet.Block

/-!
# What a stylesheet declares

Of the rules of a selector the last one that declares a property gives its value (`declared`). So
it is in the properties of a stylesheet by selector (`styleOf_eq`).
-/
namespace Restyle.Sheet

variable {selector other name : Text} {properties : Properties}

/-- The properties of a selector, none when it is left out. -/
def propertiesOf (sheet : OrderedMap Text Properties) (selector : Text) : Properties :=
  (sheet.get? selector).getD .empty

/-- The value that a stylesheet gives a property of a selector, with all its rules put together. -/
def styleOf (text selector name : Text) : Option Text :=
  (propertiesOf (bySelector text) selector).get? name

/-- The value that the last of the rules of a selector that declare a property gives it. -/
def declared (selector name : Text) : List (Text × Properties) → Option Text
  | [] => none
  | rule :: rest =>
    (declared selector name rest).or (if rule.1 = selector then rule.2.get? name else none)

/-- Rules of other selectors declare nothing for a selector. -/
theorem declared_eq_none {rules : List (Text × Properties)}
    (others : ∀ rule ∈ rules, rule.1 ≠ selector) (name : Text) :
    declared selector name rules = none := by
  induction rules with
  | nil => rfl
  | cons rule rest ih =>
    rw [declared, ih fun other listed => others other (by simp [listed]),
      if_neg (others rule (by simp)), Option.or_none]

/-- A property that rules declare is declared by one of them. -/
theorem exists_of_declared {rules : List (Text × Properties)} {value : Text}
    (given : declared selector name rules = some value) :
    ∃ rule ∈ rules, rule.1 = selector ∧ rule.2.get? name = some value := by
  induction rules with
  | nil => simp [declared] at given
  | cons rule rest ih =>
    rw [declared, Option.or_eq_some_iff] at given
    rcases given with later | ⟨_, here⟩
    · obtain ⟨other, listed, stated⟩ := ih later
      exact ⟨other, List.mem_cons_of_mem _ listed, stated⟩
    · split at here
      · rename_i same
        exact ⟨rule, by simp, same, here⟩
      · simp at here

/-- The rules put together by selector give every property its last declared value. -/
theorem get?_foldl_merged (rules : List Rule) (merged : OrderedMap Text Properties)
    (selector name : Text) :
    (propertiesOf
      (rules.foldl
        (fun merged rule =>
          if rule.properties.isEmpty then merged
          else
            let known := (merged.get? rule.selector).getD .empty
            merged.insert rule.selector (known.insertAll rule.properties.entries))
        merged) selector).get? name =
      (declared selector name (rules.map Rule.statement)).or
        ((propertiesOf merged selector).get? name) := by
  induction rules generalizing merged with
  | nil => rfl
  | cons rule rest ih =>
    rw [List.foldl_cons, ih, List.map_cons, declared, Option.or_assoc]
    congr 1
    simp only [Rule.statement, propertiesOf]
    split
    · rename_i empty
      have none : rule.properties.get? name = none := rule.properties.isEmpty_iff.1 empty name
      simp [none]
    · rw [OrderedMap.get?_insert]
      by_cases same : selector = rule.selector
      · subst same
        simp only [if_true, Option.getD_some]
        rw [OrderedMap.get?_insertAll rule.properties.distinct]
        rfl
      · have apart : ¬ rule.selector = selector := fun equal => same equal.symm
        simp [same, apart]

/-- The properties of a stylesheet by selector are those that its rules declare last. -/
theorem styleOf_eq (text selector name : Text) :
    styleOf text selector name = declared selector name ((rules text).map Rule.statement) := by
  rw [styleOf, bySelector, get?_foldl_merged]
  simp [propertiesOf]

end Restyle.Sheet
