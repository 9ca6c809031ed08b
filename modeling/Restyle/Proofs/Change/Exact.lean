import Restyle.Proofs.Change.Wire

/-!
# A difference as a patch

For each selector the difference between two stylesheets holds the properties that differ, and no
changes that lead from the old properties to the new ones can do with fewer
(`contains_of_applyTo`). Merged into the old properties it gives the new ones: the one value that
it cannot bring about is the deletion mark, which is taken for a removal
(`applyTo_changesBetween_iff`). Main statement: `betweenSheets_exact`.
-/
namespace Restyle.Diff

variable {before after : Properties} {name : Text}

/-- A selector has changes exactly when some property of it differs. -/
theorem contains_betweenSheets_iff (old new selector : Text) :
    (betweenSheets old new).contains selector = true ↔
      ∃ name, (Sheet.propertiesOf (Sheet.bySelector old) selector).get? name ≠
        (Sheet.propertiesOf (Sheet.bySelector new) selector).get? name := by
  rw [OrderedMap.contains, Option.isSome_iff_exists]
  simp only [get?_betweenSheets_eq_some_iff, exists_eq_left]
  rw [Bool.eq_false_iff, Ne, isEmpty_changesBetween_iff, not_forall]

/-- The changes of a selector are those between its properties, also when there are none. -/
theorem getD_get?_betweenSheets (old new selector : Text) :
    ((betweenSheets old new).get? selector).getD .empty =
      changesBetween (Sheet.propertiesOf (Sheet.bySelector old) selector)
        (Sheet.propertiesOf (Sheet.bySelector new) selector) := by
  cases found : (betweenSheets old new).get? selector with
  | some changes => exact ((get?_betweenSheets_eq_some_iff old new selector changes).1 found).1
  | none =>
    generalize made : changesBetween _ _ = changes
    have none : changes.isEmpty = true := by
      rw [← Bool.not_eq_false]
      intro given
      have held := (get?_betweenSheets_eq_some_iff old new selector changes).2 ⟨made.symm, given⟩
      simp [found] at held
    exact OrderedMap.ext_entries (List.isEmpty_iff.1 none).symm

/-- Merged into the old properties, the changes between two sets of properties give the new ones
exactly when no new value is the deletion mark that was not one before. -/
theorem applyTo_changesBetween_iff (before after : Properties) :
    (∀ name, ((changesBetween before after).applyTo before).get? name = after.get? name) ↔
      ∀ name, after.get? name = some deletionMark → before.get? name = some deletionMark := by
  refine forall_congr' fun name => ?_
  rw [get?_applyTo_of_change? (get?_changesBetween before after)]
  by_cases same : before.get? name = after.get? name
  · rw [if_pos same, same]
    exact ⟨fun _ marked => marked, fun _ => rfl⟩
  · rw [if_neg same]
    by_cases marked : after.get? name = some deletionMark
    · rw [marked] at same ⊢
      simp [same]
    · simp [marked]

/-- Whatever changes lead from some properties to others, they name every property that
differs. -/
theorem contains_of_applyTo {other : Changes}
    (leads : ∀ name, (other.applyTo before).get? name = after.get? name)
    (changed : (changesBetween before after).contains name = true) :
    other.contains name = true := by
  rw [OrderedMap.contains, get?_changesBetween, change?] at changed
  rw [OrderedMap.contains, ← Option.ne_none_iff_isSome]
  intro unnamed
  have same := leads name
  rw [Changes.get?_applyTo, unnamed] at same
  simp [same] at changed

/-- The difference between two stylesheets is an exact patch. A selector is in it when some
property of it differs; its changes are those of the properties that differ, each stated by an
object of the old value, if any, and the new value or the deletion mark; merged into the old
properties they give the new ones, unless a new value is the deletion mark; and no changes that do
so name fewer properties. -/
theorem betweenSheets_exact (old new selector : Text) (room : Nat) :
    let before := Sheet.propertiesOf (Sheet.bySelector old) selector
    let after := Sheet.propertiesOf (Sheet.bySelector new) selector
    let changes := ((betweenSheets old new).get? selector).getD .empty
    ((betweenSheets old new).contains selector = true ↔
        ∃ name, before.get? name ≠ after.get? name) ∧
      (∀ name change, changes.get? name = some change ↔
        before.get? name ≠ after.get? name ∧
          change = ⟨some ((after.get? name).getD deletionMark), before.get? name⟩ ∧
          PropertyChange.ofJson room (Json.record [("from", Json.ofText? (before.get? name)),
            ("to", .string ((after.get? name).getD deletionMark))]) = .ok change) ∧
      ((∀ name, (changes.applyTo before).get? name = after.get? name) ↔
        ∀ name, after.get? name = some deletionMark → before.get? name = some deletionMark) ∧
      ∀ other : Changes, (∀ name, (other.applyTo before).get? name = after.get? name) →
        ∀ name, changes.contains name = true → other.contains name = true := by
  intro before after changes
  have made : changes = changesBetween before after := getD_get?_betweenSheets old new selector
  refine ⟨contains_betweenSheets_iff old new selector, fun name change => ?_, ?_, ?_⟩
  · rw [made, get?_changesBetween, change?, PropertyChange.ofJson_record]
    by_cases same : before.get? name = after.get? name
    · simp [same]
    · rw [if_neg same, Option.some.injEq, Except.ok.injEq]
      exact ⟨fun equal => ⟨same, equal.symm, equal⟩, fun stated => stated.2.2⟩
  · rw [made]
    exact applyTo_changesBetween_iff before after
  · intro other leads name
    rw [made]
    exact contains_of_applyTo leads

/-- A property on one side only is written or marked as removed; a selector that stays the same is
left out. -/
example : (betweenSheets "p{top:1px} q{top:0}".toText "q{top:0} p{left:2px}".toText).entries =
    [("p".toText, ⟨[("left".toText, ⟨some "2px".toText, none⟩),
      ("top".toText, ⟨some deletionMark, some "1px".toText⟩)], by simp⟩)] := by
  cbv

end Restyle.Diff
