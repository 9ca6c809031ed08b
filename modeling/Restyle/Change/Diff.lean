import Restyle.Change.Event
import Restyle.Change.Pixels
import Restyle.Match.Classes
import Restyle.Sheet.Scan

/-!
# Differences

Two versions of a style become the changes that lead from the one to the other. Between two
stylesheets a property that the new version lacks is marked as removed. Between two snapshots of
one element only properties with a value on both sides are compared, and pixel jitter does not
count.
-/
namespace Restyle.Diff

/-- The changes from one set of properties to another: changed and new properties in the new
order, then removed ones in the old order. -/
def changesBetween (old new : Properties) : Changes :=
  let written := new.entries.filterMap fun entry =>
    if old.get? entry.1 = some entry.2 then none
    else some (entry.1, (⟨some entry.2, old.get? entry.1⟩ : PropertyChange))
  let removed := old.entries.filterMap fun entry =>
    if new.contains entry.1 then none
    else some (entry.1, (⟨some deletionMark, some entry.2⟩ : PropertyChange))
  .ofList (written ++ removed)

/-- The changes from one stylesheet to another, by selector: those of the new version in its
order, then those that only the old one has. Selectors without changes are left out. -/
def betweenSheets (old new : Text) : OrderedMap Text Changes :=
  let before := Sheet.bySelector old
  let after := Sheet.bySelector new
  let kept := after.entries.map fun entry =>
    (entry.1, changesBetween ((before.get? entry.1).getD .empty) entry.2)
  let gone := (before.keepKeys (!after.contains ·)).entries.map fun entry =>
    (entry.1, changesBetween entry.2 .empty)
  .ofList ((kept ++ gone).filter fun entry => !entry.2.isEmpty)

/-- One event for each selector that differs between two stylesheets. -/
def events (old new : Text) : List Event :=
  (betweenSheets old new).entries.map fun entry =>
    { selector := entry.1, changes := entry.2, classes := Match.classesOf entry.1 }

/-- The changes from one snapshot of an element to another. -/
def betweenSnapshots (old new : Properties) (distance : Float) : Changes :=
  .ofList (new.entries.filterMap fun entry =>
    match old.get? entry.1 with
    | none => none
    | some before =>
      if before = entry.2 || before.isEmpty || entry.2.isEmpty then none
      else if Pixels.isSignificant before entry.2 distance then
        some (entry.1, (⟨some entry.2, some before⟩ : PropertyChange))
      else none)

end Restyle.Diff
