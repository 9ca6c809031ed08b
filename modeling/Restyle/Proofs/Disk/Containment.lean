import Restyle.Proofs.Disk.Path

/-!
# Containment of paths

Whether a path lies below a root is asked of their texts. Main statement: for absolute forms with a
single separator at the front it is the same as whether the names of the root are where the names of
the path begin (`isUnder_components`). So containment is an order with the top of the disk as its
root, and folders that stand side by side have no path in common.
-/
namespace Restyle.Path

/-- An absolute form with a single separator at its front. -/
structure Location where
  /-- The path. -/
  text : Text
  /-- It is in normal form. -/
  normal : Normal text
  /-- Two separators at the front would be kept, and make another path. -/
  single : leading text = [.char '/']

namespace Location

variable {path middle root first second : Location}

/-- The location of a path, unless its absolute form has two separators at the front. -/
def ofAbsolute (place : Place) (given : Text)
    (single : leading (absolute place given) = [.char '/']) :
    Location :=
  ⟨absolute place given, normal_absolute place given, single⟩

/-- The texts of locations are the absolute forms with a single separator at the front. -/
theorem exists_text_eq_iff (place : Place) (text : Text) :
    (∃ location : Location, location.text = text) ↔
      leading text = [.char '/'] ∧ ∃ given, absolute place given = text := by
  constructor
  · rintro ⟨location, rfl⟩
    exact ⟨location.single, location.text, location.normal.absolute_eq place⟩
  · rintro ⟨single, given, rfl⟩
    exact ⟨ofAbsolute place given single, rfl⟩

/-- Locations with the same names are the same. -/
theorem ext_names (same : names first.text = names second.text) : first = second := by
  have lead : leading first.text = leading second.text := first.single.trans second.single.symm
  have text := first.normal.eq_of_names_eq second.normal lead same
  cases first
  cases second
  simp only at text
  subst text
  rfl

/-- The top of the disk. -/
def top : Location := ⟨[.char '/'], by decide, rfl⟩

/-- Two locations are those of different names in one folder. -/
def Siblings (first second : Location) : Prop :=
  ∃ folder name other, names first.text = folder ++ [name] ∧
    names second.text = folder ++ [other] ∧ name ≠ other

/-- A location lies below the one whose names its own begin with. -/
theorem isUnder_of_prefix (begins : names root.text <+: names path.text) :
    isUnder path.text root.text = true := by
  obtain ⟨trail, whole⟩ := begins
  by_cases none : trail = []
  · have same : path = root := ext_names (by rw [← whole, none, List.append_nil])
    rw [same, isUnder, beq_self_eq_true, Bool.true_or]
  · have proper : ∀ name ∈ trail, IsName name := by
      intro name listed
      exact path.normal.2 name (by rw [← whole]; exact List.mem_append_right _ listed)
    have appended : path.text = Path.append root.text (Text.join ['/'] trail) := by
      rw [root.normal.append_eq none proper, whole, root.single]
      conv_lhs => rw [path.normal.1, path.single]
    rw [appended]
    exact root.normal.isUnder_append none proper

/-- A location lies below another exactly when its names begin with those of the other. -/
theorem isUnder_iff_names :
    isUnder path.text root.text = true ↔ names root.text <+: names path.text :=
  ⟨root.normal.prefix_of_isUnder, isUnder_of_prefix⟩

/-- Of two locations that contain a common one, that with no more names contains the other. -/
theorem prefix_of_common (below : isUnder path.text first.text = true)
    (below' : isUnder path.text second.text = true)
    (shorter : (names first.text).length ≤ (names second.text).length) :
    names first.text <+: names second.text :=
  List.prefix_of_prefix_length_le (isUnder_iff_names.1 below) (isUnder_iff_names.1 below')
    shorter

/-- Different names in one folder contain no common location. -/
theorem Siblings.disjoint (siblings : Siblings first second) :
    ¬ (isUnder path.text first.text = true ∧ isUnder path.text second.text = true) := by
  rintro ⟨below, below'⟩
  obtain ⟨folder, name, other, named, named', apart⟩ := siblings
  have sizes : (names first.text).length = (names second.text).length := by
    rw [named, named', List.length_append, List.length_append]
    rfl
  have same := (prefix_of_common below below' (Nat.le_of_eq sizes)).eq_of_length sizes
  rw [named, named'] at same
  have last := (List.append_inj' same rfl).2
  exact apart (List.cons.inj last).1

end Location

/-- A location, which is what an absolute form with a single separator at its front is, lies below
another exactly when the names of the other are the first of its own. Hence containment is
reflexive, transitive and antisymmetric, all locations lie below the top of the disk, and none lies
below two folders that stand side by side, whatever their names. -/
theorem isUnder_components :
    (∀ place text, (∃ location : Location, location.text = text) ↔
      leading text = [.char '/'] ∧ ∃ given, absolute place given = text) ∧
    (∀ path root : Location,
      isUnder path.text root.text = true ↔ names root.text <+: names path.text) ∧
    (∀ path : Location, isUnder path.text path.text = true) ∧
    (∀ path middle root : Location, isUnder path.text middle.text = true →
      isUnder middle.text root.text = true → isUnder path.text root.text = true) ∧
    (∀ path root : Location, isUnder path.text root.text = true →
      isUnder root.text path.text = true → path = root) ∧
    (∀ path : Location, isUnder path.text Location.top.text = true) ∧
    ∀ first second : Location, first.Siblings second → ∀ path : Location,
      ¬ (isUnder path.text first.text = true ∧ isUnder path.text second.text = true) := by
  refine ⟨Location.exists_text_eq_iff, fun path root => Location.isUnder_iff_names, fun path => ?_,
    ?_, ?_, fun path => ?_, fun first second siblings path => siblings.disjoint⟩
  · exact Location.isUnder_of_prefix List.prefix_rfl
  · intro path middle root below above
    apply Location.isUnder_of_prefix
    exact (Location.isUnder_iff_names.1 above).trans (Location.isUnder_iff_names.1 below)
  · intro path root below above
    have one := Location.isUnder_iff_names.1 below
    have two := Location.isUnder_iff_names.1 above
    have sizes := Nat.le_antisymm two.length_le one.length_le
    exact Location.ext_names (two.eq_of_length sizes)
  · apply Location.isUnder_of_prefix
    exact List.nil_prefix

/-- A stylesheet below a folder does not lie below the folder beside it whose name is the front of
the other's. -/
theorem isUnder_components_siblings :
    let place : Place := ⟨"/p".toText, "/h".toText, [], {}⟩
    let first := Location.ofAbsolute place "./btn//".toText (by decide)
    let second := Location.ofAbsolute place "/p/x/../btn-primary".toText (by decide)
    let path := Location.ofAbsolute place "btn-primary/a.css".toText (by decide)
    first.Siblings second ∧ first.text <+: second.text ∧
      isUnder path.text second.text = true ∧ isUnder path.text first.text = false := by
  intro place first second path
  have siblings : first.Siblings second :=
    ⟨["p".toText], "btn".toText, "btn-primary".toText, by decide, by decide, by decide⟩
  have below : isUnder path.text second.text = true := by
    apply (isUnder_components.2.1 path second).2
    decide
  have apart := isUnder_components.2.2.2.2.2.2 first second siblings path
  refine ⟨siblings, by decide, below, ?_⟩
  rw [← Bool.not_eq_true]
  exact fun above => apart ⟨above, below⟩

end Restyle.Path
