import Mathlib.Data.List.Lex
import Mathlib.Data.List.Nodup
import Mathlib.Data.Prod.Lex
import Restyle.Proofs.Disk.Stylesheets

/-!
# The order of a listing

The stylesheets of a folder are listed in the order in which one goes through it: its own files
before those of its folders, files by their names and folders by theirs. Two trails are compared
where they part, so the order is a lexicographic one over steps that say whether they lead to a file
or through a folder (`listedBefore_iff`). Main statement: of two trails in a listing the earlier one
precedes the other, so none is listed twice (`pairwise_listing`).
-/
namespace Restyle

/-- A code point is known by its number. -/
theorem CodePoint.toNat_injective : Function.Injective CodePoint.toNat := by
  intro a b same
  cases a with
  | char c =>
    cases b with
    | char d => rw [Char.toNat_inj.1 same]
    | surrogate offset =>
      have valid := c.valid
      simp only [toNat, Char.toNat] at same
      rw [UInt32.isValidChar, Nat.isValidChar] at valid
      omega
  | surrogate offset =>
    cases b with
    | char d =>
      have valid := d.valid
      simp only [toNat, Char.toNat] at same
      rw [UInt32.isValidChar, Nat.isValidChar] at valid
      omega
    | surrogate other =>
      simp only [toNat] at same
      rw [Fin.ext (by omega : offset.val = other.val)]

/-- Code points are ordered by their numbers. -/
instance : LinearOrder CodePoint := LinearOrder.lift' CodePoint.toNat CodePoint.toNat_injective

/-- Texts are ordered by their code points. -/
theorem Text.le_iff (first second : Text) : Text.le first second = true ↔ first ≤ second := by
  fun_induction Text.le first second with
  | case1 => simp [← not_lt]
  | case2 => simp [← not_lt]
  | case3 rest c rest' ih =>
    rw [ih, ← not_lt, ← not_lt, List.cons_lt_cons_iff]
    simp
  | case4 c rest d rest' other =>
    have apart : c.toNat ≠ d.toNat := fun same => other (CodePoint.toNat_injective same)
    rw [← not_lt, List.cons_lt_cons_iff, decide_eq_true_iff]
    simp only [Ne.symm other, false_and, or_false, not_lt, CodePoint.le_iff]
    omega

namespace Disk

/-- One file of a folder precedes another one, by their trails from the folder: where they part,
files come before folders, and both are ordered by their names. -/
inductive Precedes : Trail → Trail → Prop where
  /-- Two files of one folder. -/
  | files (way : Trail) {name other : Text} (before : name < other) :
    Precedes (way ++ [name]) (way ++ [other])
  /-- A file of a folder, and one in a folder of that folder. -/
  | own (way : Trail) (name folder : Text) {below : Trail} (deeper : below ≠ []) :
    Precedes (way ++ [name]) (way ++ folder :: below)
  /-- Files in two folders of one folder. -/
  | folders (way : Trail) {folder other : Text} (before : folder < other) {below below' : Trail}
    (deeper : below ≠ []) (deeper' : below' ≠ []) :
    Precedes (way ++ folder :: below) (way ++ other :: below')

variable {disk : Disk} {skipped : List Text} {folder : Trail}

/-- The steps of a trail: whether each one leads through a folder, and its name. -/
def steps : Trail → List (Bool ×ₗ Text)
  | [] => []
  | [name] => [toLex (false, name)]
  | name :: next :: rest => toLex (true, name) :: steps (next :: rest)

/-- Lists with the same first item are ordered by what follows. -/
theorem cons_le_cons_self {α : Type} [LinearOrder α] (first : α) (rest rest' : List α) :
    first :: rest ≤ first :: rest' ↔ rest ≤ rest' := by
  rw [← not_lt, ← not_lt, List.cons_lt_cons_iff]
  simp

/-- Lists with different first items are ordered by these. -/
theorem cons_le_cons_of_ne {α : Type} [LinearOrder α] {first second : α} (apart : first ≠ second)
    (rest rest' : List α) : first :: rest ≤ second :: rest' ↔ first < second := by
  rw [← not_lt, List.cons_lt_cons_iff]
  simp only [apart.symm, false_and, or_false, not_lt]
  exact ⟨fun below => lt_of_le_of_ne below apart, le_of_lt⟩

/-- A step that others follow leads through a folder. -/
theorem steps_cons {rest : Trail} (deeper : rest ≠ []) (name : Text) :
    steps (name :: rest) = toLex (true, name) :: steps rest := by
  cases rest with
  | nil => exact absurd rfl deeper
  | cons next rest => rw [steps]

/-- Of two trails past their first names of which not one alone ends there, and not both, none does:
what is left for the last case of `listedBefore`. -/
theorem deeper_of_left {rest rest' : Trail} (both : rest = [] → rest' = [] → False)
    (first : ∀ name more, rest = [] → rest' = name :: more → False)
    (second : ∀ name more, rest = name :: more → rest' = [] → False) : rest ≠ [] ∧ rest' ≠ [] := by
  cases rest with
  | nil =>
    cases rest' with
    | nil => exact absurd (both rfl rfl) id
    | cons name more => exact absurd (first name more rfl rfl) id
  | cons name more =>
    cases rest' with
    | nil => exact absurd (second name more rfl rfl) id
    | cons other more' => simp

/-- A file is listed no later than another one when its steps come no later. -/
theorem listedBefore_iff (first second : Trail) :
    listedBefore first second = true ↔ steps first ≤ steps second := by
  fun_induction listedBefore first second with
  | case1 => simp [steps, ← not_lt]
  | case2 name rest =>
    cases rest <;> simp [steps, ← not_lt]
  | case3 name other =>
    rw [Text.le_iff, steps, steps]
    by_cases same : name = other
    · simp [same]
    · rw [cons_le_cons_of_ne (by simp [same]), Prod.Lex.toLex_lt_toLex, le_iff_lt_or_eq]
      simp [same]
  | case4 name folder next rest =>
    rw [steps, steps, cons_le_cons_of_ne (by simp), Prod.Lex.toLex_lt_toLex]
    simp
  | case5 folder next rest name =>
    rw [steps, steps, cons_le_cons_of_ne (by simp), Prod.Lex.toLex_lt_toLex]
    simp
  | case6 rest folder rest' both alone alone' ih =>
    obtain ⟨deeper, deeper'⟩ := deeper_of_left both alone alone'
    rw [ih, steps_cons deeper, steps_cons deeper', cons_le_cons_self]
  | case7 folder rest other rest' both alone alone' apart =>
    obtain ⟨deeper, deeper'⟩ := deeper_of_left both alone alone'
    rw [steps_cons deeper, steps_cons deeper', cons_le_cons_of_ne (by simp [apart]),
      Prod.Lex.toLex_lt_toLex, Text.le_iff, le_iff_lt_or_eq]
    simp [apart]

/-- Two trails that go on behind the same folder are ordered as they go on. -/
theorem Precedes.cons {first second : Trail} (before : Precedes first second) (folder : Text) :
    Precedes (folder :: first) (folder :: second) := by
  cases before with
  | files way before => exact .files (folder :: way) before
  | own way name folder' deeper => exact .own (folder :: way) name folder' deeper
  | folders way before deeper deeper' => exact .folders (folder :: way) before deeper deeper'

/-- Of two different files the one that is listed no later precedes the other. -/
theorem precedes_of_listedBefore {first second : Trail} (some : first ≠ []) (apart : first ≠ second)
    (listed : listedBefore first second = true) : Precedes first second := by
  have strict : ∀ {name other : Text}, name ≠ other → Text.le name other = true → name < other :=
    fun other below => lt_of_le_of_ne ((Text.le_iff _ _).1 below) other
  fun_induction listedBefore first second with
  | case1 => exact absurd rfl some
  | case2 => simp at listed
  | case3 name other =>
    exact .files [] (strict (by simpa using apart) listed)
  | case4 name folder next rest => exact .own [] name folder (by simp)
  | case5 => simp at listed
  | case6 rest folder rest' both alone alone' ih =>
    have deeper := (deeper_of_left both alone alone').1
    exact (ih deeper (by simpa using apart) listed).cons folder
  | case7 folder rest other rest' both alone alone' different =>
    obtain ⟨deeper, deeper'⟩ := deeper_of_left both alone alone'
    exact .folders [] (strict different listed) deeper deeper'

/-- No file is listed twice. -/
theorem nodup_listing (disk : Disk) (skipped : List Text) (folder : Trail) :
    (disk.listing skipped folder).Nodup := by
  have trails : disk.leaves.Nodup :=
    (List.filter_sublist.map Prod.fst).nodup disk.nodes.distinct
  have below : (disk.leaves.filterMap (below? folder)).Nodup :=
    trails.filterMap (f := below? folder) fun full full' trail here there => by
      rw [Option.mem_def, below?_eq_some_iff] at here there
      rw [here, there]
  rw [listing, List.Perm.nodup_iff (List.mergeSort_perm _ _)]
  exact below.filter _

/-- Of two trails in a listing the earlier one precedes the other. -/
theorem pairwise_listing (disk : Disk) (skipped : List Text) (folder : Trail) :
    (disk.listing skipped folder).Pairwise Precedes := by
  have sorted : (disk.listing skipped folder).Pairwise fun first second =>
      listedBefore first second = true := by
    refine List.pairwise_mergeSort ?_ ?_ _
    · simp only [listedBefore_iff]
      exact fun _ _ _ => le_trans
    · simp only [Bool.or_eq_true, listedBefore_iff]
      exact fun _ _ => le_total _ _
  refine (sorted.and (disk.nodup_listing skipped folder)).imp_of_mem ?_
  rintro first second held _ ⟨listed, apart⟩
  have some := ne_nil_of_isListed ((mem_listing_iff disk skipped folder first).1 held).2.1
  exact precedes_of_listedBefore some apart listed

end Disk

end Restyle
