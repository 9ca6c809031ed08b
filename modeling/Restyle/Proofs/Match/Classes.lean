import Mathlib.Data.List.TakeWhile
import Restyle.Match.Classes
import Restyle.Text.Class

/-!
# Class names of selectors

The class names of a selector hold no point and nothing that parts a selector, so a selector that
is put together from them has just these classes (`classesOf_flatMap`,
`classesOf_append`), and the classes of a selector are each listed once (`nodup_classesOf`).
-/
namespace Restyle

/-- A code point that ranges hold lies in one of them. -/
theorem Text.Ranges.exists_of_holds {ranges : Text.Ranges} {code : Nat}
    (held : ranges.holds code = true) : ∃ range ∈ ranges, range.1 ≤ code ∧ code ≤ range.2 := by
  induction ranges with
  | nil => simp [Text.Ranges.holds] at held
  | cons range rest ih =>
    obtain ⟨first, last⟩ := range
    rw [Text.Ranges.holds] at held
    split at held
    · simp at held
    · split at held
      · exact ⟨(first, last), by simp, by omega, by omega⟩
      · obtain ⟨range, listed, inside⟩ := ih held
        exact ⟨range, by simp [listed], inside⟩

/-- A blank is no word character. -/
theorem Text.isWord_of_isBlank {c : CodePoint} (blank : Text.isBlank c = true) :
    Text.isWord c = false := by
  have apart : ∀ range ∈ Text.blankRanges, ∀ code ∈ List.range' range.1 (range.2 + 1 - range.1),
      Text.wordRanges.holds code = false := by decide +kernel
  obtain ⟨range, listed, first, last⟩ := Text.Ranges.exists_of_holds blank
  exact apart range listed c.toNat (List.mem_range'_1.2 ⟨first, by omega⟩)

namespace Match

variable {name text : Text}

/-- A class name: it is read as a whole, and holds nothing that a name may not go on with. -/
structure IsClass (name : Text) : Prop where
  /-- It begins as a name does. -/
  whole : ∀ rest : Text, (∀ c ∈ rest.head?, continuesName c = false) →
    className? (name ++ rest) = some name
  /-- It goes on as a name does. -/
  proper : ∀ c ∈ name, continuesName c = true

/-- A point ends a name. -/
theorem continuesName_point : continuesName '.' = false := by decide +kernel

/-- What a name begins with may also go on with it. -/
theorem continuesName_of_startsName {c : CodePoint} (starts : startsName c = true) :
    continuesName c = true := by
  have letters : ∀ code ∈ List.range' 65 26 ++ List.range' 97 26 ++ [95],
      Text.wordRanges.holds code = true := by decide +kernel
  have inside : c.toNat ∈ List.range' 65 26 ++ List.range' 97 26 ++ [95] := by
    simp only [startsName, Text.isAsciiLetter, Bool.or_eq_true, Bool.and_eq_true,
      decide_eq_true_eq, CodePoint.le_iff, CodePoint.toNat_char] at starts
    simp only [List.mem_append, List.mem_range'_1, List.mem_singleton]
    rcases starts with (⟨low, high⟩ | ⟨low, high⟩) | rfl
    · refine .inl (.inr ⟨low, ?_⟩)
      have high : c.toNat ≤ 122 := high
      omega
    · refine .inl (.inl ⟨low, ?_⟩)
      have high : c.toNat ≤ 90 := high
      omega
    · exact .inr rfl
  rw [continuesName, Text.isWord, letters _ inside]
  rfl

/-- Characters of a run stop where the run does. -/
theorem takeWhile_append_stop {keep : CodePoint → Bool} {rest : Text}
    (inside : ∀ c ∈ name, keep c = true) (stop : ∀ c ∈ rest.head?, keep c = false) :
    (name ++ rest).takeWhile keep = name := by
  rw [List.takeWhile_append_of_pos inside]
  cases rest with
  | nil => simp
  | cons c rest => simp [stop c (by simp)]

/-- What is read as a class name is one. -/
theorem isClass_of_className? (read : className? text = some name) : IsClass name := by
  have tail : ∀ rest : Text, ∀ c ∈ rest.takeWhile continuesName, continuesName c = true :=
    fun _ _ listed => List.mem_takeWhile_imp listed
  unfold className? at read
  split at read
  · rename_i c rest
    split at read
    · rename_i starts
      rw [← Option.some.inj read]
      refine ⟨fun more stop => ?_, ?_⟩
      · rw [List.cons_append, List.cons_append, className?, if_pos starts,
          takeWhile_append_stop (tail rest) stop]
      · intro d listed
        simp only [List.mem_cons] at listed
        rcases listed with rfl | rfl | listed
        · decide +kernel
        · exact continuesName_of_startsName starts
        · exact tail rest d listed
    · simp at read
  · rename_i c rest apart
    split at read
    · rename_i starts
      rw [← Option.some.inj read]
      refine ⟨fun more stop => ?_, ?_⟩
      · have first : c ≠ '-' := by
          rintro rfl
          simp [startsName, Text.isAsciiLetter] at starts
        rw [List.cons_append, className?.eq_2, if_pos starts,
          takeWhile_append_stop (tail rest) stop]
        rintro d more rfl
        exact absurd rfl first
      · intro d listed
        rw [List.mem_cons] at listed
        rcases listed with rfl | listed
        · exact continuesName_of_startsName starts
        · exact tail rest d listed
    · simp at read
  · simp at read

/-- A class name holds no point. -/
theorem IsClass.not_mem (named : IsClass name) : .char '.' ∉ name := by
  intro listed
  have inside := named.proper '.' listed
  rw [continuesName_point] at inside
  simp at inside

/-- The class names of a selector are such. -/
theorem isClass_of_mem_allClasses (listed : name ∈ allClasses text) : IsClass name := by
  induction text with
  | nil => simp [allClasses] at listed
  | cons c rest ih =>
    rw [allClasses] at listed
    split at listed
    · split at listed
      · rename_i first read
        rw [List.mem_cons] at listed
        rcases listed with rfl | listed
        · exact isClass_of_className? read
        · exact ih listed
      · exact ih listed
    · exact ih listed

/-- What holds no point has no class names. -/
theorem allClasses_append {front : Text} (plain : .char '.' ∉ front) (back : Text) :
    allClasses (front ++ back) = allClasses back := by
  induction front with
  | nil => rfl
  | cons c rest ih =>
    rw [List.mem_cons, not_or] at plain
    rw [List.cons_append, allClasses, if_neg fun same => plain.1 same.symm, ih plain.2]

/-- A point and a class name give that class. -/
theorem allClasses_cons (named : IsClass name) {rest : Text}
    (stop : ∀ c ∈ rest.head?, continuesName c = false) :
    allClasses (.char '.' :: (name ++ rest)) = name :: allClasses rest := by
  rw [allClasses, if_pos rfl, named.whole rest stop, allClasses_append named.not_mem]

/-- Class names put together, each behind a point, are the classes of what comes of it. -/
theorem allClasses_flatMap {classes : List Text} (named : ∀ name ∈ classes, IsClass name) :
    allClasses (classes.flatMap (.char '.' :: ·)) = classes := by
  induction classes with
  | nil => rfl
  | cons name rest ih =>
    have stop : ∀ c ∈ (rest.flatMap (.char '.' :: ·)).head?, continuesName c = false := by
      intro c first
      cases rest with
      | nil => simp at first
      | cons next others =>
        simp only [List.flatMap_cons, List.cons_append, List.head?_cons, Option.mem_def,
          Option.some.injEq] at first
        subst first
        exact continuesName_point
    rw [List.flatMap_cons, List.cons_append, allClasses_cons (named name (by simp)) stop,
      ih fun other listed => named other (by simp [listed])]

/-- Names that are each kept once, behind those seen. -/
def keepOnce (seen names : List Text) : List Text :=
  names.foldl (fun seen name => if seen.contains name then seen else seen ++ [name]) seen

/-- What is kept is what was seen and the names. -/
theorem mem_keepOnce (seen names : List Text) (name : Text) :
    name ∈ keepOnce seen names ↔ name ∈ seen ∨ name ∈ names := by
  induction names generalizing seen with
  | nil => simp [keepOnce]
  | cons first rest ih =>
    rw [keepOnce, List.foldl_cons, ← keepOnce, ih]
    split
    · rename_i known
      have known : first ∈ seen := List.contains_iff_mem.1 known
      constructor
      · rintro (held | held)
        · exact .inl held
        · exact .inr (by simp [held])
      · rintro (held | held)
        · exact .inl held
        · rcases List.mem_cons.1 held with rfl | held
          · exact .inl known
          · exact .inr held
    · simp only [List.mem_append, List.mem_cons, List.not_mem_nil, false_or, or_assoc]

/-- What is kept is kept once. -/
theorem nodup_keepOnce {seen : List Text} (distinct : seen.Nodup) (names : List Text) :
    (keepOnce seen names).Nodup := by
  induction names generalizing seen with
  | nil => exact distinct
  | cons first rest ih =>
    rw [keepOnce, List.foldl_cons, ← keepOnce]
    split
    · exact ih distinct
    · rename_i unknown
      have new : first ∉ seen := fun listed => unknown (List.contains_iff_mem.2 listed)
      refine ih (List.nodup_append.2 ⟨distinct, by simp, fun one listed two single => ?_⟩)
      rw [List.mem_singleton] at single
      rintro rfl
      exact new (single ▸ listed)

/-- Where no name comes twice all are kept. -/
theorem keepOnce_eq {seen names : List Text} (distinct : (seen ++ names).Nodup) :
    keepOnce seen names = seen ++ names := by
  induction names generalizing seen with
  | nil => simp [keepOnce]
  | cons first rest ih =>
    have new : first ∉ seen := fun listed =>
      (List.nodup_append.1 distinct).2.2 first listed first (by simp) rfl
    have unknown : ¬ seen.contains first = true := fun known =>
      new (List.contains_iff_mem.1 known)
    rw [keepOnce, List.foldl_cons, if_neg unknown, ← keepOnce, ih (by simpa using distinct)]
    simp

/-- The classes of a selector are its class names. -/
theorem mem_classesOf (selector name : Text) :
    name ∈ classesOf selector ↔ name ∈ allClasses selector := by
  rw [classesOf, ← keepOnce, mem_keepOnce]
  simp

/-- The classes of a selector are listed once. -/
theorem nodup_classesOf (selector : Text) : (classesOf selector).Nodup :=
  nodup_keepOnce List.nodup_nil _

/-- Class names that are listed once are the classes of what has these class names. -/
theorem classesOf_eq {selector : Text} {classes : List Text}
    (names : allClasses selector = classes) (distinct : classes.Nodup) :
    classesOf selector = classes := by
  rw [classesOf, ← keepOnce, names, keepOnce_eq (by simpa using distinct), List.nil_append]

/-- The classes of a selector are class names. -/
theorem isClass_of_mem_classesOf {selector : Text} (listed : name ∈ classesOf selector) :
    IsClass name := isClass_of_mem_allClasses ((mem_classesOf selector name).1 listed)

/-- The classes of a selector, each behind a point, are the classes of what comes of them. -/
theorem classesOf_flatMap (selector : Text) :
    classesOf ((classesOf selector).flatMap (.char '.' :: ·)) = classesOf selector :=
  classesOf_eq (allClasses_flatMap fun _ listed => isClass_of_mem_classesOf listed)
    (nodup_classesOf selector)

/-- A class behind a text without a point is the only one. -/
theorem classesOf_append (named : IsClass name) {front : Text} (plain : .char '.' ∉ front) :
    classesOf (front ++ .char '.' :: name) = [name] := by
  have single : allClasses (.char '.' :: (name ++ [])) = [name] := allClasses_cons named (by simp)
  rw [List.append_nil] at single
  exact classesOf_eq ((allClasses_append plain _).trans single) (by simp)

end Match

end Restyle
