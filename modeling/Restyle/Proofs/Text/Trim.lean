import Mathlib.Data.List.TakeWhile
import Restyle.Text.Class

/-!
# Trimming

A text is what trimming leaves with blanks before and behind it (`exists_trim`), and blanks put
there are trimmed away again (`trim_append`).
-/
namespace Restyle.Text

variable {front back : Text}

/-- Blanks in front are trimmed away. -/
theorem trim_append_left (blank : ∀ c ∈ front, isBlank c = true) (text : Text) :
    trim (front ++ text) = trim text := by
  rw [trim, trimStart, List.dropWhile_append_of_pos blank, trim, trimStart]

/-- Blanks behind are trimmed away. -/
theorem trim_append_right (blank : ∀ c ∈ back, isBlank c = true) (text : Text) :
    trim (text ++ back) = trim text := by
  have gone : back.dropWhile isBlank = [] := List.dropWhile_eq_nil_iff.2 blank
  have gone' : ∀ text : Text, trimEnd (text ++ back) = trimEnd text := by
    intro text
    have passed : ∀ c ∈ back.reverse, isBlank c = true := fun c held =>
      blank c (List.mem_reverse.1 held)
    rw [trimEnd, List.reverse_append, List.dropWhile_append_of_pos passed, trimEnd]
  rw [trim, trimStart, List.dropWhile_append, trim, trimStart]
  split
  · rename_i empty
    rw [gone, List.isEmpty_iff.1 empty]
  · exact gone' _

/-- Blanks around a text are trimmed away. -/
theorem trim_append (before : ∀ c ∈ front, isBlank c = true)
    (behind : ∀ c ∈ back, isBlank c = true) (text : Text) :
    trim (front ++ (text ++ back)) = trim text := by
  rw [trim_append_left before, trim_append_right behind]

/-- A text is what trimming leaves, between blanks. -/
theorem exists_trim (text : Text) :
    ∃ front back, text = front ++ (trim text ++ back) ∧ (∀ c ∈ front, isBlank c = true) ∧
      ∀ c ∈ back, isBlank c = true := by
  refine ⟨text.takeWhile isBlank, ((trimStart text).reverse.takeWhile isBlank).reverse, ?_,
    fun c held => List.mem_takeWhile_imp held,
    fun c held => List.mem_takeWhile_imp (List.mem_reverse.1 held)⟩
  rw [trim, trimEnd, ← List.reverse_append, List.takeWhile_append_dropWhile, List.reverse_reverse,
    trimStart, List.takeWhile_append_dropWhile]

/-- What was trimmed is not trimmed further. -/
theorem trim_trim (text : Text) : trim (trim text) = trim text := by
  obtain ⟨front, back, whole, before, behind⟩ := exists_trim text
  have same := congrArg trim whole
  rw [trim_append before behind] at same
  exact same.symm

/-- A text that trimming leaves does not begin with a blank. -/
theorem not_isBlank_of_trim {c : CodePoint} {rest : Text} (trimmed : trim (c :: rest) = c :: rest) :
    isBlank c = false := by
  rw [← Bool.not_eq_true]
  intro blank
  have single : ∀ d ∈ [c], isBlank d = true := by simp [blank]
  have shorter : trim (c :: rest) = trim rest := trim_append_left single rest
  obtain ⟨front, back, whole, _, _⟩ := exists_trim rest
  have sizes := congrArg List.length whole
  rw [← shorter, trimmed, List.length_append, List.length_append, List.length_cons] at sizes
  omega

/-- Trimming takes characters away at the ends. -/
theorem trim_sublist (text : Text) : (trim text).Sublist text := by
  obtain ⟨front, back, whole, _, _⟩ := exists_trim text
  have inner : (trim text).Sublist (front ++ (trim text ++ back)) :=
    (List.sublist_append_left _ _).trans (List.sublist_append_right _ _)
  rwa [← whole] at inner

/-- What trimming leaves stands in the text. -/
theorem mem_of_mem_trim {text : Text} {c : CodePoint} (held : c ∈ trim text) : c ∈ text :=
  (trim_sublist text).subset held

/-- A text is trimmed exactly when it begins and ends with no blank. -/
theorem trim_eq_self_iff {text : Text} :
    trim text = text ↔
      (∀ c ∈ text.head?, isBlank c = false) ∧ ∀ c ∈ text.getLast?, isBlank c = false := by
  constructor
  · intro trimmed
    refine ⟨fun c first => ?_, fun c last => ?_⟩
    · obtain ⟨rest, rfl⟩ := List.head?_eq_some_iff.1 first
      exact not_isBlank_of_trim trimmed
    · obtain ⟨front, rfl⟩ := List.getLast?_eq_some_iff.1 last
      rw [← Bool.not_eq_true]
      intro blank
      have single : ∀ d ∈ [c], isBlank d = true := by simp [blank]
      have shorter : trim (front ++ [c]) = trim front := trim_append_right single front
      have bound := (trim_sublist front).length_le
      rw [← shorter, trimmed, List.length_append, List.length_singleton] at bound
      omega
  · rintro ⟨first, last⟩
    have front : trimStart text = text := by
      cases text with
      | nil => rfl
      | cons c rest =>
        rw [trimStart, List.dropWhile_cons_of_neg]
        simp [first c rfl]
    have back : trimEnd text = text := by
      rw [← List.head?_reverse] at last
      rw [trimEnd]
      cases turned : text.reverse with
      | nil => rw [List.dropWhile_nil, ← turned, List.reverse_reverse]
      | cons c rest =>
        rw [turned] at last
        rw [List.dropWhile_cons_of_neg (by simp [last c rfl]), ← turned, List.reverse_reverse]
    rw [trim, front, back]

end Restyle.Text
