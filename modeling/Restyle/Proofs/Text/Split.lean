import Mathlib.Data.List.Basic
import Restyle.Text.Basic

/-!
# Pieces of a text

Splitting at separators and joining with one are inverse to each other on pieces without it.
Main statements: a separator cuts the split of a text in two (`split_append_cons`), no piece
holds a separator (`not_isSeparator_of_mem_split`), and joined pieces split into themselves
(`split_join`).
-/
namespace Restyle.Text

variable {isSeparator : CodePoint → Bool}

/-- A separator at the front ends an empty piece. -/
theorem split_cons_of_separator {c : CodePoint} (ends : isSeparator c = true) (text : Text) :
    split isSeparator (c :: text) = [] :: split isSeparator text := by
  simp [split, ends]

/-- A character that separates nothing goes to the first piece. -/
theorem exists_split_cons {c : CodePoint} (inner : isSeparator c = false) (text : Text) :
    ∃ first others, split isSeparator text = first :: others ∧
      split isSeparator (c :: text) = (c :: first) :: others := by
  cases pieces : split isSeparator text with
  | nil => exact absurd pieces (split_ne_nil isSeparator text)
  | cons first others =>
    refine ⟨first, others, rfl, ?_⟩
    simp only [split] at pieces
    simp only [split, List.foldr_cons, inner, Bool.false_eq_true, if_false]
    rw [pieces]

/-- A separator cuts the split of a text in two. -/
theorem split_append_cons {c : CodePoint} (ends : isSeparator c = true) (front back : Text) :
    split isSeparator (front ++ c :: back) =
      split isSeparator front ++ split isSeparator back := by
  induction front with
  | nil =>
    rw [List.nil_append, split_cons_of_separator ends]
    rfl
  | cons d rest ih =>
    cases inner : isSeparator d with
    | true =>
      rw [List.cons_append, split_cons_of_separator inner, split_cons_of_separator inner, ih,
        List.cons_append]
    | false =>
      obtain ⟨first, others, whole, step⟩ := exists_split_cons inner (rest ++ c :: back)
      obtain ⟨first', others', whole', step'⟩ := exists_split_cons inner rest
      rw [ih, whole', List.cons_append, List.cons.injEq] at whole
      rw [List.cons_append, step, step', ← whole.1, ← whole.2, List.cons_append]

/-- A text without separators is a single piece. -/
theorem split_eq_singleton {text : Text} (whole : ∀ c ∈ text, isSeparator c = false) :
    split isSeparator text = [text] := by
  induction text with
  | nil => rfl
  | cons c rest ih =>
    obtain ⟨first, others, pieces, step⟩ := exists_split_cons (whole c (by simp)) rest
    rw [ih fun d held => whole d (by simp [held]), List.cons.injEq] at pieces
    rw [step, ← pieces.1, ← pieces.2]

/-- No piece holds a separator. -/
theorem not_isSeparator_of_mem_split {text piece : Text}
    (listed : piece ∈ split isSeparator text) : ∀ c ∈ piece, isSeparator c = false := by
  induction text generalizing piece with
  | nil =>
    have empty : piece = [] := by simpa [split] using listed
    simp [empty]
  | cons c rest ih =>
    cases inner : isSeparator c with
    | true =>
      rw [split_cons_of_separator inner, List.mem_cons] at listed
      rcases listed with rfl | listed
      · simp
      · exact ih listed
    | false =>
      obtain ⟨first, others, pieces, step⟩ := exists_split_cons inner rest
      rw [step, List.mem_cons] at listed
      rcases listed with rfl | listed
      · intro d held
        rcases List.mem_cons.1 held with rfl | held
        · exact inner
        · exact ih (by rw [pieces]; exact List.mem_cons_self) d held
      · exact ih (by rw [pieces]; exact List.mem_cons_of_mem _ listed)

/-- The pieces of a text put together are the text without its separators. -/
theorem flatten_split (text : Text) :
    (split isSeparator text).flatten = text.filter fun c => !isSeparator c := by
  induction text with
  | nil => rfl
  | cons c rest ih =>
    cases ends : isSeparator c with
    | true => simp [split_cons_of_separator ends, ih, ends]
    | false =>
      obtain ⟨first, others, pieces, step⟩ := exists_split_cons ends rest
      rw [pieces] at ih
      rw [step, List.flatten_cons, List.cons_append, ← List.flatten_cons, ih]
      simp [ends]

/-- What stands in a piece stands in the text. -/
theorem mem_of_mem_split {text piece : Text} {c : CodePoint}
    (listed : piece ∈ split isSeparator text)
    (held : c ∈ piece) : c ∈ text := by
  have inside : c ∈ (split isSeparator text).flatten := List.mem_flatten.2 ⟨piece, listed, held⟩
  rw [flatten_split] at inside
  exact (List.mem_filter.1 inside).1

/-- Nothing is joined to nothing. -/
@[simp] theorem join_nil (separator : Text) : join separator [] = [] := rfl

/-- A single piece is joined as it is. -/
@[simp] theorem join_singleton (separator piece : Text) : join separator [piece] = piece := by
  simp [join]

/-- The first of several pieces is followed by the separator. -/
theorem join_cons_cons (separator first second : Text) (rest : List Text) :
    join separator (first :: second :: rest) =
      first ++ separator ++ join separator (second :: rest) := by
  simp [join]

/-- Two joined lists of pieces have the separator between them. -/
theorem join_append (separator : Text) {front back : List Text} (some : front ≠ [])
    (more : back ≠ []) :
    join separator (front ++ back) = join separator front ++ separator ++ join separator back := by
  induction front with
  | nil => exact absurd rfl some
  | cons first rest ih =>
    cases rest with
    | nil =>
      obtain ⟨second, others, rfl⟩ := List.exists_cons_of_ne_nil more
      simp [join_cons_cons]
    | cons second others =>
      have inner := ih (by simp)
      simp only [List.cons_append] at inner ⊢
      rw [join_cons_cons, inner, join_cons_cons]
      simp only [List.append_assoc]

/-- Pieces without the separator, joined with it, are the pieces of what they are joined to. -/
theorem split_join {c : CodePoint} {pieces : List Text} (some : pieces ≠ [])
    (whole : ∀ piece ∈ pieces, c ∉ piece) : split (· = c) (join [c] pieces) = pieces := by
  induction pieces with
  | nil => exact absurd rfl some
  | cons first rest ih =>
    have single : split (· = c) first = [first] := by
      refine split_eq_singleton fun d held => decide_eq_false fun same => ?_
      exact whole first (by simp) (same ▸ held)
    cases rest with
    | nil => rw [join_singleton, single]
    | cons second others =>
      have inner := ih (by simp) fun piece listed => whole piece (by simp [listed])
      rw [join_cons_cons, List.append_assoc, List.singleton_append,
        split_append_cons (by simp), inner, single, List.singleton_append]

end Restyle.Text
