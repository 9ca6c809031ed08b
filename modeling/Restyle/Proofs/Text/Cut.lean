import Mathlib.Data.List.TakeWhile
import Restyle.Text.Class

/-!
# Cuts of a text

Where a text is cut is settled by what stands before the mark alone; what stands after its last
mark holds none. Trimming takes characters away and adds none.
-/
namespace Restyle.Text

/-- A text is cut at a mark that nothing before it repeats. -/
theorem cut?_append {mark : CodePoint} {before : Text} (after : Text) (first : mark ∉ before) :
    cut? mark (before ++ mark :: after) = some (before, after) := by
  have plain : ∀ c ∈ before, (c != mark) = true := by
    intro c held
    simp only [bne_iff_ne, ne_eq]
    intro same
    exact first (same ▸ held)
  rw [cut?, List.dropWhile_append_of_pos plain, List.takeWhile_append_of_pos plain]
  simp

/-- What follows the text after the last mark only lengthens it. -/
theorem afterLast_append {mark : CodePoint} (text : Text) {more : Text} (absent : mark ∉ more) :
    afterLast mark (text ++ more) = afterLast mark text ++ more := by
  have plain : ∀ c ∈ more.reverse, (c != mark) = true := by
    intro c held
    simp only [bne_iff_ne, ne_eq]
    intro same
    exact absent (same ▸ List.mem_reverse.1 held)
  rw [afterLast, List.reverse_append, List.takeWhile_append_of_pos plain]
  simp [afterLast]

/-- What precedes the last mark does not count. -/
theorem afterLast_append_of_mem {mark : CodePoint} (text : Text) {more : Text}
    (held : mark ∈ more) :
    afterLast mark (text ++ more) = afterLast mark more := by
  have ends : ¬ (more.reverse.takeWhile (· != mark)).length = more.reverse.length := by
    intro whole
    have all := (List.takeWhile_prefix (· != mark)).eq_of_length whole
    have kept := List.mem_takeWhile_imp (all ▸ List.mem_reverse.2 held)
    simp at kept
  rw [afterLast, List.reverse_append, List.takeWhile_append, if_neg ends, afterLast]

/-- What stands after the last mark holds no mark. -/
theorem not_mem_afterLast (mark : CodePoint) (text : Text) : mark ∉ afterLast mark text := by
  rw [afterLast, List.mem_reverse]
  intro held
  simpa using List.mem_takeWhile_imp held

/-- A text ends with what stands after its last mark; nothing before that is after a mark. -/
theorem exists_afterLast (mark : CodePoint) (text : Text) :
    ∃ front, text = front ++ afterLast mark text ∧ afterLast mark front = [] := by
  have whole :
      text = (text.reverse.dropWhile (· != mark)).reverse ++ afterLast mark text := by
    rw [afterLast, ← List.reverse_append, List.takeWhile_append_dropWhile, List.reverse_reverse]
  have settled := afterLast_append (text.reverse.dropWhile (· != mark)).reverse
    (not_mem_afterLast mark text)
  rw [← whole] at settled
  exact ⟨_, whole, List.self_eq_append_left.1 settled⟩

/-- Trimming leaves no more characters than there are. -/
theorem length_trim_le (text : Text) : (trim text).length ≤ text.length := by
  calc
    (trim text).length = ((trimStart text).reverse.dropWhile isBlank).length := by
      rw [trim, trimEnd, List.length_reverse]
    _ ≤ (trimStart text).reverse.length := (List.dropWhile_sublist _).length_le
    _ = (trimStart text).length := List.length_reverse
    _ ≤ text.length := (List.dropWhile_sublist _).length_le

end Restyle.Text
