import Restyle.Sheet.Scan

/-!
# Filler in front of a text

Filler is a row of complete pieces: blanks, closing braces, closed comments, ended statements.
Each piece ends inside itself, so what follows cannot change how it is passed over. Main
statements: filler in front of a text is passed over as if it stood alone
(`skipFiller_append`), and every text is its leading filler and the rest
(`exists_filler`).
-/
namespace Restyle.Sheet

/-- What follows a comment's end does not move the end. -/
theorem afterComment?_append {text rest : Text} (more : Text)
    (found : afterComment? text = some rest) :
    afterComment? (text ++ more) = some (rest ++ more) := by
  fun_induction afterComment? text with
  | case1 tail =>
    simp only [Option.some.injEq] at found
    subst found
    simp [afterComment?]
  | case2 c tail other ih =>
    rw [List.cons_append, afterComment?]
    · exact ih found
    · intro inner star slash
      cases tail with
      | nil => simp [afterComment?] at found
      | cons d tail =>
        simp only [List.cons_append, List.cons.injEq] at slash
        exact other tail star (by rw [slash.1])
  | case3 => simp at found

/-- What follows a statement's end does not move the end. -/
theorem afterStatement?_append {text rest : Text} (more : Text)
    (found : afterStatement? text = some rest) :
    afterStatement? (text ++ more) = some (rest ++ more) := by
  fun_induction afterStatement? text with
  | case1 => simp at found
  | case2 tail =>
    simp only [Option.some.injEq] at found
    subst found
    simp [afterStatement?]
  | case3 => simp at found
  | case4 c tail notEnd notBrace ih =>
    rw [List.cons_append, afterStatement?, if_neg notEnd, if_neg notBrace]
    exact ih found

/-- A comment's end is where the rest starts. -/
theorem exists_of_afterComment? {text rest : Text} (found : afterComment? text = some rest) :
    ∃ inside, text = inside ++ rest ∧ afterComment? inside = some [] := by
  fun_induction afterComment? text with
  | case1 tail =>
    simp only [Option.some.injEq] at found
    subst found
    exact ⟨[.char '*', .char '/'], rfl, rfl⟩
  | case2 c tail other ih =>
    obtain ⟨inside, whole, closed⟩ := ih found
    refine ⟨c :: inside, by rw [whole, List.cons_append], ?_⟩
    rw [afterComment?]
    · exact closed
    · intro inner star slash
      exact other (inner ++ rest) star (by rw [whole, slash, List.cons_append])
  | case3 => simp at found

/-- A statement's end is where the rest starts. -/
theorem exists_of_afterStatement? {text rest : Text} (found : afterStatement? text = some rest) :
    ∃ inside, text = inside ++ rest ∧ afterStatement? inside = some [] := by
  fun_induction afterStatement? text with
  | case1 => simp at found
  | case2 tail =>
    simp only [Option.some.injEq] at found
    subst found
    exact ⟨[.char ';'], rfl, by simp [afterStatement?]⟩
  | case3 => simp at found
  | case4 c tail notEnd notBrace ih =>
    obtain ⟨inside, whole, ended⟩ := ih found
    refine ⟨c :: inside, by rw [whole, List.cons_append], ?_⟩
    rw [afterStatement?, if_neg notEnd, if_neg notBrace]
    exact ended

/-- Taking the comments out leaves the other characters in order. -/
theorem withoutComments_sublist (text : Text) : (withoutComments text).Sublist text := by
  fun_induction withoutComments text with
  | case1 => exact .slnil
  | case2 inside after closed ih =>
    obtain ⟨comment, whole, _⟩ := exists_of_afterComment? closed
    rw [whole]
    exact ih.trans ((List.sublist_append_right comment after).cons _ |>.cons _)
  | case3 inside _ ih => exact ih.cons_cons _
  | case4 c rest _ ih => exact ih.cons_cons _

/-- A blank or a closing brace is passed over. -/
theorem skipFiller_cons {c : CodePoint} (rest : Text)
    (passed : Text.isBlank c = true ∨ c = '\x7d') :
    skipFiller (c :: rest) = skipFiller rest := by
  rw [skipFiller.eq_def]
  simp only [if_pos passed]

/-- A closed comment is passed over. -/
theorem skipFiller_comment {inside after : Text} (closed : afterComment? inside = some after) :
    skipFiller (.char '/' :: .char '*' :: inside) = skipFiller after := by
  rw [skipFiller.eq_def]
  have slash : ¬ (Text.isBlank '/' = true ∨ CodePoint.char '/' = '\x7d') := by decide
  simp only [if_neg slash, if_pos]
  split
  · rename_i other found
    rw [closed, Option.some.injEq] at found
    rw [found]
  · rename_i found
    rw [closed] at found
    contradiction

/-- An ended statement is passed over. -/
theorem skipFiller_statement {rest after : Text} (ended : afterStatement? rest = some after) :
    skipFiller (.char '@' :: rest) = skipFiller after := by
  rw [skipFiller.eq_def]
  have plain : ¬ (Text.isBlank '@' = true ∨ CodePoint.char '@' = '\x7d') := by decide
  have apart : ¬ CodePoint.char '@' = '/' := by decide
  simp only [if_neg plain, if_neg apart, if_pos]
  split
  · rename_i other found
    rw [ended, Option.some.injEq] at found
    rw [found]
  · rename_i found
    rw [ended] at found
    contradiction

/-- What begins no filler is not passed over. -/
theorem skipFiller_cons_eq_self {c : CodePoint} {rest : Text}
    (plain : ¬ (Text.isBlank c = true ∨ c = '\x7d'))
    (unclosed : ∀ inside, c = '/' → rest = .char '*' :: inside → afterComment? inside = none)
    (unended : c = '@' → afterStatement? rest = none) : skipFiller (c :: rest) = c :: rest := by
  rw [skipFiller.eq_def]
  simp only [if_neg plain]
  split
  · rename_i slash
    split
    · rename_i inside
      split
      · rename_i after closed
        rw [unclosed inside slash rfl] at closed
        contradiction
      · rfl
    · rfl
  · split
    · rename_i sign
      split
      · rename_i after ended
        rw [unended sign] at ended
        contradiction
      · rfl
    · rfl

/-- Filler is passed over, whatever follows it. -/
theorem skipFiller_append {filler : Text} (more : Text) (closed : skipFiller filler = []) :
    skipFiller (filler ++ more) = skipFiller more := by
  fun_induction skipFiller filler with
  | case1 => rfl
  | case2 c rest passed ih => rw [List.cons_append, skipFiller_cons _ passed, ih closed]
  | case3 inside after found _ ih =>
    rw [List.cons_append, List.cons_append, skipFiller_comment (afterComment?_append more found),
      ih closed]
  | case6 rest after found _ _ ih =>
    rw [List.cons_append, skipFiller_statement (afterStatement?_append more found), ih closed]
  | case4 | case5 | case7 | case8 => simp at closed

/-- A text is its leading filler and the rest. -/
theorem exists_filler (text : Text) :
    ∃ filler, text = filler ++ skipFiller text ∧ skipFiller filler = [] := by
  fun_induction skipFiller text with
  | case1 => exact ⟨[], rfl, by simp [skipFiller]⟩
  | case2 c rest passed ih =>
    obtain ⟨filler, whole, closed⟩ := ih
    exact ⟨c :: filler, by rw [List.cons_append, ← whole],
      by rw [skipFiller_cons _ passed, closed]⟩
  | case3 inside after found _ ih =>
    obtain ⟨filler, whole, closed⟩ := ih
    obtain ⟨comment, parts, ended⟩ := exists_of_afterComment? found
    refine ⟨.char '/' :: .char '*' :: (comment ++ filler), ?_, ?_⟩
    · rw [parts, List.cons_append, List.cons_append, List.append_assoc, ← whole]
    · rw [skipFiller_comment (afterComment?_append filler ended), List.nil_append, closed]
  | case6 rest after found _ _ ih =>
    obtain ⟨filler, whole, closed⟩ := ih
    obtain ⟨statement, parts, ended⟩ := exists_of_afterStatement? found
    refine ⟨.char '@' :: (statement ++ filler), ?_, ?_⟩
    · rw [parts, List.cons_append, List.append_assoc, ← whole]
    · rw [skipFiller_statement (afterStatement?_append filler ended), List.nil_append, closed]
  | case4 | case5 | case7 | case8 => exact ⟨[], rfl, by simp [skipFiller]⟩

end Restyle.Sheet
