import Restyle.Text.Class

/-!
# Comments and filler

A comment runs from `/*` to the first `*/` after it; one that is not closed is no comment. Filler
is what may stand between two rule blocks: blanks, comments, closing braces, and at-statements
that end in a semicolon before any brace.
-/
namespace Restyle.Sheet

/-- The text after the first `*/`. -/
def afterComment? : Text → Option Text
  | '*' :: '/' :: rest => some rest
  | _ :: rest => afterComment? rest
  | [] => none

/-- The text after the first semicolon, if it comes before every brace. -/
def afterStatement? : Text → Option Text
  | [] => none
  | c :: rest =>
    if c = ';' then some rest
    else if c = '\x7b' ∨ c = '\x7d' then none
    else afterStatement? rest

/-- What follows a comment is shorter. -/
theorem length_of_afterComment? {text rest : Text} (found : afterComment? text = some rest) :
    rest.length < text.length := by
  fun_induction afterComment? text with
  | case1 tail =>
    simp only [Option.some.injEq] at found
    subst found
    simp only [List.length_cons]
    omega
  | case2 c tail _ ih => have := ih found; simp only [List.length_cons]; omega
  | case3 => simp at found

/-- What follows a statement is shorter. -/
theorem length_of_afterStatement? {text rest : Text}
    (found : afterStatement? text = some rest) : rest.length < text.length := by
  fun_induction afterStatement? text with
  | case1 => simp at found
  | case2 tail => simp only [Option.some.injEq] at found; subst found; simp
  | case3 => simp at found
  | case4 c tail _ _ ih => have := ih found; simp only [List.length_cons]; omega

/-- The text without its comments. -/
def withoutComments : Text → Text
  | [] => []
  | '/' :: '*' :: rest =>
    match _closed : afterComment? rest with
    | some after => withoutComments after
    | none => .char '/' :: withoutComments (.char '*' :: rest)
  | c :: rest => c :: withoutComments rest
termination_by text => text.length
decreasing_by
  · have := length_of_afterComment? _closed
    simp only [List.length_cons]
    omega
  · simp
  · simp

/-- The text from the end of its leading filler on. -/
def skipFiller : Text → Text
  | [] => []
  | c :: rest =>
    if Text.isBlank c ∨ c = '\x7d' then skipFiller rest
    else if c = '/' then
      match rest with
      | '*' :: inside =>
        match _closed : afterComment? inside with
        | some after => skipFiller after
        | none => c :: rest
      | _ => c :: rest
    else if c = '@' then
      match _closed : afterStatement? rest with
      | some after => skipFiller after
      | none => c :: rest
    else c :: rest
termination_by text => text.length
decreasing_by
  · simp
  · have := length_of_afterComment? _closed
    simp only [List.length_cons]
    omega
  · have := length_of_afterStatement? _closed
    simp only [List.length_cons]
    omega

end Restyle.Sheet
