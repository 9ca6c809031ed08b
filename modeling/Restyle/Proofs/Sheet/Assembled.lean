import Restyle.Proofs.Sheet.Update

/-!
# Stylesheets put together

Between two blocks of a stylesheet may stand blanks, comments and at-statements, in any order.
None of these has a brace, and each ends inside itself, so a block is read from where it begins,
whatever stands before it. Main statement: a stylesheet put together from representable blocks and
such text between them is read as exactly the rules of its blocks, where they stand
(`rules_assemble`).
-/
namespace Restyle.Sheet

/-- A piece of what may stand between two blocks. -/
inductive Piece where
  /-- A blank. -/
  | blank (c : CodePoint) (blank : Text.isBlank c = true)
  /-- A comment without braces, closed at its end. -/
  | comment (inside : Text) (ended : Text.occursIn "*/".toText inside = false)
      (opens : .char '\x7b' ∉ inside) (closes : .char '\x7d' ∉ inside)
  /-- An at-statement without braces, ended at its first semicolon. -/
  | statement (inside : Text) (ended : .char ';' ∉ inside)
      (opens : .char '\x7b' ∉ inside) (closes : .char '\x7d' ∉ inside)

/-- The text of a piece. -/
def Piece.text : Piece → Text
  | blank c _ => [c]
  | comment inside _ _ _ => Sheet.comment inside
  | statement inside _ _ _ => .char '@' :: (inside ++ [.char ';'])

/-- The text of the pieces between two blocks. -/
def separator (pieces : List Piece) : Text := pieces.flatMap Piece.text

/-- A selector and properties with a representable block, and the pieces that follow the block. -/
structure Part where
  /-- The selector of the block. -/
  selector : Text
  /-- The properties of the block. -/
  properties : Properties
  /-- The block states its selector and its properties. -/
  fits : Rule.Representable selector properties
  /-- The pieces behind the block. -/
  behind : List Piece

/-- The text of a part. -/
def Part.text (part : Part) : Text :=
  Rule.write part.selector part.properties ++ separator part.behind

/-- The rule of a part whose block stands at an offset. -/
def Part.rule (part : Part) (start : Int) : Rule :=
  Rule.written part.selector part.properties start

/-- The stylesheet of a row of parts, with pieces in front of them. -/
def assemble (front : List Piece) (parts : List Part) : Text :=
  separator front ++ parts.flatMap Part.text

/-- No brace stands in a piece. -/
theorem Piece.not_mem_text (piece : Piece) :
    .char '\x7b' ∉ piece.text ∧ .char '\x7d' ∉ piece.text := by
  cases piece with
  | blank c blank =>
    have opening : Text.isBlank '\x7b' = false := by decide
    have closing : Text.isBlank '\x7d' = false := by decide
    refine ⟨?_, ?_⟩ <;> intro held <;> rw [text, List.mem_singleton] at held
    · rw [← held, opening] at blank
      contradiction
    · rw [← held, closing] at blank
      contradiction
  | comment inside _ opens closes => simp [text, Sheet.comment, opens, closes]
  | statement inside _ opens closes => simp [text, opens, closes]

/-- A statement is ended by its first semicolon. -/
theorem afterStatement?_of_ended {inside : Text} (ended : .char ';' ∉ inside)
    (opens : .char '\x7b' ∉ inside)
    (closes : .char '\x7d' ∉ inside) : afterStatement? (inside ++ [.char ';']) = some [] := by
  induction inside with
  | nil => rfl
  | cons c rest ih =>
    simp only [List.mem_cons, not_or] at ended opens closes
    have plain : ¬ (c = '\x7b' ∨ c = '\x7d') := by simp [Ne.symm opens.1, Ne.symm closes.1]
    rw [List.cons_append, afterStatement?, if_neg (Ne.symm ended.1), if_neg plain]
    exact ih ended.2 opens.2 closes.2

/-- A piece is passed over in front of a head. -/
theorem Piece.skipFiller_text (piece : Piece) : skipFiller piece.text = [] := by
  cases piece with
  | blank c blank => rw [text, skipFiller_cons _ (.inl blank), skipFiller]
  | comment inside ended _ _ =>
    rw [text, Sheet.comment, skipFiller_comment (afterComment?_of_ended ended), skipFiller]
  | statement inside ended opens closes =>
    rw [text, skipFiller_statement (afterStatement?_of_ended ended opens closes), skipFiller]

/-- What stands between two blocks has no brace, and is passed over in front of a head. -/
theorem separator_plain (pieces : List Piece) :
    .char '\x7b' ∉ separator pieces ∧ .char '\x7d' ∉ separator pieces ∧
      skipFiller (separator pieces) = [] := by
  induction pieces with
  | nil => simp [separator, skipFiller]
  | cons piece pieces ih =>
    obtain ⟨opens, closes, passed⟩ := ih
    rw [separator, List.flatMap_cons, ← separator]
    simp only [List.mem_append, not_or]
    refine ⟨⟨piece.not_mem_text.1, opens⟩, ⟨piece.not_mem_text.2, closes⟩, ?_⟩
    rw [skipFiller_append _ piece.skipFiller_text, passed]

/-- What stands between two blocks leaves nothing open behind a closed text. -/
theorem Closed.append_separator {text : Text} (closed : Closed text) (pieces : List Piece) :
    Closed (text ++ separator pieces) := by
  obtain ⟨opens, closes, passed⟩ := separator_plain pieces
  exact closed.append opens closes passed

/-- What stands between two blocks has no rules. -/
theorem rules_separator (pieces : List Piece) : rules (separator pieces) = [] :=
  rules_of_opening?_none (opening?_eq_none (separator_plain pieces).1)

/-- A part leaves nothing open. -/
theorem closed_append_part (text : Text) (part : Part) : Closed (text ++ part.text) := by
  have ended := closed_concat
    (text ++
      (part.selector ++ .char ' ' :: .char '\x7b' :: .char '\n' ::
        writeDeclarations part.properties))
  have block := ended.append_separator part.behind
  simpa [Part.text, Rule.write] using block

/-- A part behind a closed text adds its rule as the last one. -/
theorem rules_append_part {text : Text} (closed : Closed text) (part : Part) :
    rules (text ++ part.text) = rules text ++ [part.rule text.length] := by
  rw [Part.text, rules_insert _ closed part.fits, rules_separator, List.map_nil]
  rfl

/-- Parts behind a closed text add their rules where their blocks stand. -/
theorem rules_append_parts {text : Text} (closed : Closed text) (parts : List Part) :
    rules (text ++ parts.flatMap Part.text) = rules text ++
      parts.mapIdx fun i part => part.rule (text ++ (parts.take i).flatMap Part.text).length := by
  -- each part is a closed text for those behind it
  induction parts generalizing text with
  | nil => simp
  | cons part parts ih =>
    rw [List.flatMap_cons, ← List.append_assoc, ih (closed_append_part text part),
      rules_append_part closed part, List.mapIdx_cons]
    simp [List.append_assoc]

/-- A stylesheet put together from representable blocks is read as the rules of its blocks, in
order, each with the span that its block has in the text. -/
theorem rules_assemble (front : List Piece) (parts : List Part) :
    rules (assemble front parts) =
        (parts.mapIdx fun i part => part.rule (assemble front (parts.take i)).length) ∧
      ∀ i part, parts[i]? = some part →
        ∃ back, assemble front parts =
          assemble front (parts.take i) ++
            (Rule.write part.selector part.properties ++ back) := by
  have empty : Closed [] := by decide +kernel
  refine ⟨?_, fun i part listed => ?_⟩
  · have closed : Closed (separator front) := by
      simpa using empty.append_separator front
    rw [assemble, rules_append_parts closed, rules_separator, List.nil_append]
    rfl
  · obtain ⟨inside, rfl⟩ := List.getElem?_eq_some_iff.1 listed
    have later : parts.drop i = parts[i] :: parts.drop (i + 1) := List.drop_eq_getElem_cons inside
    have parted : parts.flatMap Part.text =
        (parts.take i).flatMap Part.text ++ (parts.drop i).flatMap Part.text := by
      rw [← List.flatMap_append, List.take_append_drop]
    refine ⟨separator parts[i].behind ++ (parts.drop (i + 1)).flatMap Part.text, ?_⟩
    rw [assemble, parted, later, List.flatMap_cons, Part.text, assemble]
    simp only [List.append_assoc]

/-- The law at two blocks of one selector that stand without a gap, and with comments and
at-statements that read like the beginning of one another around them. -/
theorem rules_assemble_mixed :
    let blank : Piece := .blank '\n' (by decide)
    let comment : Piece :=
      .comment "/ @media a: b; *".toText (by decide +kernel) (by decide) (by decide)
    let statement : Piece := .statement "import '/*'".toText (by decide) (by decide) (by decide)
    let empty : Part := ⟨"a".toText, .empty, by decide +kernel, []⟩
    let filled : Part :=
      ⟨"a".toText, .ofList [("b".toText, "c".toText)], by decide +kernel, [statement, comment]⟩
    let text := "/*/ @media a: b; **/\n@import '/*';a \x7b\n\x7da \x7b\n  b: c;\n\x7d".toText ++
      "@import '/*';/*/ @media a: b; **/a \x7b\n\x7d".toText
    assemble [comment, blank, statement] [empty, filled, empty] = text ∧
      rules text =
        [⟨"a".toText, .empty, 34, 39, by decide⟩,
          ⟨"a".toText, .ofList [("b".toText, "c".toText)], 39, 52, by decide⟩,
          ⟨"a".toText, .empty, 85, 90, by decide⟩] := by
  intro blank comment statement empty filled text
  have whole : assemble [comment, blank, statement] [empty, filled, empty] = text := by
    decide +kernel
  refine ⟨whole, ?_⟩
  rw [← whole, (rules_assemble [comment, blank, statement] [empty, filled, empty]).1]
  decide +kernel

end Restyle.Sheet
