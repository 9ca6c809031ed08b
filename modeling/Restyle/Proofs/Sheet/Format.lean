import Restyle.Proofs.Sheet.Update

/-!
# The domain of the format

A selector and its properties are written as one block. Nothing is quoted in it, so some texts end
a part of the block early, are trimmed away or are taken for a comment. Main statement: written
blocks are read back exactly where no text does any of this (`representable_iff_expressible`).
-/
namespace Restyle.Sheet

variable {text selector : Text} {properties : Properties}

/-- A comment ends in a text exactly when `*/` stands in it. -/
theorem afterComment?_eq_none_iff :
    afterComment? text = none ↔ ¬ [.char '*', .char '/'] <:+: text := by
  fun_induction afterComment? text with
  | case1 tail =>
    have held : [.char '*', .char '/'] <:+: .char '*' :: .char '/' :: tail := ⟨[], tail, rfl⟩
    simp [held]
  | case2 c tail apart ih =>
    have front : ¬ [.char '*', .char '/'] <+: c :: tail := by
      rintro ⟨rest, same⟩
      rw [List.cons_append, List.cons_append, List.cons.injEq] at same
      exact apart rest same.1.symm same.2.symm
    rw [ih, List.infix_cons_iff, or_iff_right front]
  | case3 => simp

/-- A comment stands somewhere in a text. -/
def HoldsComment (text : Text) : Prop := ∃ inside, comment inside <:+: text

/-- A comment stands at the front of a text or further on. -/
theorem holdsComment_cons_iff {c : CodePoint} {rest : Text} :
    HoldsComment (c :: rest) ↔
      (∃ inside, c = '/' ∧ rest = .char '*' :: inside ∧ afterComment? inside ≠ none) ∨
        HoldsComment rest := by
  have closed : ∀ inside : Text, afterComment? inside ≠ none ↔
      ∃ within, within ++ [.char '*', .char '/'] <+: inside := by
    intro inside
    rw [ne_eq, afterComment?_eq_none_iff, not_not]
    constructor
    · rintro ⟨within, back, rfl⟩
      exact ⟨within, back, rfl⟩
    · rintro ⟨within, back, rfl⟩
      exact ⟨within, back, rfl⟩
  simp only [HoldsComment, List.infix_cons_iff, exists_or, closed]
  refine or_congr_left ⟨?_, ?_⟩
  · rintro ⟨within, back, same⟩
    simp only [comment, List.cons_append, List.cons.injEq] at same
    exact ⟨_, same.1.symm, same.2.symm, within, back, rfl⟩
  · rintro ⟨inside, rfl, rfl, within, back, rfl⟩
    exact ⟨within, back, rfl⟩

/-- Taking the comments out leaves a text as it is exactly when none stands in it. -/
theorem withoutComments_eq_self_iff : withoutComments text = text ↔ ¬ HoldsComment text := by
  fun_induction withoutComments text with
  | case1 => simp [HoldsComment, comment]
  | case2 inside after closed _ =>
    have shorter := length_of_afterComment? closed
    have bound := length_withoutComments_le after
    refine iff_of_false (fun same => ?_) (not_not.2 (holdsComment_cons_iff.2 (.inl ?_)))
    · have sizes := congrArg List.length same
      rw [List.length_cons, List.length_cons] at sizes
      omega
    · exact ⟨inside, rfl, rfl, by simp [closed]⟩
  | case3 inside unclosed ih =>
    have plain : ¬ ∃ within, CodePoint.char '/' = '/' ∧ .char '*' :: inside = .char '*' :: within ∧
        afterComment? within ≠ none := by
      rintro ⟨within, _, same, closed⟩
      exact closed ((List.cons.inj same).2 ▸ unclosed)
    rw [List.cons.injEq, ih, holdsComment_cons_iff (c := '/'), or_iff_right plain]
    simp
  | case4 c rest apart ih =>
    have plain :
        ¬ ∃ inside, c = '/' ∧ rest = .char '*' :: inside ∧ afterComment? inside ≠ none := by
      rintro ⟨inside, slash, star, _⟩
      exact apart inside slash star
    rw [List.cons.injEq, ih, holdsComment_cons_iff (c := c), or_iff_right plain]
    simp

/-- A text that is not empty and has no blank at either end. -/
structure Snug (text : Text) : Prop where
  /-- The text is not empty. -/
  given : text ≠ []
  /-- It begins with no blank. -/
  front : ∀ c ∈ text.head?, Text.isBlank c = false
  /-- It ends with no blank. -/
  back : ∀ c ∈ text.getLast?, Text.isBlank c = false

/-- Texts with something in them are snug exactly when they are trimmed. -/
theorem snug_iff : Snug text ↔ text ≠ [] ∧ Text.trim text = text := by
  rw [Text.trim_eq_self_iff]
  exact ⟨fun ⟨given, front, back⟩ => ⟨given, front, back⟩,
    fun ⟨given, front, back⟩ => ⟨given, front, back⟩⟩

/-- A selector and properties whose texts keep to their places in a block. -/
structure Expressible (selector : Text) (properties : Properties) : Prop where
  /-- The selector is there, without blanks around it. -/
  head : Snug selector
  /-- No brace and no at-sign stands in the selector. -/
  plain : ∀ c ∈ selector, c ≠ '\x7b' ∧ c ≠ '\x7d' ∧ c ≠ '@'
  /-- No comment stands in the selector. -/
  bare : ¬ HoldsComment selector
  /-- Every name and every value is there, without blanks around it. -/
  texts : ∀ entry ∈ properties.entries, Snug entry.1 ∧ Snug entry.2
  /-- No name and no value ends its declaration or the block. -/
  whole : ∀ entry ∈ properties.entries, ∀ c ∈ entry.1 ++ entry.2, c ≠ ';' ∧ c ≠ '\x7d'
  /-- No name ends at a colon in it. -/
  names : ∀ entry ∈ properties.entries, .char ':' ∉ entry.1
  /-- No comment stands in the written declarations, also not across several of them. -/
  body : ¬ HoldsComment (writeDeclarations properties)

/-- The written block of a selector and its properties, read alone, states exactly them, with the
properties in their order and the span of the whole block, if and only if they are expressible. -/
theorem representable_iff_expressible (selector : Text) (properties : Properties) :
    Rule.Representable selector properties ↔ Expressible selector properties := by
  constructor
  · intro fits
    have held : Rule.written selector properties 0 ∈ rules (Rule.write selector properties) := by
      rw [fits]
      exact List.mem_cons_self
    have fit : Selectable selector := (of_mem_rules held).1
    obtain ⟨bare, legible⟩ := (representable_iff fit).1 fits
    exact {
      head := snug_iff.2 ⟨fit.given, fit.trimmed⟩
      plain := fit.plain
      bare := withoutComments_eq_self_iff.1 bare.selector
      texts := fun entry listed =>
        ⟨snug_iff.2 ⟨(legible entry listed).named, (legible entry listed).trimmed⟩,
          snug_iff.2 ⟨(legible entry listed).given, (legible entry listed).tight⟩⟩
      whole := fun entry listed => (legible entry listed).plain
      names := fun entry listed => (legible entry listed).colon
      body := withoutComments_eq_self_iff.1 bare.body }
  · intro expressible
    obtain ⟨given, trimmed⟩ := snug_iff.1 expressible.head
    refine representable_of_legible ⟨given, trimmed, expressible.plain⟩
      ⟨withoutComments_eq_self_iff.2 expressible.bare,
        withoutComments_eq_self_iff.2 expressible.body⟩ fun entry listed => ?_
    obtain ⟨name, value⟩ := expressible.texts entry listed
    obtain ⟨named, trimmed⟩ := snug_iff.1 name
    obtain ⟨given, tight⟩ := snug_iff.1 value
    exact ⟨named, given, trimmed, tight, expressible.names entry listed,
      expressible.whole entry listed⟩

/-- Two values that are comments of no declaration are one across both. -/
example :
    ¬ Rule.Representable "a".toText
      (.ofList [("b".toText, "/*".toText), ("c".toText, "*/".toText)]) := by
  decide +kernel

end Restyle.Sheet
