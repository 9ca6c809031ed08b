import Restyle.Proofs.OrderedMap
import Restyle.Proofs.Sheet.Quoted

/-!
# Declarations that are read as they were written

Nothing is quoted when a declaration is written, so what it is read back as depends on its texts. A
declaration is legible when its own texts do not end it early: then it is read back, unless a
comment begins in the block and ends in it. Main statements: what is read from a body is legible
(`legible_of_mem_readDeclarations`), and written properties are read back exactly when each of them
is legible and no comment stands in what is written (`readDeclarations_written_iff`).
-/
namespace Restyle.Sheet

variable {text body piece : Text} {entry : Text × Text} {properties : Properties}

/-- A text without comments stays, and any other text loses a star with them. -/
theorem withoutComments_eq_or_lt (text : Text) :
    withoutComments text = text ∨
      (withoutComments text).count (.char '*') < text.count (.char '*') := by
  fun_induction withoutComments text with
  | case1 => exact .inl rfl
  | case2 inside after closed ih =>
    obtain ⟨comment, whole, _⟩ := exists_of_afterComment? closed
    have fewer := (withoutComments_sublist after).count_le (CodePoint.char '*')
    have tail := (List.sublist_append_right comment after).count_le (CodePoint.char '*')
    right
    rw [List.count_cons_of_ne (by decide), List.count_cons_self, whole]
    omega
  | case3 inside _ ih =>
    rcases ih with same | fewer
    · exact .inl (by rw [same])
    · right
      rw [List.count_cons_of_ne (by decide), List.count_cons_of_ne (by decide)]
      exact fewer
  | case4 c rest _ ih =>
    rcases ih with same | fewer
    · exact .inl (by rw [same])
    · right
      rw [List.count_cons, List.count_cons]
      omega

/-- No comment ends at a character that is no slash. -/
theorem afterComment?_concat_eq_none {c : CodePoint} (other : c ≠ '/')
    (unclosed : afterComment? text = none) : afterComment? (text ++ [c]) = none := by
  fun_induction afterComment? text with
  | case1 => simp at unclosed
  | case2 d rest apart ih =>
    rw [List.cons_append, afterComment?]
    · exact ih unclosed
    · intro inner star slash
      cases rest with
      | nil =>
        rw [List.nil_append, List.cons.injEq] at slash
        exact other slash.1
      | cons e rest =>
        rw [List.cons_append, List.cons.injEq] at slash
        exact apart rest star (by rw [slash.1])
  | case3 => simp [afterComment?]

/-- A closed comment is taken out. -/
theorem withoutComments_closed {inside after : Text} (closed : afterComment? inside = some after) :
    withoutComments (.char '/' :: .char '*' :: inside) = withoutComments after := by
  rw [withoutComments]
  split
  · rename_i other found
    rw [closed, Option.some.injEq] at found
    rw [found]
  · rename_i found
    rw [closed] at found
    contradiction

/-- What begins like a comment and is not closed stays. -/
theorem withoutComments_unclosed {inside : Text} (unclosed : afterComment? inside = none) :
    withoutComments (.char '/' :: .char '*' :: inside) =
      .char '/' :: withoutComments (.char '*' :: inside) := by
  rw [withoutComments]
  split
  · rename_i other found
    rw [unclosed] at found
    contradiction
  · rfl

/-- A comment that is not taken out is not closed. -/
theorem afterComment?_eq_none_of_bare {inside : Text}
    (bare : withoutComments (.char '/' :: .char '*' :: inside) = .char '/' :: .char '*' :: inside) :
    afterComment? inside = none := by
  rw [Option.eq_none_iff_forall_ne_some]
  intro after closed
  rw [withoutComments_closed closed] at bare
  have shorter := length_of_afterComment? closed
  have sizes := (withoutComments_sublist after).length_le
  rw [bare, List.length_cons, List.length_cons] at sizes
  omega

/-- A character at the end that is no slash stays there. -/
theorem withoutComments_concat {c : CodePoint} (other : c ≠ '/') (plain : c ≠ '*') (text : Text) :
    withoutComments (text ++ [c]) = withoutComments text ++ [c] := by
  fun_induction withoutComments text with
  | case1 => simp [withoutComments]
  | case2 inside after closed ih =>
    rw [List.cons_append, List.cons_append,
      withoutComments_closed (afterComment?_append [c] closed), ih]
  | case3 inside unclosed ih =>
    rw [List.cons_append, List.cons_append,
      withoutComments_unclosed (afterComment?_concat_eq_none other unclosed)]
    rw [List.cons_append] at ih
    rw [ih, List.cons_append]
  | case4 d rest apart ih =>
    rw [List.cons_append, withoutComments, ih, List.cons_append]
    intro inside slash star
    cases rest with
    | nil =>
      rw [List.nil_append, List.cons.injEq] at star
      exact plain star.1
    | cons e rest =>
      rw [List.cons_append, List.cons.injEq] at star
      exact apart rest slash (by rw [star.1])

/-- A declaration that its own texts do not end early and that has all its texts. -/
structure Legible (entry : Text × Text) : Prop where
  /-- The name is not empty. -/
  named : entry.1 ≠ []
  /-- The value is not empty. -/
  given : entry.2 ≠ []
  /-- The name has no blanks around it. -/
  trimmed : Text.trim entry.1 = entry.1
  /-- The value has no blanks around it. -/
  tight : Text.trim entry.2 = entry.2
  /-- The name ends at the colon behind it. -/
  colon : .char ':' ∉ entry.1
  /-- Nothing in the name and the value ends the declaration or the block. -/
  plain : ∀ c ∈ entry.1 ++ entry.2, c ≠ ';' ∧ c ≠ '\x7d'

instance (entry : Text × Text) : Decidable (Legible entry) :=
  -- the characters of the texts are gone through, not all characters
  haveI := List.decidableBAll (fun c : CodePoint => c ≠ ';' ∧ c ≠ '\x7d') (entry.1 ++ entry.2)
  decidable_of_iff
    (entry.1 ≠ [] ∧ entry.2 ≠ [] ∧ Text.trim entry.1 = entry.1 ∧ Text.trim entry.2 = entry.2 ∧
      .char ':' ∉ entry.1 ∧ ∀ c ∈ entry.1 ++ entry.2, c ≠ ';' ∧ c ≠ '\x7d')
    ⟨fun ⟨named, given, trimmed, tight, colon, plain⟩ =>
        ⟨named, given, trimmed, tight, colon, plain⟩,
      fun ⟨named, given, trimmed, tight, colon, plain⟩ =>
        ⟨named, given, trimmed, tight, colon, plain⟩⟩

/-- The texts of a declaration. -/
def textsOf (entry : Text × Text) : Text := entry.1 ++ entry.2

/-- The name and the value of a declaration are the trimmed parts of its piece around the first
colon. -/
theorem of_readDeclaration? (stated : readDeclaration? piece = some entry) :
    ∃ name value, piece = name ++ .char ':' :: value ∧ .char ':' ∉ name ∧ entry.1 = Text.trim name ∧
      entry.2 = Text.trim value ∧ entry.1 ≠ [] ∧ entry.2 ≠ [] := by
  rw [readDeclaration?] at stated
  split at stated
  · simp at stated
  · rename_i name value cut
    obtain ⟨whole, first⟩ := Text.eq_of_cut? cut
    simp only at stated
    split at stated
    · simp at stated
    · rename_i proper
      simp only [Bool.or_eq_true, List.isEmpty_iff, not_or] at proper
      simp only [Option.some.injEq] at stated
      subst stated
      exact ⟨name, value, whole, first, rfl, rfl, proper.1, proper.2⟩

/-- A piece without semicolons and closing braces states a legible declaration, if any. -/
theorem legible_of_readDeclaration? (plain : ∀ c ∈ piece, c ≠ ';' ∧ c ≠ '\x7d')
    (stated : readDeclaration? piece = some entry) : Legible entry := by
  obtain ⟨name, value, rfl, first, left, right, named, given⟩ := of_readDeclaration? stated
  refine ⟨named, given, ?_, ?_, ?_, fun c held => plain c ?_⟩
  · rw [left, Text.trim_trim]
  · rw [right, Text.trim_trim]
  · rw [left]
    exact fun held => first (Text.mem_of_mem_trim held)
  · rw [left, right, List.mem_append] at held
    rcases held with held | held
    · simp [Text.mem_of_mem_trim held]
    · simp [Text.mem_of_mem_trim held]

/-- A declaration has no more stars than its piece. -/
theorem count_le_of_readDeclaration? (stated : readDeclaration? piece = some entry) :
    (textsOf entry).count (.char '*') ≤ piece.count (.char '*') := by
  obtain ⟨name, value, rfl, _, left, right, _, _⟩ := of_readDeclaration? stated
  have front := (Text.trim_sublist name).count_le (CodePoint.char '*')
  have back := (Text.trim_sublist value).count_le (CodePoint.char '*')
  rw [textsOf, left, right, List.count_append, List.count_append,
    List.count_cons_of_ne (by decide)]
  omega

/-- The declarations of a body without closing braces are legible. -/
theorem legible_of_mem_readDeclarations (closes : .char '\x7d' ∉ body)
    (listed : entry ∈ (readDeclarations body).entries) : Legible entry := by
  have held := (OrderedMap.get?_eq_some_iff (readDeclarations body) entry.1 entry.2).2 listed
  obtain ⟨piece, inside, stated⟩ := List.mem_filterMap.1 (OrderedMap.mem_of_get?_ofList held)
  refine legible_of_readDeclaration? (fun c here => ⟨?_, ?_⟩) stated
  · have apart := Text.not_isSeparator_of_mem_split inside c here
    simpa using apart
  · rintro rfl
    exact closes ((withoutComments_sublist body).subset (Text.mem_of_mem_split inside here))

/-- The declarations of a body have no more stars than it has outside of its comments. -/
theorem count_readDeclarations_le (body : Text) :
    ((readDeclarations body).entries.flatMap textsOf).count (.char '*') ≤
      (withoutComments body).count (.char '*') := by
  have each : ∀ pieces : List Text,
      ((pieces.filterMap readDeclaration?).flatMap textsOf).count (.char '*') ≤
        pieces.flatten.count (.char '*') := by
    intro pieces
    induction pieces with
    | nil => exact Nat.le_refl 0
    | cons piece rest ih =>
      rw [List.flatten_cons, List.count_append, List.filterMap_cons]
      cases stated : readDeclaration? piece with
      | none => exact ih.trans (Nat.le_add_left _ _)
      | some entry =>
        have first := count_le_of_readDeclaration? stated
        simp only [List.flatMap_cons, List.count_append]
        omega
  calc
    ((readDeclarations body).entries.flatMap textsOf).count (.char '*') ≤ _ :=
      OrderedMap.count_ofList_le textsOf '*' _
    _ ≤ _ := each _
    _ = ((withoutComments body).filter fun c : CodePoint =>
          !decide (c = ';')).count (.char '*') := by
      rw [Text.flatten_split]
    _ ≤ (withoutComments body).count (.char '*') :=
      List.filter_sublist.count_le (CodePoint.char '*')

/-- What is written has the stars of its declarations. -/
theorem count_writeDeclarations (properties : Properties) :
    (writeDeclarations properties).count (.char '*') =
      (properties.entries.flatMap textsOf).count (.char '*') := by
  rw [writeDeclarations]
  induction properties.entries with
  | nil => rfl
  | cons entry rest ih =>
    rw [List.flatMap_cons, List.count_append, ih, List.flatMap_cons, List.count_append]
    simp [writeDeclaration, textsOf]

/-- A legible declaration is read back from its piece. -/
theorem Legible.readDeclaration?_eq (legible : Legible entry) :
    readDeclaration? (writtenPiece entry) = some entry := by
  have blank : ∀ c ∈ ([.char '\n', .char ' ', .char ' '] : Text), Text.isBlank c = true :=
    List.all_eq_true.1 (by decide)
  have single : ∀ c ∈ ([.char ' '] : Text), Text.isBlank c = true := List.all_eq_true.1 (by decide)
  have first : .char ':' ∉ [.char '\n', .char ' ', .char ' '] ++ entry.1 := by simp [legible.colon]
  have name : Text.trim ([.char '\n', .char ' ', .char ' '] ++ entry.1) = entry.1 := by
    rw [Text.trim_append_left blank, legible.trimmed]
  have value : Text.trim (.char ' ' :: entry.2) = entry.2 :=
    (Text.trim_append_left single entry.2).trans legible.tight
  rw [readDeclaration?, writtenPiece, ← List.append_assoc, Text.cut?_append _ first]
  simp only [name, value]
  simp [legible.named, legible.given]

/-- Legible properties without a comment in what is written are read back. -/
theorem readDeclarations_written (legible : ∀ entry ∈ properties.entries, Legible entry)
    (bare : withoutComments (writeDeclarations properties) = writeDeclarations properties) :
    readDeclarations (.char '\n' :: writeDeclarations properties) = properties := by
  obtain ⟨first, others, listed, whole⟩ := exists_joined properties.entries
  have uncommented : withoutComments (.char '\n' :: writeDeclarations properties) =
      .char '\n' :: writeDeclarations properties := by
    simp [withoutComments, bare]
  have plain : ∀ piece ∈ first :: others, .char ';' ∉ piece := by
    intro piece held
    rw [← listed, List.mem_append, List.mem_map, List.mem_singleton] at held
    rcases held with ⟨entry, inside, rfl⟩ | rfl
    · have free := fun c here => ((legible entry inside).plain c here).1
      have name : .char ';' ∉ entry.1 := fun here => free ';' (List.mem_append_left _ here) rfl
      have value : .char ';' ∉ entry.2 := fun here => free ';' (List.mem_append_right _ here) rfl
      simp [writtenPiece, name, value]
    · decide
  have last : readDeclaration? [.char '\n'] = none := by decide +kernel
  have read : (first :: others).filterMap readDeclaration? = properties.entries := by
    rw [← listed, List.filterMap_append, List.filterMap_map, List.filterMap_cons, last]
    simp only [List.filterMap_nil, List.append_nil]
    have each : ∀ entry ∈ properties.entries,
        (readDeclaration? ∘ writtenPiece) entry = some entry := fun entry inside =>
      (legible entry inside).readDeclaration?_eq
    rw [List.filterMap_congr each]
    exact List.filterMap_some
  have joins : .char '\n' :: writeDeclarations properties = joined first others := whole
  rw [readDeclarations, uncommented, joins, split_joined plain, read]
  exact OrderedMap.ext_entries (OrderedMap.entries_ofList properties.distinct)

/-- Written properties without closing braces are read back exactly when each of them is legible
and no comment stands in what is written. -/
theorem readDeclarations_written_iff (closes : .char '\x7d' ∉ writeDeclarations properties) :
    readDeclarations (.char '\n' :: writeDeclarations properties) = properties ↔
      (∀ entry ∈ properties.entries, Legible entry) ∧
        withoutComments (writeDeclarations properties) = writeDeclarations properties := by
  refine ⟨fun read => ⟨fun entry listed => ?_, ?_⟩, fun ⟨legible, bare⟩ =>
    readDeclarations_written legible bare⟩
  · rw [← read] at listed
    exact legible_of_mem_readDeclarations (by simp [closes]) listed
  · -- a comment would take stars along that no declaration could bring back
    refine (withoutComments_eq_or_lt _).resolve_right fun fewer => ?_
    have kept := count_readDeclarations_le (.char '\n' :: writeDeclarations properties)
    rw [read, ← count_writeDeclarations] at kept
    simp [withoutComments] at kept
    omega

end Restyle.Sheet
