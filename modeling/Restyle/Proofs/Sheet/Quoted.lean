import Restyle.Proofs.Sheet.Block
import Restyle.Proofs.Text.Split
import Restyle.Proofs.Text.Trim

/-!
# Declarations with quotation marks and parentheses

A value may hold quoted text and parentheses; a semicolon inside either one belongs to the value.
The reader here knows of them, unlike `readDeclarations`. It refuses a body with braces or comments
outside of both, and one that leaves a quotation or a parenthesis open. Main statements: the pieces
of a body are joined by the semicolons outside (`pieces?_eq_some_iff`), a written declaration is
read back (`declaration?_writtenPiece`), and where no value holds a semicolon and no comment stands
in the body the two readers agree (`readDeclarations_of_declarations?`).
-/
namespace Restyle.Sheet

/-- What encloses a part of a value. -/
inductive Fence where
  /-- Double quotation marks. -/
  | double
  /-- Single quotation marks. -/
  | single
  /-- Parentheses. -/
  | paren
deriving DecidableEq, Repr

namespace Fence

/-- The fence that a character opens. -/
def opened? (c : CodePoint) : Option Fence :=
  if c = '\x22' then some .double
  else if c = '\x27' then some .single
  else if c = '(' then some .paren
  else none

/-- The character that closes a fence. -/
def closer : Fence → CodePoint
  | .double => '\x22'
  | .single => '\x27'
  | .paren => ')'

end Fence

/-- Where a reader of values stands. -/
inductive Nesting where
  /-- Outside of all fences. -/
  | outside
  /-- Inside a fence and those around it; just behind a backslash or not. -/
  | inside (fence : Fence) (around : List Fence) (escaped : Bool)
deriving DecidableEq, Repr

namespace Nesting

/-- Where a reader stands after one more character. Inside a fence a backslash takes the next
character along; only parentheses hold other fences. -/
def step : Nesting → CodePoint → Nesting
  | .outside, c =>
    match Fence.opened? c with
    | none => .outside
    | some fence => .inside fence [] false
  | .inside fence around true, _ => .inside fence around false
  | .inside fence around false, c =>
    if c = '\x5c' then .inside fence around true
    else if c = fence.closer then
      match around with
      | [] => .outside
      | outer :: rest => .inside outer rest false
    else
      match fence, Fence.opened? c with
      | .paren, some inner => .inside inner (.paren :: around) false
      | _, _ => .inside fence around false

end Nesting

/-- Whether a character may not stand outside of all fences before another one: a brace, or the
beginning of a comment. -/
def isBarred (c : CodePoint) (next : Option CodePoint) : Bool :=
  c == '\x7b' || c == '\x7d' || (c == '/' && next == some (.char '*'))

/-- The pieces between the semicolons that stand outside of all fences. -/
def pieces? (here : Nesting) : Text → Option (List Text)
  | [] => if here = .outside then some [[]] else none
  | c :: rest =>
    if here = .outside ∧ c = ';' then (pieces? .outside rest).map ([] :: ·)
    else if here = .outside ∧ isBarred c rest.head? = true then none
    else
      match pieces? (here.step c) rest with
      | some (first :: others) => some ((c :: first) :: others)
      | _ => none

/-- The declaration that a piece states: a name without fences, a colon and a value. -/
def declaration? (piece : Text) : Option (Text × Text) :=
  match Text.cut? ':' piece with
  | none => none
  | some (name, value) =>
    if (Text.trim name).isEmpty || name.any fun c => (Fence.opened? c).isSome then none
    else some (Text.trim name, Text.trim value)

/-- The declarations of a body that is a list of them: every piece that is not blank states
one. -/
def declarations? (body : Text) : Option (List (Text × Text)) :=
  match pieces? .outside body with
  | none => none
  | some pieces =>
    if pieces.all fun piece => Text.isBlankText piece || (declaration? piece).isSome then
      some (pieces.filterMap declaration?)
    else none

/-- A text is a single piece when it is read from a place. -/
def Solid (here : Nesting) : Text → Prop
  | [] => here = .outside
  | c :: rest =>
    (here = .outside → c ≠ ';' ∧ isBarred c rest.head? = false) ∧ Solid (here.step c) rest

variable {here : Nesting} {text piece body : Text}

/-- Only a star makes a slash the beginning of a comment. -/
theorem isBarred_append (c : CodePoint) (rest : Text) {d : CodePoint} (other : d ≠ '*')
    (more : Text) :
    isBarred c (rest ++ d :: more).head? = isBarred c rest.head? := by
  cases rest with
  | nil => simp [isBarred, other]
  | cons e rest => rfl

/-- Pieces with a semicolon before each one but the first. -/
def joined (first : Text) (others : List Text) : Text := first ++ others.flatMap (.char ';' :: ·)

/-- What follows a piece does not begin a comment with its end. -/
theorem isBarred_joined (c : CodePoint) (first : Text) (others : List Text) :
    isBarred c (joined first others).head? = isBarred c first.head? := by
  cases others with
  | nil => simp [joined]
  | cons piece rest =>
    rw [joined, List.flatMap_cons, List.cons_append]
    exact isBarred_append c first (by decide) _

/-- A solid piece goes before what is read behind it. -/
theorem pieces?_joined_of {others : List Text}
    (base : pieces? .outside (joined [] others) = some ([] :: others)) {first : Text}
    (whole : Solid here first) : pieces? here (joined first others) = some (first :: others) := by
  induction first generalizing here with
  | nil =>
    rw [Solid] at whole
    rw [whole, base]
  | cons c rest ih =>
    obtain ⟨free, later⟩ := whole
    have plain : ¬ (here = .outside ∧ c = ';') := fun both => (free both.1).1 both.2
    have passed : ¬ (here = .outside ∧ isBarred c (joined rest others).head? = true) := by
      rw [isBarred_joined]
      intro both
      simp [(free both.1).2] at both
    show pieces? here (c :: joined rest others) = _
    rw [pieces?, if_neg plain, if_neg passed, ih later]

/-- Solid pieces with semicolons between them are read as these pieces. -/
theorem pieces?_joined {first : Text} {others : List Text} (whole : Solid here first)
    (each : ∀ piece ∈ others, Solid .outside piece) :
    pieces? here (joined first others) = some (first :: others) := by
  -- only the first piece may begin inside of a fence, so the others go by themselves
  refine pieces?_joined_of ?_ whole
  clear whole
  induction others with
  | nil => rfl
  | cons piece rest ih =>
    have inner := ih fun other listed => each other (by simp [listed])
    show pieces? .outside (.char ';' :: joined piece rest) = _
    rw [pieces?, if_pos ⟨rfl, rfl⟩, pieces?_joined_of inner (each piece (by simp)), Option.map_some]

/-- What is read are solid pieces with semicolons between them. -/
theorem exists_of_pieces? {pieces : List Text} (found : pieces? here text = some pieces) :
    ∃ first others, pieces = first :: others ∧ text = joined first others ∧ Solid here first ∧
      ∀ piece ∈ others, Solid .outside piece := by
  fun_induction pieces? here text generalizing pieces with
  | case1 =>
    simp only [Option.some.injEq] at found
    exact ⟨[], [], found.symm, rfl, rfl, by simp⟩
  | case2 => simp at found
  | case3 here c rest ends ih =>
    obtain ⟨rfl, rfl⟩ := ends
    obtain ⟨later, read, rfl⟩ := Option.map_eq_some_iff.1 found
    obtain ⟨first, others, rfl, whole, solid, each⟩ := ih read
    refine ⟨[], first :: others, rfl, by rw [whole]; rfl, rfl, fun piece listed => ?_⟩
    rcases List.mem_cons.1 listed with rfl | listed
    · exact solid
    · exact each piece listed
  | case4 => simp at found
  | case5 here c rest plain passed first others read ih =>
    simp only [Option.some.injEq] at found
    obtain ⟨first', others', same, whole, solid, each⟩ := ih read
    obtain ⟨rfl, rfl⟩ := List.cons.inj same
    refine ⟨c :: first, others, found.symm, by rw [whole]; rfl,
      ⟨fun open_ => ⟨?_, ?_⟩, solid⟩, each⟩
    · exact fun semicolon => plain ⟨open_, semicolon⟩
    · rw [whole, isBarred_joined] at passed
      simpa [open_] using passed
  | case6 => simp at found

/-- A body is read as pieces exactly when they are solid and it joins them with semicolons. -/
theorem pieces?_eq_some_iff {first : Text} {others : List Text} :
    pieces? .outside body = some (first :: others) ↔
      body = joined first others ∧ ∀ piece ∈ first :: others, Solid .outside piece := by
  constructor
  · intro found
    obtain ⟨first', others', same, whole, solid, each⟩ := exists_of_pieces? found
    obtain ⟨rfl, rfl⟩ := List.cons.inj same
    refine ⟨whole, fun piece listed => ?_⟩
    rcases List.mem_cons.1 listed with rfl | listed
    · exact solid
    · exact each piece listed
  · rintro ⟨rfl, each⟩
    exact pieces?_joined (each first (by simp)) fun piece listed => each piece (by simp [listed])

/-- Pieces that hold no semicolon are those of a split at semicolons. -/
theorem split_joined {first : Text} {others : List Text}
    (plain : ∀ piece ∈ first :: others, .char ';' ∉ piece) :
    Text.split (· = .char ';') (joined first others) = first :: others := by
  have single : ∀ piece : Text, .char ';' ∉ piece → Text.split (· = .char ';') piece = [piece] :=
    fun piece free => Text.split_eq_singleton fun c held =>
      decide_eq_false fun same => free (same ▸ held)
  induction others generalizing first with
  | nil => rw [joined, List.flatMap_nil, List.append_nil, single first (plain first (by simp))]
  | cons piece rest ih =>
    have inner := ih fun other listed => plain other (List.mem_cons_of_mem _ listed)
    rw [joined, List.flatMap_cons, List.cons_append, Text.split_append_cons (by simp),
      single first (plain first (by simp))]
    show [first] ++ Text.split (· = .char ';') (joined piece rest) = _
    rw [inner, List.singleton_append]

/-- A blank is no fence, no semicolon and bars nothing. -/
theorem of_isBlank {c : CodePoint} (blank : Text.isBlank c = true) :
    Fence.opened? c = none ∧ c ≠ ';' ∧ c ≠ ':' ∧ c ≠ '*' ∧ c ≠ '\x5c' ∧
      (∀ next, isBarred c next = false) ∧ ∀ fence : Fence, c ≠ fence.closer := by
  have other : ∀ d, Text.isBlank d = false → c ≠ d := by
    rintro d free rfl
    rw [blank] at free
    simp at free
  refine ⟨?_, other _ (by decide), other _ (by decide), other _ (by decide), other _ (by decide),
    fun next => ?_, fun fence => ?_⟩
  · simp [Fence.opened?, other '\x22' (by decide), other '\x27' (by decide),
      other '(' (by decide)]
  · simp [isBarred, other '\x7b' (by decide), other '\x7d' (by decide), other '/' (by decide)]
  · cases fence <;> exact other _ (by decide)

/-- A blank leads neither into a fence nor out of one. -/
theorem Nesting.step_blank {c : CodePoint} (blank : Text.isBlank c = true) (here : Nesting) :
    here.step c = .outside ↔ here = .outside := by
  obtain ⟨opens, _, _, _, slash, _, closes⟩ := of_isBlank blank
  cases here with
  | outside => simp [step, opens]
  | inside fence around escaped =>
    cases escaped <;> cases fence <;> simp [step, opens, slash, closes]

/-- Blanks in front of a piece do not count. -/
theorem solid_cons_blank {c : CodePoint} (blank : Text.isBlank c = true) (text : Text) :
    Solid .outside (c :: text) ↔ Solid .outside text := by
  obtain ⟨_, semicolon, _, _, _, passed, _⟩ := of_isBlank blank
  have still := (Nesting.step_blank blank .outside).2 rfl
  simp [Solid, semicolon, passed, still]

/-- Blanks behind a piece do not count. -/
theorem solid_append_blank {blanks : Text} (blank : ∀ c ∈ blanks, Text.isBlank c = true)
    (here : Nesting) (text : Text) : Solid here (text ++ blanks) ↔ Solid here text := by
  induction text generalizing here with
  | nil =>
    induction blanks generalizing here with
    | nil => rfl
    | cons c rest ih =>
      obtain ⟨_, semicolon, _, _, _, passed, _⟩ := of_isBlank (blank c (by simp))
      have inner := ih (fun d held => blank d (by simp [held])) (here.step c)
      rw [List.nil_append] at inner ⊢
      simp [Solid, inner, Nesting.step_blank (blank c (by simp)), semicolon, passed]
  | cons c rest ih =>
    have next : isBarred c (rest ++ blanks).head? = isBarred c rest.head? := by
      cases blanks with
      | nil => rw [List.append_nil]
      | cons d more => exact isBarred_append c rest (of_isBlank (blank d (by simp))).2.2.2.1 more
    rw [List.cons_append, Solid, Solid, next, ih]

/-- A piece is solid exactly when it is so without the blanks around it. -/
theorem solid_trim (text : Text) : Solid .outside (Text.trim text) ↔ Solid .outside text := by
  obtain ⟨front, back, whole, before, behind⟩ := Text.exists_trim text
  have start : ∀ blanks more : Text, (∀ c ∈ blanks, Text.isBlank c = true) →
      (Solid .outside (blanks ++ more) ↔ Solid .outside more) := by
    intro blanks more blank
    induction blanks with
    | nil => rfl
    | cons c rest ih =>
      rw [List.cons_append, solid_cons_blank (blank c (by simp)),
        ih fun d held => blank d (by simp [held])]
  rw [whole, start _ _ before, solid_append_blank behind]
  rw [← whole]

/-- What stands before a colon without fences is solid by itself. -/
theorem solid_append_colon {name : Text} (free : ∀ c ∈ name, Fence.opened? c = none)
    (value : Text) :
    Solid .outside (name ++ .char ':' :: value) ↔ Solid .outside name ∧ Solid .outside value := by
  induction name with
  | nil => simp [Solid, isBarred, Nesting.step, Fence.opened?]
  | cons c rest ih =>
    have still : Nesting.outside.step c = .outside := by simp [Nesting.step, free c (by simp)]
    rw [List.cons_append, Solid, Solid, still, ih fun d held => free d (by simp [held]),
      isBarred_append c rest (by decide) value, and_assoc]

/-- A value that a change may give: without semicolons, braces, fences and comments. -/
def Tame (value : Text) : Prop :=
  (∀ c ∈ value, c ≠ ';' ∧ c ≠ '\x7b' ∧ c ≠ '\x7d' ∧ c ≠ ')' ∧ Fence.opened? c = none) ∧
    Text.occursIn "/*".toText value = false

instance (value : Text) : Decidable (Tame value) :=
  -- the characters of the value are gone through, not all characters
  @instDecidableAnd _ _ (List.decidableBAll _ value) inferInstance

/-- A tame value is solid. -/
theorem Tame.solid (tame : Tame text) : Solid .outside text := by
  obtain ⟨plain, bare⟩ := tame
  induction text with
  | nil => rfl
  | cons c rest ih =>
    rw [Text.occursIn, Bool.or_eq_false_iff] at bare
    obtain ⟨semicolon, opens, closes, _, fence⟩ := plain c (by simp)
    have still : Nesting.outside.step c = .outside := by simp [Nesting.step, fence]
    have passed : isBarred c rest.head? = false := by
      cases rest with
      | nil => simp [isBarred, opens, closes]
      | cons d more =>
        have apart : ¬ (c = '/' ∧ d = '*') := by
          rintro ⟨rfl, rfl⟩
          simp [String.toText] at bare
        simpa [isBarred, opens, closes] using fun slash star => apart ⟨slash, star⟩
    refine ⟨fun _ => ⟨semicolon, passed⟩, ?_⟩
    rw [still]
    exact ih (fun d held => plain d (by simp [held])) bare.2

/-- A declaration that is read back when it is written. -/
structure Writable (entry : Text × Text) : Prop where
  /-- The name has no blanks around it. -/
  trimmed : Text.trim entry.1 = entry.1
  /-- The name is not empty. -/
  given : entry.1 ≠ []
  /-- The name holds no colon. -/
  colon : .char ':' ∉ entry.1
  /-- The name holds no fence. -/
  free : ∀ c ∈ entry.1, Fence.opened? c = none
  /-- Nothing in the name ends a declaration. -/
  name : Solid .outside entry.1
  /-- Nothing in the value ends a declaration. -/
  value : Solid .outside entry.2

/-- A declaration that a solid piece states can be written, and its value has no blanks around
it. -/
theorem writable_of_declaration? {entry : Text × Text} (solid : Solid .outside piece)
    (stated : declaration? piece = some entry) : Writable entry ∧ Text.trim entry.2 = entry.2 := by
  rw [declaration?] at stated
  split at stated
  · simp at stated
  · rename_i name value cut
    obtain ⟨whole, first⟩ := Text.eq_of_cut? cut
    split at stated
    · simp at stated
    · rename_i proper
      simp only [Bool.or_eq_true, List.isEmpty_iff, List.any_eq_true, not_or, not_exists, not_and,
        Bool.not_eq_true, Option.isSome_eq_false_iff, Option.isNone_iff_eq_none] at proper
      simp only [Option.some.injEq] at stated
      subst stated
      rw [whole, solid_append_colon proper.2] at solid
      exact ⟨⟨Text.trim_trim name, proper.1, fun held => first (Text.mem_of_mem_trim held),
        fun c held => proper.2 c (Text.mem_of_mem_trim held), (solid_trim name).2 solid.1,
        (solid_trim value).2 solid.2⟩, Text.trim_trim value⟩

/-- The piece that a written declaration is read from, behind the end of the line before. -/
def writtenPiece (entry : Text × Text) : Text :=
  [.char '\n', .char ' ', .char ' '] ++ (entry.1 ++ .char ':' :: .char ' ' :: entry.2)

/-- A written declaration is a solid piece. -/
theorem Writable.solid {entry : Text × Text} (writable : Writable entry) :
    Solid .outside (writtenPiece entry) := by
  show Solid .outside
    (.char '\n' :: .char ' ' :: .char ' ' :: (entry.1 ++ .char ':' :: .char ' ' :: entry.2))
  rw [solid_cons_blank (by decide), solid_cons_blank (by decide), solid_cons_blank (by decide),
    solid_append_colon writable.free, solid_cons_blank (by decide)]
  exact ⟨writable.name, writable.value⟩

/-- A written declaration is read back, its value without the blanks around it. -/
theorem Writable.declaration?_eq {entry : Text × Text} (writable : Writable entry) :
    declaration? (writtenPiece entry) = some (entry.1, Text.trim entry.2) := by
  have blank : ∀ c ∈ ([.char '\n', .char ' ', .char ' '] : Text), Text.isBlank c = true :=
    List.all_eq_true.1 (by decide)
  have first : .char ':' ∉ [.char '\n', .char ' ', .char ' '] ++ entry.1 := by simp [writable.colon]
  have name : Text.trim ([.char '\n', .char ' ', .char ' '] ++ entry.1) = entry.1 := by
    rw [Text.trim_append_left blank, writable.trimmed]
  have single : ∀ c ∈ ([.char ' '] : Text), Text.isBlank c = true :=
    List.all_eq_true.1 (by decide)
  have value : Text.trim (.char ' ' :: entry.2) = Text.trim entry.2 :=
    Text.trim_append_left single entry.2
  have free : (((['\n', ' ', ' '] : Text) ++ entry.1).any fun c => (Fence.opened? c).isSome) =
    false := by
    rw [List.any_eq_false]
    intro c held
    rcases List.mem_append.1 held with held | held
    · simp [(of_isBlank (blank c held)).1]
    · simp [writable.free c held]
  rw [declaration?, writtenPiece, ← List.append_assoc, Text.cut?_append _ first]
  simp only [name, value, free]
  simp [writable.given]

/-- Written declarations behind the end of a line are joined pieces, the last one the end of a
line. -/
theorem exists_joined (entries : List (Text × Text)) :
    ∃ first others, entries.map writtenPiece ++ [[.char '\n']] = first :: others ∧
      .char '\n' :: entries.flatMap writeDeclaration = joined first others := by
  induction entries with
  | nil => exact ⟨[.char '\n'], [], rfl, rfl⟩
  | cons entry rest ih =>
    obtain ⟨first, others, listed, whole⟩ := ih
    refine ⟨writtenPiece entry, first :: others,
      by rw [List.map_cons, List.cons_append, listed], ?_⟩
    have step : joined (writtenPiece entry) (first :: others) =
        writtenPiece entry ++ .char ';' :: joined first others := rfl
    rw [step, ← whole, List.flatMap_cons]
    simp [writeDeclaration, writtenPiece]

/-- Written declarations are read back. -/
theorem declarations?_written {entries : List (Text × Text)}
    (each : ∀ entry ∈ entries, Writable entry) :
    declarations? (.char '\n' :: entries.flatMap writeDeclaration) =
      some (entries.map fun entry => (entry.1, Text.trim entry.2)) := by
  obtain ⟨first, others, listed, whole⟩ := exists_joined entries
  have last : declaration? [.char '\n'] = none := by decide +kernel
  have pieces : pieces? .outside (joined first others) = some (first :: others) := by
    refine pieces?_eq_some_iff.2 ⟨rfl, fun piece held => ?_⟩
    rw [← listed, List.mem_append, List.mem_map, List.mem_singleton] at held
    rcases held with ⟨entry, inside, rfl⟩ | rfl
    · exact (each entry inside).solid
    · rw [solid_cons_blank (by decide)]
      rfl
  have stated : (first :: others).all (fun piece =>
      Text.isBlankText piece || (declaration? piece).isSome) = true := by
    rw [← listed, List.all_append, List.all_map, Bool.and_eq_true]
    refine ⟨List.all_eq_true.2 fun entry inside => ?_, by decide⟩
    simp [(each entry inside).declaration?_eq]
  have read : (first :: others).filterMap declaration? =
      entries.map fun entry => (entry.1, Text.trim entry.2) := by
    rw [← listed, List.filterMap_append, List.filterMap_map, List.filterMap_cons, last]
    simp only [List.filterMap_nil, List.append_nil]
    rw [← List.filterMap_eq_map]
    exact List.filterMap_congr fun entry inside => (each entry inside).declaration?_eq
  rw [declarations?, whole, pieces]
  simp only [stated, if_true, read]

/-- What keeps the reader of bodies from losing a declaration: no value is empty or holds a
semicolon, and no comment stands in a value. -/
structure Bare (body : Text) (declared : List (Text × Text)) : Prop where
  /-- No value is empty. -/
  given : ∀ entry ∈ declared, entry.2 ≠ []
  /-- No value holds a semicolon. -/
  plain : ∀ entry ∈ declared, .char ';' ∉ entry.2
  /-- No comment stands in the body. -/
  uncommented : withoutComments body = body

/-- The declarations of a body are those that its solid pieces state. -/
theorem exists_of_declarations? {declared : List (Text × Text)}
    (read : declarations? body = some declared) :
    ∃ first others, body = joined first others ∧
      (∀ piece ∈ first :: others, Solid .outside piece ∧
        (Text.isBlankText piece = true ∨ ∃ entry, declaration? piece = some entry)) ∧
      (first :: others).filterMap declaration? = declared := by
  rw [declarations?] at read
  split at read
  · simp at read
  · rename_i pieces found
    split at read
    · rename_i stated
      obtain ⟨first, others, rfl, _⟩ := exists_of_pieces? found
      obtain ⟨whole, solid⟩ := pieces?_eq_some_iff.1 found
      rw [List.all_eq_true] at stated
      refine ⟨first, others, whole, fun piece held => ⟨solid piece held, ?_⟩, Option.some.inj read⟩
      have known := stated piece held
      rw [Bool.or_eq_true, Option.isSome_iff_exists] at known
      exact known
    · simp at read

/-- A solid text without fences holds no semicolon. -/
theorem not_mem_of_solid (free : ∀ c ∈ text, Fence.opened? c = none)
    (solid : Solid .outside text) : .char ';' ∉ text := by
  induction text with
  | nil => simp
  | cons c rest ih =>
    obtain ⟨here, later⟩ := solid
    have still : Nesting.outside.step c = .outside := by simp [Nesting.step, free c (by simp)]
    rw [still] at later
    rw [List.mem_cons, not_or]
    exact ⟨(here rfl).1.symm, ih (fun d held => free d (by simp [held])) later⟩

/-- A character that is no blank stands in a text where it stands when that is trimmed. -/
theorem not_mem_of_not_mem_trim {c : CodePoint} (seen : Text.isBlank c = false)
    (absent : c ∉ Text.trim text) : c ∉ text := by
  obtain ⟨front, back, whole, before, behind⟩ := Text.exists_trim text
  have apart : ∀ blanks : Text, (∀ d ∈ blanks, Text.isBlank d = true) → c ∉ blanks := by
    intro blanks blank held
    rw [blank c held] at seen
    simp at seen
  rw [whole, List.mem_append, List.mem_append]
  simp [apart front before, absent, apart back behind]

/-- A piece with a bare declaration, or a blank one, holds no semicolon and is read the same with
and without knowledge of fences. -/
theorem of_bare_piece (solid : Solid .outside piece)
    (known : Text.isBlankText piece = true ∨ ∃ entry, declaration? piece = some entry)
    (bare : ∀ entry, declaration? piece = some entry → entry.2 ≠ [] ∧ .char ';' ∉ entry.2) :
    .char ';' ∉ piece ∧ readDeclaration? piece = declaration? piece := by
  rcases known with blank | ⟨entry, stated⟩
  · rw [Text.isBlankText, List.all_eq_true] at blank
    have absent : ∀ c, Text.isBlank c = false → c ∉ piece := by
      intro c seen held
      rw [blank c held] at seen
      simp at seen
    have uncut : Text.cut? ':' piece = none := Text.cut?_eq_none_iff.2 (absent _ (by decide))
    exact ⟨absent _ (by decide), by rw [readDeclaration?, declaration?, uncut]⟩
  · obtain ⟨given, plain⟩ := bare entry stated
    -- the first colon parts the piece for both readers; a name without fences hides no semicolon
    have same := stated
    rw [declaration?] at stated
    split at stated
    · simp at stated
    · rename_i name value cut
      obtain ⟨whole, first⟩ := Text.eq_of_cut? cut
      split at stated
      · simp at stated
      · rename_i proper
        simp only [Bool.or_eq_true, List.isEmpty_iff, List.any_eq_true, not_or, not_exists,
          not_and, Bool.not_eq_true, Option.isSome_eq_false_iff,
          Option.isNone_iff_eq_none] at proper
        simp only [Option.some.injEq] at stated
        subst stated
        rw [whole, solid_append_colon proper.2] at solid
        have valued : .char ';' ∉ value := not_mem_of_not_mem_trim (by decide) plain
        refine ⟨?_, ?_⟩
        · rw [whole]
          simp [not_mem_of_solid proper.2 solid.1, valued]
        · rw [same, readDeclaration?, cut]
          simp [proper.1, given]

/-- A body with bare declarations is read the same with and without knowledge of fences. -/
theorem readDeclarations_of_declarations? {declared : List (Text × Text)}
    (read : declarations? body = some declared) (bare : Bare body declared) :
    readDeclarations body = .ofList declared := by
  obtain ⟨first, others, whole, each, stated⟩ := exists_of_declarations? read
  have pieces : ∀ piece ∈ first :: others,
      .char ';' ∉ piece ∧ readDeclaration? piece = declaration? piece := by
    intro piece held
    obtain ⟨solid, known⟩ := each piece held
    refine of_bare_piece solid known fun entry said => ?_
    have listed : entry ∈ declared := stated ▸ List.mem_filterMap.2 ⟨piece, held, said⟩
    exact ⟨bare.given entry listed, bare.plain entry listed⟩
  rw [readDeclarations, bare.uncommented, whole,
    split_joined fun piece held => (pieces piece held).1,
    List.filterMap_congr fun piece held => (pieces piece held).2, stated]

end Restyle.Sheet
