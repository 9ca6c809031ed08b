import Restyle.Proofs.Sheet.Filler
import Restyle.Proofs.Text.Cut

/-!
# Scanning in parts

A scan goes through a text block by block and forgets what it has passed: its blocks up to a
point do not depend on what follows, and what follows is scanned as a text of its own, shifted
by the length of what was passed. Main statements: the rules of a text are those of its first
block and the shifted rules of the rest (`rules_of_opening?`), and a text with more behind it
keeps its rules (`rules_append`).
-/
namespace Restyle

namespace Rule

/-- A rule moved by a distance. -/
def shift (distance : Int) (rule : Rule) : Rule :=
  { rule with
    start := rule.start + distance
    stop := rule.stop + distance
    ordered := by
      have := rule.ordered
      omega }

/-- A shift by nothing changes nothing. -/
@[simp] theorem shift_zero (rule : Rule) : rule.shift 0 = rule := by
  simp [shift]

/-- Two shifts are one. -/
@[simp] theorem shift_shift (first second : Int) (rule : Rule) :
    (rule.shift first).shift second = rule.shift (first + second) := by
  simp [shift, Int.add_assoc]

/-- All rules shifted twice are shifted once. -/
theorem map_shift_shift (first second : Int) (rules : List Rule) :
    (rules.map (shift first)).map (shift second) = rules.map (shift (first + second)) := by
  simp [Function.comp_def]

/-- No rule moves when all move by nothing. -/
theorem map_shift_zero (rules : List Rule) : rules.map (shift 0) = rules :=
  List.map_id'' shift_zero rules

end Rule

namespace Sheet

/-- The text of a block with its lead. -/
def Opening.whole (parts : Opening) : Text :=
  parts.lead ++ .char '\x7b' :: (parts.body ++ [.char '\x7d'])

/-- The rule that the first block of a text states. -/
def Opening.rule? (parts : Opening) : Option Rule :=
  Block.rule?
    ⟨headOf parts.lead, parts.body, parts.lead.length - (headOf parts.lead).length,
      parts.lead.length + parts.body.length + 2, by omega⟩

/-- What is left of a text after its last block. -/
def tail (text : Text) : Text :=
  match _found : opening? text with
  | none => text
  | some parts => tail parts.rest
termination_by text.length
decreasing_by exact length_of_opening? _found

/-- A lead is leading filler and the head. -/
theorem exists_headOf (lead : Text) : ∃ front, lead = front ++ headOf lead ∧ headOf front = [] := by
  obtain ⟨before, whole, settled⟩ := Text.exists_afterLast '\x7d' lead
  obtain ⟨filler, parts, closed⟩ := exists_filler (Text.afterLast '\x7d' lead)
  have free : .char '\x7d' ∉ filler := by
    intro held
    exact Text.not_mem_afterLast '\x7d' lead (parts ▸ List.mem_append_left _ held)
  refine ⟨before ++ filler, ?_, ?_⟩
  · rw [headOf, List.append_assoc, ← parts, ← whole]
  · rw [headOf, Text.afterLast_append before free, settled, List.nil_append, closed]

/-- What follows a lead that is all filler is its head. -/
theorem headOf_append {front more : Text} (closed : headOf front = [])
    (plain : .char '\x7d' ∉ more) :
    headOf (front ++ more) = skipFiller more := by
  rw [headOf, Text.afterLast_append front plain]
  exact skipFiller_append more closed

/-- The head of a block is no longer than its lead. -/
theorem length_headOf_le (lead : Text) : (headOf lead).length ≤ lead.length := by
  obtain ⟨front, whole, _⟩ := exists_headOf lead
  have lengths := congrArg List.length whole
  rw [List.length_append] at lengths
  omega

/-- The head of a block holds no closing brace. -/
theorem not_mem_headOf (lead : Text) : .char '\x7d' ∉ headOf lead := by
  obtain ⟨filler, parts, _⟩ := exists_filler (Text.afterLast '\x7d' lead)
  intro held
  exact Text.not_mem_afterLast '\x7d' lead (parts ▸ List.mem_append_right _ held)

/-- The first block of a text opens at its first opening brace and ends at the first closing
brace after that. -/
theorem opening?_eq_some_iff {text : Text} {parts : Opening} :
    opening? text = some parts ↔
      text = parts.lead ++ .char '\x7b' :: (parts.body ++ .char '\x7d' :: parts.rest) ∧
        .char '\x7b' ∉ parts.lead ∧ .char '\x7d' ∉ parts.body := by
  constructor
  · intro found
    refine ⟨eq_of_opening? found, ?_⟩
    unfold opening? at found
    split at found
    · simp at found
    · rename_i lead inside outer
      split at found
      · simp at found
      · rename_i body rest inner
        simp only [Option.some.injEq] at found
        subst found
        exact ⟨(Text.eq_of_cut? outer).2, (Text.eq_of_cut? inner).2⟩
  · rintro ⟨whole, first, closing⟩
    simp only [opening?, whole, Text.cut?_append _ first, Text.cut?_append _ closing]

/-- The first block of a text is where it is, whatever follows the text. -/
theorem opening?_append {text : Text} {parts : Opening} (more : Text)
    (found : opening? text = some parts) :
    opening? (text ++ more) = some ⟨parts.lead, parts.body, parts.rest ++ more⟩ := by
  obtain ⟨whole, first, closing⟩ := opening?_eq_some_iff.1 found
  refine opening?_eq_some_iff.2 ⟨?_, first, closing⟩
  rw [whole]
  simp

/-- A text without an opening brace has no block. -/
theorem opening?_eq_none {text : Text} (plain : .char '\x7b' ∉ text) : opening? text = none := by
  rw [opening?, Text.cut?_eq_none_iff.2 plain]

/-- A text has no block exactly when no closing brace stands behind an opening one. -/
theorem opening?_eq_none_iff {text : Text} :
    opening? text = none ↔
      ∀ lead inside, text = lead ++ .char '\x7b' :: inside → .char '\x7d' ∉ inside := by
  constructor
  · intro unopened lead inside whole closes
    -- the block that is found may open at an earlier brace
    have opens : .char '\x7b' ∈ lead ++ [.char '\x7b'] := by simp
    obtain ⟨front, back, parted, first⟩ := List.eq_append_cons_of_mem opens
    have behind : .char '\x7d' ∈ back ++ inside := List.mem_append_right _ closes
    obtain ⟨body, rest, ended, closing⟩ := List.eq_append_cons_of_mem behind
    have opened : opening? text = some ⟨front, body, rest⟩ := by
      refine opening?_eq_some_iff.2 ⟨?_, first, closing⟩
      rw [whole, ← ended, ← List.singleton_append, ← List.append_assoc, parted]
      simp
    rw [unopened] at opened
    contradiction
  · intro unclosed
    by_contra held
    obtain ⟨parts, opened⟩ := Option.ne_none_iff_exists'.1 held
    exact unclosed _ _ (eq_of_opening? opened) (by simp)

/-- A text with a first block is its block and the rest. -/
theorem whole_append_rest {text : Text} {parts : Opening} (found : opening? text = some parts) :
    text = parts.whole ++ parts.rest := by
  rw [eq_of_opening? found]
  simp [Opening.whole]

/-- The length of a block with its lead. -/
theorem Opening.length_whole (parts : Opening) :
    parts.whole.length = parts.lead.length + parts.body.length + 2 := by
  simp only [Opening.whole, List.length_append, List.length_cons, List.length_nil]
  omega

/-- A text without a block has no blocks. -/
theorem blocksFrom_of_none (offset : Nat) {text : Text} (found : opening? text = none) :
    blocksFrom offset text = [] := by
  rw [blocksFrom.eq_def]
  split
  · rfl
  · rename_i parts other
    rw [found] at other
    contradiction

/-- The first block of a text starts before it stops. -/
theorem Opening.start_lt_stop (offset : Nat) (parts : Opening) :
    offset + parts.lead.length - (headOf parts.lead).length <
      offset + parts.lead.length + parts.body.length + 2 := by omega

/-- The blocks of a text are its first block and those of the rest. -/
theorem blocksFrom_of_some (offset : Nat) {text : Text} {parts : Opening}
    (found : opening? text = some parts) :
    blocksFrom offset text =
      ⟨headOf parts.lead, parts.body, offset + parts.lead.length - (headOf parts.lead).length,
        offset + parts.lead.length + parts.body.length + 2, parts.start_lt_stop offset⟩ ::
      blocksFrom (offset + parts.lead.length + parts.body.length + 2) parts.rest := by
  rw [blocksFrom.eq_def]
  split
  · rename_i other
    rw [found] at other
    contradiction
  · rename_i same other
    rw [found, Option.some.injEq] at other
    subst other
    rfl

/-- No brace stands in the head of a block, and no closing brace in its body. -/
theorem Block.not_mem_of_mem_blocksFrom {offset : Nat} {text : Text} {block : Block}
    (listed : block ∈ blocksFrom offset text) :
    .char '\x7b' ∉ block.head ∧ .char '\x7d' ∉ block.head ∧ .char '\x7d' ∉ block.body := by
  induction offset, text using blocksFrom.induct with
  | case1 offset text found => simp [blocksFrom_of_none _ found] at listed
  | case2 offset text parts found _ _ ih =>
    rw [blocksFrom_of_some _ found, List.mem_cons] at listed
    rcases listed with rfl | later
    · obtain ⟨_, first, closing⟩ := opening?_eq_some_iff.1 found
      obtain ⟨front, whole, _⟩ := exists_headOf parts.lead
      exact ⟨fun held => first (whole ▸ List.mem_append_right _ held), not_mem_headOf _, closing⟩
    · exact ih later

/-- A block further on states the same rule further on. -/
theorem Block.rule?_add (distance start stop : Nat) (head body : Text) (ordered : start < stop)
    (moved : distance + start < distance + stop) :
    Block.rule? ⟨head, body, distance + start, distance + stop, moved⟩ =
      (Block.rule? ⟨head, body, start, stop, ordered⟩).map (Rule.shift distance) := by
  simp only [Block.rule?]
  split
  · rfl
  · simp [Rule.shift, Int.add_comm]

/-- The rules of the blocks of a text further on are the same rules further on. -/
theorem filterMap_blocksFrom_add (distance offset : Nat) (text : Text) :
    (blocksFrom (distance + offset) text).filterMap Block.rule? =
      ((blocksFrom offset text).filterMap Block.rule?).map (Rule.shift distance) := by
  induction offset, text using blocksFrom.induct with
  | case1 offset text found => simp [blocksFrom_of_none _ found]
  | case2 offset text parts found _ _ ih =>
    have bound := length_headOf_le parts.lead
    have start : distance + offset + parts.lead.length - (headOf parts.lead).length =
        distance + (offset + parts.lead.length - (headOf parts.lead).length) := by omega
    have stop : distance + offset + parts.lead.length + parts.body.length + 2 =
        distance + (offset + parts.lead.length + parts.body.length + 2) := by omega
    rw [blocksFrom_of_some _ found, blocksFrom_of_some _ found, List.filterMap_cons,
      List.filterMap_cons]
    simp only [start, stop]
    rw [Block.rule?_add _ _ _ _ _ (by omega) (by omega), ih]
    cases Block.rule? _ <;> rfl

/-- The rules of a text that starts at an offset are its rules, moved there. -/
theorem filterMap_blocksFrom (offset : Nat) (text : Text) :
    (blocksFrom offset text).filterMap Block.rule? = (rules text).map (Rule.shift offset) := by
  exact filterMap_blocksFrom_add offset 0 text

/-- A text without a block has no rules. -/
theorem rules_of_opening?_none {text : Text} (found : opening? text = none) : rules text = [] := by
  rw [rules, blocksFrom_of_none 0 found, List.filterMap_nil]

/-- The rules of a text are those of its first block and of what follows it. -/
theorem rules_of_opening? {text : Text} {parts : Opening} (found : opening? text = some parts) :
    rules text = parts.rule?.toList ++
      (rules parts.rest).map (Rule.shift parts.whole.length) := by
  rw [rules, blocksFrom_of_some 0 found, List.filterMap_cons, filterMap_blocksFrom,
    Opening.length_whole]
  simp only [Nat.zero_add, Opening.rule?]
  cases Block.rule? _ <;> rfl

/-- A text without a block is all tail. -/
theorem tail_of_none {text : Text} (found : opening? text = none) : tail text = text := by
  rw [tail.eq_def]
  split
  · rfl
  · rename_i parts other
    rw [found] at other
    contradiction

/-- The tail of a text is that of what follows its first block. -/
theorem tail_of_some {text : Text} {parts : Opening} (found : opening? text = some parts) :
    tail text = tail parts.rest := by
  rw [tail.eq_def]
  split
  · rename_i other
    rw [found] at other
    contradiction
  · rename_i same other
    rw [found, Option.some.injEq] at other
    rw [other]

/-- No block closes in the tail of a text. -/
theorem opening?_tail (text : Text) : opening? (tail text) = none := by
  induction text using tail.induct with
  | case1 text found => rw [tail_of_none found, found]
  | case2 text parts found ih => rw [tail_of_some found, ih]

/-- More behind a text goes behind its tail. -/
theorem tail_append (text more : Text) : tail (text ++ more) = tail (tail text ++ more) := by
  induction text using tail.induct with
  | case1 text found => rw [tail_of_none found]
  | case2 text parts found ih =>
    rw [tail_of_some (opening?_append more found), tail_of_some found, ih]

/-- A text is what its scan passes, and its tail. -/
theorem exists_tail (text : Text) : ∃ passed, text = passed ++ tail text := by
  induction text using tail.induct with
  | case1 text found => exact ⟨[], by rw [tail_of_none found, List.nil_append]⟩
  | case2 text parts found ih =>
    obtain ⟨passed, whole⟩ := ih
    refine ⟨parts.whole ++ passed, ?_⟩
    rw [tail_of_some found, List.append_assoc, ← whole, ← whole_append_rest found]

/-- A text keeps its rules when more stands behind it, and its tail is scanned with that. -/
theorem rules_append (text more : Text) :
    rules (text ++ more) = rules text ++
      (rules (tail text ++ more)).map (Rule.shift (text.length - (tail text).length : Nat)) := by
  induction text using tail.induct with
  | case1 text found =>
    rw [tail_of_none found, rules_of_opening?_none found, Nat.sub_self, Int.natCast_zero,
      Rule.map_shift_zero, List.nil_append]
  | case2 text parts found ih =>
    obtain ⟨passed, whole⟩ := exists_tail parts.rest
    have rest := congrArg List.length whole
    have all := congrArg List.length (whole_append_rest found)
    rw [List.length_append] at rest all
    have moved : (text.length - (tail text).length : Nat) =
        (parts.rest.length - (tail text).length) + parts.whole.length := by
      rw [tail_of_some found]
      omega
    rw [rules_of_opening? (opening?_append more found), rules_of_opening? found, ih, moved,
      List.map_append, Rule.map_shift_shift, List.append_assoc, tail_of_some found]
    simp [Opening.whole, Opening.rule?]

end Sheet

end Restyle
