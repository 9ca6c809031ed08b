import Restyle.Proofs.Sheet.Revised
import Restyle.Proofs.Sheet.Update

/-!
# Spans of rules

Whatever a text holds, its scan passes blocks from left to right: each opens at the first brace
behind the one before it and stops at the first closing brace behind that. Main statement: the rules
of a text stand in it one behind the other, each with the span of its block and the selector that
this span begins with, and the only blocks without a rule are those whose head is empty or mentions
an at-sign (`rules_spanned`).
-/
namespace Restyle

namespace Text

/-- A text that begins with no blank begins with the same character when it is trimmed. -/
theorem head?_trim_of_not_blank {c : CodePoint} {rest : Text} (solid : isBlank c = false) :
    (trim (c :: rest)).head? = some c := by
  obtain ⟨front, back, whole, before, behind⟩ := exists_trim (c :: rest)
  cases front with
  | cons d front =>
    obtain ⟨rfl, _⟩ := List.cons.inj whole
    simp [before c (by simp)] at solid
  | nil =>
    cases kept : trim (c :: rest) with
    | nil =>
      rw [kept, List.nil_append, List.nil_append] at whole
      simp [behind c (by simp [← whole])] at solid
    | cons d kept' =>
      rw [kept] at whole
      obtain ⟨rfl, _⟩ := List.cons.inj whole
      rfl

end Text

namespace Sheet

variable {text head : Text} {offset : Nat} {block : Block} {blocks : List Block} {rule : Rule}

/-- What begins with no filler has none to be passed over. -/
theorem skipFiller_skipFiller (text : Text) : skipFiller (skipFiller text) = skipFiller text := by
  obtain ⟨filler, whole, closed⟩ := exists_filler text
  have passed := skipFiller_append (skipFiller text) closed
  rw [← whole] at passed
  exact passed.symm

/-- The selector of a head begins where the head does. -/
theorem head?_selector (solid : skipFiller head = head) :
    (Text.trim (withoutComments head)).head? = head.head? := by
  cases head with
  | nil => simp [withoutComments, Text.trim, Text.trimStart, Text.trimEnd]
  | cons c rest =>
    have shorter : ∀ later : Text, later.length ≤ rest.length → skipFiller later ≠ c :: rest := by
      intro later bound same
      obtain ⟨filler, whole, _⟩ := exists_filler later
      have sizes := congrArg List.length whole
      rw [same, List.length_append, List.length_cons] at sizes
      omega
    have seen : Text.isBlank c = false := by
      rw [← Bool.not_eq_true]
      intro blank
      exact shorter rest (Nat.le_refl _) (skipFiller_cons rest (.inl blank) ▸ solid)
    obtain ⟨kept, same⟩ : ∃ kept, withoutComments (c :: rest) = c :: kept := by
      by_cases opened : ∃ inside, c = '/' ∧ rest = .char '*' :: inside
      · obtain ⟨inside, rfl, rfl⟩ := opened
        cases closed : afterComment? inside with
        | none => exact ⟨_, withoutComments_unclosed closed⟩
        | some after =>
          have bound := length_of_afterComment? closed
          rw [skipFiller_comment closed] at solid
          refine absurd solid (shorter after ?_)
          rw [List.length_cons]
          omega
      · refine ⟨withoutComments rest, ?_⟩
        rw [withoutComments]
        exact fun inside slash star => opened ⟨inside, slash, star⟩
    rw [same, Text.head?_trim_of_not_blank seen]
    rfl

/-- A block stands in its text as its head, its braces and its body. -/
theorem Block.exists_around (listed : block ∈ blocksFrom offset text) :
    ∃ before after,
      text = before ++ (block.head ++ .char '\x7b' :: (block.body ++ .char '\x7d' :: after)) ∧
        block.start = offset + before.length ∧
        block.stop = block.start + block.head.length + block.body.length + 2 ∧
        skipFiller block.head = block.head := by
  induction offset, text using blocksFrom.induct with
  | case1 offset text found => simp [blocksFrom_of_none _ found] at listed
  | case2 offset text parts found _ _ ih =>
    obtain ⟨front, parted, _⟩ := exists_headOf parts.lead
    have sizes := congrArg List.length parted
    rw [List.length_append] at sizes
    have whole := whole_append_rest found
    have size := parts.length_whole
    rw [blocksFrom_of_some _ found, List.mem_cons] at listed
    rcases listed with rfl | later
    · refine ⟨front, parts.rest, ?_, ?_, ?_, skipFiller_skipFiller _⟩
      · rw [eq_of_opening? found, ← List.append_assoc, ← parted]
      · simp only
        omega
      · simp only
        omega
    · obtain ⟨before, after, around, start, stop, solid⟩ := ih later
      refine ⟨parts.whole ++ before, after, ?_, ?_, stop, solid⟩
      · rw [List.append_assoc, ← around, ← whole]
      · rw [List.length_append]
        omega

/-- What a scan from left to right passes: the blocks of a text that starts at an offset. -/
inductive Scan : Nat → Text → List Block → Prop where
  /-- No closing brace stands behind an opening one, so the scan is over. -/
  | ended (offset : Nat) (text : Text)
    (unclosed : ∀ lead inside, text = lead ++ .char '\x7b' :: inside → .char '\x7d' ∉ inside) :
    Scan offset text []
  /-- A block opens at the first brace and stops at the first closing brace behind it. Its head is
  what stands before its opening brace, from the end of the filler that follows the last closing
  brace there. -/
  | passed (offset : Nat) (lead body rest : Text) (blocks : List Block)
    (first : .char '\x7b' ∉ lead) (closing : .char '\x7d' ∉ body)
    (later : Scan (offset + lead.length + body.length + 2) rest blocks) :
    Scan offset (lead ++ .char '\x7b' :: (body ++ .char '\x7d' :: rest))
      (⟨headOf lead, body, offset + lead.length - (headOf lead).length,
        offset + lead.length + body.length + 2, by omega⟩ :: blocks)

/-- There is one scan of a text, and it passes the blocks of the text. -/
theorem scan_iff : Scan offset text blocks ↔ blocks = blocksFrom offset text := by
  constructor
  · intro scan
    induction scan with
    | ended offset text unclosed => rw [blocksFrom_of_none _ (opening?_eq_none_iff.2 unclosed)]
    | passed offset lead body rest blocks first closing _ ih =>
      have found : opening? (lead ++ .char '\x7b' :: (body ++ .char '\x7d' :: rest)) =
          some ⟨lead, body, rest⟩ := opening?_eq_some_iff.2 ⟨rfl, first, closing⟩
      rw [blocksFrom_of_some _ found, ih]
  · rintro rfl
    induction offset, text using blocksFrom.induct with
    | case1 offset text found =>
      rw [blocksFrom_of_none _ found]
      exact .ended offset text (opening?_eq_none_iff.1 found)
    | case2 offset text parts found _ _ ih =>
      obtain ⟨whole, first, closing⟩ := opening?_eq_some_iff.1 found
      rw [blocksFrom_of_some _ found]
      conv => arg 2; rw [whole]
      exact .passed offset parts.lead parts.body parts.rest _ first closing ih

/-- The text in the span of a rule. -/
def spanOf (text : Text) (rule : Rule) : Text :=
  (text.take rule.stop.toNat).drop rule.start.toNat

/-- How a rule stands in its text. -/
structure Spanned (text : Text) (rule : Rule) : Prop where
  /-- The span is in the text and is not empty. -/
  within : 0 ≤ rule.start ∧ rule.start < rule.stop ∧ rule.stop ≤ text.length
  /-- The span is accepted as that of a rule. -/
  accepted : Rule.spanning rule.selector rule.properties rule.start rule.stop = .ok rule
  /-- The span ends with the only closing brace in it. -/
  closes : ∃ front, spanOf text rule = front ++ [.char '\x7d'] ∧ .char '\x7d' ∉ front
  /-- The span begins with the first character of the selector. -/
  begins : text[rule.start.toNat]? = rule.selector.head?
  /-- The selector is there, without blanks around it, and no brace and no at-sign is in it. -/
  selectable : Selectable rule.selector
  /-- The selector is what stands before the first opening brace of the span, trimmed and without
  comments. -/
  reads : ∃ inside, spanOf text rule =
      (spanOf text rule).takeWhile (· != .char '\x7b') ++ .char '\x7b' :: inside ∧
    rule.selector = Text.trim (withoutComments ((spanOf text rule).takeWhile (· != .char '\x7b')))

/-- The rule of a block stands where the block does. -/
theorem Block.spanned (listed : block ∈ blocksFrom 0 text) (stated : block.rule? = some rule) :
    Spanned text rule := by
  have held : rule ∈ rules text := List.mem_filterMap.2 ⟨block, listed, stated⟩
  obtain ⟨opens, closes, closing⟩ := Block.not_mem_of_mem_blocksFrom listed
  obtain ⟨before, after, around, start, stop, solid⟩ := Block.exists_around listed
  obtain ⟨selector, _, starts, stops⟩ := Block.of_rule? stated
  have fit : Selectable rule.selector := (of_mem_rules held).1
  have begins : rule.start.toNat = before.length := by omega
  have ends : rule.stop.toNat =
      before.length +
        (block.head ++
          CodePoint.char '\x7b' :: (block.body ++ [CodePoint.char '\x7d'])).length := by
    simp only [List.length_append, List.length_cons, List.length_nil]
    omega
  have parted : text =
      before ++ ((block.head ++ .char '\x7b' :: (block.body ++ [.char '\x7d'])) ++ after) := by
    rw [around]
    simp
  have span : spanOf text rule = block.head ++ .char '\x7b' :: (block.body ++ [.char '\x7d']) := by
    rw [spanOf, begins, ends, parted, List.take_length_add_append, List.take_left, List.drop_left]
  have plain : ∀ c ∈ block.head, (c != '\x7b') = true := by
    intro c here
    rw [bne_iff_ne]
    rintro rfl
    exact opens here
  have front : (spanOf text rule).takeWhile (· != .char '\x7b') = block.head := by
    rw [span, List.takeWhile_append_of_pos plain]
    simp
  refine ⟨⟨start_nonneg held, rule.ordered, stop_le_length held⟩, ?_, ?_, ?_, fit, ?_⟩
  · rw [Rule.spanning, dif_pos rule.ordered]
  · refine ⟨block.head ++ .char '\x7b' :: block.body, ?_, ?_⟩
    · rw [span]
      simp
    · simp [closes, closing]
  · have first := head?_selector solid
    rw [← selector] at first
    rw [begins, around, first, List.getElem?_append_right (Nat.le_refl _), Nat.sub_self]
    cases shape : block.head with
    | nil =>
      rw [shape, List.head?_nil, List.head?_eq_none_iff] at first
      exact absurd first fit.given
    | cons c rest => rfl
  · rw [front]
    exact ⟨_, span, selector⟩

/-- The scan of a text passes its blocks from left to right. The rules of the text are those of the
blocks, and the only blocks without a rule are those whose head, without comments and trimmed, is
empty or mentions an at-sign. The rules stand one behind the other, each where its block stands. -/
theorem rules_spanned (text : Text) :
    (∃ blocks, Scan 0 text blocks ∧ rules text = blocks.filterMap Block.rule? ∧
      ∀ block ∈ blocks, block.rule? = none ↔
        Text.trim (withoutComments block.head) = [] ∨
          .char '@' ∈ Text.trim (withoutComments block.head)) ∧
    (rules text).Pairwise (fun first second => first.stop ≤ second.start) ∧
    ∀ rule ∈ rules text, Spanned text rule := by
  refine ⟨⟨_, scan_iff.2 rfl, rfl, fun block _ => ?_⟩, pairwise_rules text, fun rule held => ?_⟩
  · rw [Block.rule?, or_iff_not_imp_left]
    simp
  · obtain ⟨block, listed, stated⟩ := List.mem_filterMap.1 held
    exact Block.spanned listed stated

/-- The law at a rule behind a stray brace, an at-statement and a comment, with a comment in front
of its opening brace and a brace in its body, between blocks that have no rule. -/
theorem rules_spanned_malformed :
    let text :=
      "\x7b\x7d \x7d @import 'x'; /* n */ a /* m */ \x7b b: \x7b \x7d @media \x7b \x7d \x7b".toText
    let rule : Rule := ⟨"a".toText, .ofList [("b".toText, "\x7b".toText)], 26, 44, by decide⟩
    rules text = [rule] ∧ rule ∈ rules text ∧ Spanned text rule := by
  intro text rule
  have read : rules text = [rule] := by decide +kernel
  have held : rule ∈ rules text := by
    rw [read]
    exact List.mem_cons_self
  exact ⟨read, held, (rules_spanned text).2.2 rule held⟩

end Sheet

end Restyle
