import Restyle.Proofs.Sheet.Scan

/-!
# Written blocks in a text

A selector and its properties are representable when their written block, read alone, states
exactly them. A text is closed when nothing is left open behind its last block: what stands
there is passed over before the next head. Main statement: a representable block behind a closed
text is read as its rule, and what follows it is scanned as a text of its own (`rules_insert`).
-/
namespace Restyle

namespace Rule

/-- What a rule states: its selector and its properties. -/
def statement (rule : Rule) : Text × Properties := (rule.selector, rule.properties)

/-- A rule that is moved states the same. -/
theorem statement_comp_shift (distance : Int) : statement ∘ shift distance = statement := rfl

/-- A written block is not empty. -/
theorem length_write_pos (selector : Text) (properties : Properties) :
    0 < (write selector properties).length := by
  simp only [write, List.length_append, List.length_cons]
  omega

/-- The rule that a written block states where it stands at an offset. -/
def written (selector : Text) (properties : Properties) (start : Int) : Rule where
  selector
  properties
  start
  stop := start + (write selector properties).length
  ordered := by
    have := length_write_pos selector properties
    omega

/-- A written block moved is the block written further on. -/
theorem shift_written (selector : Text) (properties : Properties) (start distance : Int) :
    (written selector properties start).shift distance =
      written selector properties (start + distance) := by
  simp only [written, shift, mk.injEq, true_and]
  omega

/-- The written block of a selector and its properties, read alone, states exactly them. -/
def Representable (selector : Text) (properties : Properties) : Prop :=
  Sheet.rules (write selector properties) = [written selector properties 0]

instance (selector : Text) (properties : Properties) :
    Decidable (Representable selector properties) :=
  inferInstanceAs (Decidable (_ = _))

end Rule

namespace Sheet

/-- Nothing is open behind the last block of the text: no block is begun there, and what stands
there after the last closing brace is filler. -/
def Closed (text : Text) : Prop := .char '\x7b' ∉ tail text ∧ headOf (tail text) = []

instance (text : Text) : Decidable (Closed text) := inferInstanceAs (Decidable (_ ∧ _))

/-- A text without its comments is no longer. -/
theorem length_withoutComments_le (text : Text) : (withoutComments text).length ≤ text.length :=
  (withoutComments_sublist text).length_le

/-- The rule of a block has the block's span. -/
theorem Block.of_rule? {block : Block} {rule : Rule} (stated : block.rule? = some rule) :
    rule.selector = Text.trim (withoutComments block.head) ∧
      rule.properties = readDeclarations block.body ∧
      rule.start = block.start ∧ rule.stop = block.stop := by
  simp only [Block.rule?] at stated
  split at stated
  · simp at stated
  · simp only [Option.some.injEq] at stated
    subst stated
    simp

/-- No rule starts before its text. -/
theorem start_nonneg {text : Text} {rule : Rule} (held : rule ∈ rules text) : 0 ≤ rule.start := by
  rw [rules, List.mem_filterMap] at held
  obtain ⟨block, _, stated⟩ := held
  rw [(Block.of_rule? stated).2.2.1]
  exact Int.natCast_nonneg _

/-- A text that is one rule from end to end is one block without filler. -/
theorem opening?_of_rules_eq {text : Text} {rule : Rule} (read : rules text = [rule])
    (start : rule.start = 0) (stop : rule.stop = text.length) :
    ∃ parts, opening? text = some parts ∧ parts.rule? = some rule ∧ parts.rest = [] ∧
      headOf parts.lead = parts.lead := by
  cases found : opening? text with
  | none =>
    rw [rules_of_opening?_none found] at read
    contradiction
  | some parts =>
    rw [rules_of_opening? found] at read
    have lengths := congrArg List.length (whole_append_rest found)
    rw [List.length_append] at lengths
    have whole := parts.length_whole
    cases first : parts.rule? with
    | none =>
      rw [first, Option.toList_none, List.nil_append, List.map_eq_singleton_iff] at read
      obtain ⟨later, rest, moved⟩ := read
      have bound := start_nonneg (show later ∈ rules parts.rest by simp [rest])
      rw [← moved] at start
      simp only [Rule.shift] at start
      omega
    | some stated =>
      rw [first, Option.toList_some, List.singleton_append, List.cons.injEq] at read
      obtain ⟨rfl, _⟩ := read
      obtain ⟨_, _, begins, ends⟩ := Block.of_rule? first
      have bound := length_headOf_le parts.lead
      simp only at begins ends
      refine ⟨parts, rfl, first, List.eq_nil_of_length_eq_zero (by omega), ?_⟩
      obtain ⟨front, parted, _⟩ := exists_headOf parts.lead
      have sizes := congrArg List.length parted
      rw [List.length_append] at sizes
      have nothing : front = [] := List.eq_nil_of_length_eq_zero (by omega)
      rw [nothing, List.nil_append] at parted
      exact parted.symm

/-- The block of a representable rule opens right behind its selector and closes at its end. -/
theorem opening?_write {selector : Text} {properties : Properties}
    (fits : Rule.Representable selector properties) :
    opening? (Rule.write selector properties) =
      some ⟨selector ++ [.char ' '], .char '\n' :: writeDeclarations properties, []⟩ := by
  obtain ⟨parts, found, stated, nothing, headed⟩ :=
    opening?_of_rules_eq fits rfl (by simp [Rule.written])
  obtain ⟨whole, first, closing⟩ := opening?_eq_some_iff.1 found
  have sized : selector.length ≤ parts.lead.length := by
    have read : selector = Text.trim (withoutComments (headOf parts.lead)) :=
      (Block.of_rule? stated).1
    calc
      selector.length = (Text.trim (withoutComments parts.lead)).length := by
        rw [headed] at read
        rw [← read]
      _ ≤ (withoutComments parts.lead).length := Text.length_trim_le _
      _ ≤ parts.lead.length := length_withoutComments_le _
  have equal : (selector ++ [.char ' ']) ++
        .char '\x7b' :: (.char '\n' :: writeDeclarations properties ++ [.char '\x7d']) =
      parts.lead ++ .char '\x7b' :: (parts.body ++ [.char '\x7d']) := by
    rw [nothing] at whole
    simpa [Rule.write] using whole
  have lead : parts.lead = selector ++ [.char ' '] := by
    rcases List.append_eq_append_iff.1 equal with ⟨more, longer, after⟩ | ⟨more, longer, after⟩
    · cases more with
      | nil => simpa using longer
      | cons c more =>
        simp only [List.cons_append, List.cons.injEq] at after
        exact absurd (by simp [longer, ← after.1]) first
    · cases more with
      | nil => simpa using longer.symm
      | cons c more =>
        -- the opening brace would have to be the blank behind the selector
        simp only [List.cons_append, List.cons.injEq] at after
        have sizes := congrArg List.length longer
        simp only [List.length_append, List.length_cons, List.length_nil] at sizes
        have short : more = [] := List.eq_nil_of_length_eq_zero (by omega)
        have last := congrArg List.getLast? longer
        simp [short, ← after.1] at last
  rw [lead, List.append_cancel_left_eq, List.cons.injEq] at equal
  have body : parts.body = .char '\n' :: writeDeclarations properties :=
    (List.append_cancel_right equal.2).symm
  rw [found]
  obtain ⟨_, _, _⟩ := parts
  simp_all

/-- A lead that is its own head holds no closing brace and no filler. -/
theorem of_headOf_eq_self {lead : Text} (headed : headOf lead = lead) :
    .char '\x7d' ∉ lead ∧ skipFiller lead = lead := by
  obtain ⟨front, whole, _⟩ := Text.exists_afterLast '\x7d' lead
  obtain ⟨filler, parts, _⟩ := exists_filler (Text.afterLast '\x7d' lead)
  have outer := congrArg List.length whole
  have inner := congrArg List.length parts
  have same := congrArg List.length headed
  rw [headOf] at same
  rw [List.length_append] at outer inner
  have nothing : front = [] := List.eq_nil_of_length_eq_zero (by omega)
  rw [nothing, List.nil_append] at whole
  refine ⟨?_, ?_⟩
  · rw [whole]
    exact Text.not_mem_afterLast _ _
  · rw [headOf, ← whole] at headed
    exact headed

/-- The head of a representable block is its selector and the blank behind it, and the block
states its selector and its properties. -/
theorem rule?_write {selector : Text} {properties : Properties}
    (fits : Rule.Representable selector properties) :
    headOf (selector ++ [.char ' ']) = selector ++ [.char ' '] ∧
      Opening.rule? ⟨selector ++ [.char ' '], .char '\n' :: writeDeclarations properties, []⟩ =
        some (Rule.written selector properties 0) := by
  obtain ⟨parts, found, stated, _, headed⟩ :=
    opening?_of_rules_eq fits rfl (by simp [Rule.written])
  rw [opening?_write fits, Option.some.injEq] at found
  subst found
  exact ⟨headed, stated⟩

/-- A block with more in front of the same head states the same rule further on. -/
theorem Opening.rule?_behind {front lead : Text} (body rest back : Text)
    (headed : headOf lead = lead) (moved : headOf (front ++ lead) = lead) :
    Opening.rule? ⟨front ++ lead, body, back⟩ =
      (Opening.rule? ⟨lead, body, rest⟩).map (Rule.shift front.length) := by
  simp only [Opening.rule?, Block.rule?, headed, moved]
  split
  · rfl
  · simp only [Option.map_some, Rule.shift, Option.some.injEq, Rule.mk.injEq, true_and,
      List.length_append]
    omega

/-- Behind filler a representable block is the next block. -/
theorem opening?_insert {front : Text} {selector : Text} {properties : Properties} (back : Text)
    (plain : .char '\x7b' ∉ front) (closed : headOf front = [])
    (fits : Rule.Representable selector properties) :
    ∃ parts, opening? (front ++ (Rule.write selector properties ++ back)) = some parts ∧
      parts.rest = back ∧ parts.rule? = some (Rule.written selector properties front.length) := by
  obtain ⟨_, first, closing⟩ := opening?_eq_some_iff.1 (opening?_write fits)
  obtain ⟨headed, stated⟩ := rule?_write fits
  obtain ⟨free, solid⟩ := of_headOf_eq_self headed
  refine ⟨⟨front ++ (selector ++ [.char ' ']), .char '\n' :: writeDeclarations properties,
    back⟩, ?_, rfl, ?_⟩
  · refine opening?_eq_some_iff.2 ⟨by simp [Rule.write], ?_, closing⟩
    rw [List.mem_append, not_or]
    exact ⟨plain, first⟩
  · rw [Opening.rule?_behind _ [] _ headed (by rw [headOf_append closed free, solid]), stated,
      Option.map_some, Rule.shift_written, Int.zero_add]

/-- A representable block behind a closed text is read as its rule; what is before it keeps its
rules, and what follows it is scanned as a text of its own. -/
theorem rules_insert {front : Text} {selector : Text} {properties : Properties} (back : Text)
    (closed : Closed front) (fits : Rule.Representable selector properties) :
    rules (front ++ (Rule.write selector properties ++ back)) =
      rules front ++ Rule.written selector properties front.length ::
        (rules back).map (Rule.shift (front.length + (Rule.write selector properties).length)) := by
  obtain ⟨parts, found, rest, stated⟩ := opening?_insert back closed.1 closed.2 fits
  obtain ⟨passed, whole⟩ := exists_tail front
  have sizes := congrArg List.length whole
  have lengths := congrArg List.length (whole_append_rest found)
  simp only [List.length_append, rest] at sizes lengths
  rw [rules_append, rules_of_opening? found, stated, rest, Option.toList_some,
    List.singleton_append, List.map_cons, Rule.shift_written, Rule.map_shift_shift]
  congr 3
  · omega
  · congr 1
    omega

/-- Filler without braces behind a closed text leaves it closed. -/
theorem Closed.append {text more : Text} (closed : Closed text) (plain : .char '\x7b' ∉ more)
    (free : .char '\x7d' ∉ more) (filler : skipFiller more = []) : Closed (text ++ more) := by
  have unopened : .char '\x7b' ∉ tail text ++ more := by
    rw [List.mem_append, not_or]
    exact ⟨closed.1, plain⟩
  rw [Closed, tail_append, tail_of_none (opening?_eq_none unopened)]
  exact ⟨unopened, by rw [headOf_append closed.2 free, filler]⟩

/-- A representable block appended to a closed text adds its rule as the last one. -/
theorem rules_append_block {text : Text} {selector : Text} {properties : Properties}
    (closed : Closed text) (fits : Rule.Representable selector properties) :
    rules (text ++ .char '\n' :: .char '\n' :: Rule.write selector properties) =
      rules text ++ [Rule.written selector properties (text.length + 2)] := by
  have gap : skipFiller [.char '\n', .char '\n'] = [] := by
    rw [skipFiller_cons _ (by decide), skipFiller_cons _ (by decide), skipFiller]
  have kept : rules (text ++ [.char '\n', .char '\n']) = rules text := by
    have unopened : .char '\x7b' ∉ tail text ++ [.char '\n', .char '\n'] := by
      simp [closed.1]
    rw [rules_append, rules_of_opening?_none (opening?_eq_none unopened), List.map_nil,
      List.append_nil]
  have nothing : rules [] = [] := rules_of_opening?_none (opening?_eq_none (by simp))
  have inserted := rules_insert [] (closed.append (by decide) (by decide) gap) fits
  rw [kept, nothing, List.map_nil] at inserted
  simpa using inserted

end Sheet

end Restyle
