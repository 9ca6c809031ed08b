import Restyle.Proofs.Sheet.Splice

/-!
# Text between blocks

A gap of a text is a place where its scan starts anew: the front of the text, or just behind a
block. What is put into a gap is transparent when the rules stay the same and those behind it only
move. Main statement: a comment without braces is transparent in every gap of every text, and a
comment is so exactly when it is closed and has no rules of its own (`transparent_comment`).
-/
namespace Restyle.Sheet

/-- A place of a text where its scan starts anew. -/
def Gap (text : Text) (cut : Nat) : Prop :=
  cut = 0 ∨ ∃ block ∈ blocksFrom 0 text, block.stop = cut

instance (text : Text) (cut : Nat) : Decidable (Gap text cut) :=
  inferInstanceAs (Decidable (_ ∨ _))

/-- A text with more put into it. -/
def insertAt (text : Text) (cut : Nat) (more : Text) : Text :=
  text.take cut ++ (more ++ text.drop cut)

/-- What is put into a text changes nothing but the offsets of the rules behind it. -/
def Transparent (text : Text) (cut : Nat) (more : Text) : Prop :=
  rules (insertAt text cut more) =
    (rules text).map fun rule =>
      if rule.start < (cut : Int) then rule else rule.shift more.length

/-- What may stand before a block without a trace: it leaves nothing open and has no rules. -/
def Inert (text : Text) : Prop := Closed text ∧ rules text = []

instance (text : Text) : Decidable (Inert text) := inferInstanceAs (Decidable (_ ∧ _))

/-- The comment with a given text inside. -/
def comment (inside : Text) : Text := .char '/' :: .char '*' :: (inside ++ [.char '*', .char '/'])

variable {text more inside : Text} {cut : Nat}

/-- A rule stops within its text. -/
theorem stop_le_length {rule : Rule} (held : rule ∈ rules text) : rule.stop ≤ text.length := by
  obtain ⟨i, found⟩ := List.getElem?_of_mem held
  obtain ⟨before, span, after, around⟩ := exists_surrounds found
  rw [around.stops, around.parted, List.length_append, List.length_append]
  omega

/-- What stands before the end of a block is scanned to its end. -/
theorem exists_front_of_mem_blocksFrom {offset : Nat} {block : Block}
    (listed : block ∈ blocksFrom offset text) :
    ∃ front back, text = front ++ back ∧ tail front = [] ∧ block.stop = offset + front.length := by
  induction offset, text using blocksFrom.induct with
  | case1 offset text found => simp [blocksFrom_of_none _ found] at listed
  | case2 offset text parts found _ _ ih =>
    have size := parts.length_whole
    rw [blocksFrom_of_some _ found, List.mem_cons] at listed
    rcases listed with rfl | later
    · refine ⟨parts.whole, parts.rest, whole_append_rest found, ?_, ?_⟩
      · rw [tail_of_some (opening?_whole found), tail_of_none (opening?_eq_none (by simp))]
      · simp only
        omega
    · obtain ⟨front, back, parted, scanned, stop⟩ := ih later
      refine ⟨parts.whole ++ front, back, ?_, ?_, ?_⟩
      · rw [List.append_assoc, ← parted, ← whole_append_rest found]
      · rw [tail_of_some (opening?_append front (opening?_whole found))]
        exact scanned
      · rw [List.length_append]
        omega

/-- What stands before a gap is scanned to its end. -/
theorem Gap.exists_front (gap : Gap text cut) :
    ∃ front back, text = front ++ back ∧ tail front = [] ∧ cut = front.length := by
  rcases gap with rfl | ⟨block, listed, rfl⟩
  · exact ⟨[], text, rfl, tail_of_none (opening?_eq_none (by simp)), rfl⟩
  · obtain ⟨front, back, parted, scanned, stop⟩ := exists_front_of_mem_blocksFrom listed
    exact ⟨front, back, parted, scanned, by omega⟩

/-- Nothing has no head. -/
theorem headOf_nil : headOf [] = [] := by simp [headOf, Text.afterLast, skipFiller]

/-- Filler in front of a lead leaves its head. -/
theorem headOf_append_lead {front : Text} (closed : headOf front = []) (lead : Text) :
    headOf (front ++ lead) = headOf lead := by
  by_cases held : .char '\x7d' ∈ lead
  · rw [headOf, headOf, Text.afterLast_append_of_mem front held]
  · exact (headOf_append closed held).trans (headOf_append headOf_nil held).symm

/-- A text without a block has none behind a text without an opening brace. -/
theorem opening?_append_eq_none {front back : Text} (plain : .char '\x7b' ∉ front)
    (found : opening? back = none) : opening? (front ++ back) = none := by
  rw [opening?_eq_none_iff] at found ⊢
  intro lead inside whole
  rcases List.append_eq_append_iff.1 whole with ⟨more, longer, after⟩ | ⟨more, longer, after⟩
  · exact found more inside after
  · cases more with
    | nil => exact found [] inside (by simpa using after.symm)
    | cons c more =>
      obtain ⟨rfl, _⟩ := List.cons.inj after
      exact absurd (by simp [longer]) plain

/-- Behind filler without an opening brace a text has its rules, moved. -/
theorem rules_filler_append {front : Text} (plain : .char '\x7b' ∉ front)
    (closed : headOf front = [])
    (back : Text) : rules (front ++ back) = (rules back).map (Rule.shift front.length) := by
  cases opened : opening? back with
  | none =>
    rw [rules_of_opening?_none opened,
      rules_of_opening?_none (opening?_append_eq_none plain opened),
      List.map_nil]
  | some parts =>
    obtain ⟨whole, first, closing⟩ := opening?_eq_some_iff.1 opened
    have found : opening? (front ++ back) = some ⟨front ++ parts.lead, parts.body, parts.rest⟩ := by
      refine opening?_eq_some_iff.2 ⟨?_, ?_, closing⟩
      · simp only [List.append_assoc, ← whole]
      · simp [plain, first]
    have bound := length_headOf_le parts.lead
    have stated : Opening.rule? ⟨front ++ parts.lead, parts.body, parts.rest⟩ =
        parts.rule?.map (Rule.shift front.length) := by
      simp only [Opening.rule?, headOf_append_lead closed, List.length_append]
      have moved : front.length + parts.lead.length - (headOf parts.lead).length =
          front.length + (parts.lead.length - (headOf parts.lead).length) := by omega
      simp only [moved, Nat.add_assoc]
      exact Block.rule?_add _ _ _ _ _ (by omega) (by omega)
    have size : Opening.whole ⟨front ++ parts.lead, parts.body, parts.rest⟩ =
        front ++ parts.whole := by
      simp [Opening.whole]
    rw [rules_of_opening? found, rules_of_opening? opened, stated, size, List.map_append,
      Rule.map_shift_shift, List.length_append, Int.natCast_add]
    cases parts.rule? with
    | none => simp [Int.add_comm]
    | some rule => simp [Int.add_comm]

/-- Behind a closed text a text has its rules, moved. -/
theorem Closed.rules_append {front : Text} (closed : Closed front) (back : Text) :
    rules (front ++ back) = rules front ++ (rules back).map (Rule.shift front.length) := by
  obtain ⟨passed, whole⟩ := exists_tail front
  have size := congrArg List.length whole
  rw [List.length_append] at size
  rw [Sheet.rules_append, rules_filler_append closed.1 closed.2, Rule.map_shift_shift]
  congr 3
  omega

/-- Behind an inert text a text has its rules, moved. -/
theorem Inert.rules_append (inert : Inert more) (back : Text) :
    rules (more ++ back) = (rules back).map (Rule.shift more.length) := by
  rw [inert.1.rules_append, inert.2, List.nil_append]

/-- An inert text is transparent in every gap. -/
theorem Inert.transparent (inert : Inert more) (gap : Gap text cut) :
    Transparent text cut more := by
  obtain ⟨front, back, rfl, scanned, rfl⟩ := gap.exists_front
  have parted : ∀ behind : Text, rules (front ++ behind) =
      rules front ++ (rules behind).map (Rule.shift front.length) := by
    intro behind
    rw [Sheet.rules_append, scanned, List.nil_append, List.length_nil, Nat.sub_zero]
  have early : ∀ rule ∈ rules front, rule.start < front.length := by
    intro rule held
    have := stop_le_length held
    have := rule.ordered
    omega
  rw [Transparent, insertAt, List.take_left, List.drop_left, parted, parted back,
    inert.rules_append, Rule.map_shift_shift, List.map_append, List.map_map]
  congr 1
  · refine (List.map_id _).symm.trans (List.map_congr_left fun rule held => ?_)
    rw [if_pos (early rule held), id_eq]
  · refine List.map_congr_left fun rule held => ?_
    have late := start_nonneg held
    have behind : ¬ (rule.shift front.length).start < front.length := by
      simp only [Rule.shift]
      omega
    rw [Function.comp_apply, if_neg behind, Rule.shift_shift, Int.add_comm]

/-- What is transparent in front of a rule is inert. -/
theorem inert_of_transparent (transparent : Transparent "a\x7b\x7d".toText 0 more) :
    Inert more := by
  have read : rules "a\x7b\x7d".toText = [⟨[.char 'a'], .empty, 0, 3, by decide⟩] := by
    decide +kernel
  rw [Transparent, read, insertAt, List.take_zero, List.drop_zero, List.nil_append] at transparent
  -- the one rule that is read starts behind the inserted text, so all in front of it is closed
  obtain ⟨before, span, after, around⟩ := exists_surrounds (i := 0) (by rw [transparent]; rfl)
  have starts := around.starts
  have parted := around.parted
  have earlier := around.earlier
  simp [Rule.shift] at starts
  have same : more = before :=
    (List.append_inj parted (by omega)).1
  exact ⟨same ▸ around.closed, by rw [same, earlier, List.take_zero]⟩

/-- The end of a comment is the first one behind its beginning. -/
theorem afterComment?_of_ended (ended : Text.occursIn "*/".toText inside = false) :
    afterComment? (inside ++ [.char '*', .char '/']) = some [] := by
  induction inside with
  | nil => rfl
  | cons c rest ih =>
    rw [Text.occursIn, Bool.or_eq_false_iff] at ended
    rw [List.cons_append, afterComment?]
    · exact ih ended.2
    · intro after star slash
      cases rest with
      | nil => simp at slash
      | cons d rest =>
        rw [List.cons_append, List.cons.injEq] at slash
        simp [String.toText, star, slash.1] at ended

/-- A comment without braces is inert. -/
theorem inert_comment (ended : Text.occursIn "*/".toText inside = false)
    (opens : .char '\x7b' ∉ inside) (closes : .char '\x7d' ∉ inside) : Inert (comment inside) := by
  have plain : .char '\x7b' ∉ comment inside := by simp [comment, opens]
  have free : .char '\x7d' ∉ comment inside := by simp [comment, closes]
  have unopened := opening?_eq_none plain
  have passed : headOf (comment inside) = [] := by
    have alone : headOf (comment inside) = skipFiller (comment inside) :=
      headOf_append headOf_nil free
    rw [alone, comment, skipFiller_comment (afterComment?_of_ended ended), skipFiller]
  refine ⟨⟨?_, ?_⟩, rules_of_opening?_none unopened⟩
  · rw [tail_of_none unopened]
    exact plain
  · rw [tail_of_none unopened]
    exact passed

/-- A comment without braces that is put into a gap of a text leaves its rules, with those behind
it moved by its length. The comments that do so everywhere are exactly the inert ones. -/
theorem transparent_comment (inside : Text) (ended : Text.occursIn "*/".toText inside = false) :
    (.char '\x7b' ∉ inside → .char '\x7d' ∉ inside →
      ∀ text cut, Gap text cut → Transparent text cut (comment inside)) ∧
    ((∀ text cut, Gap text cut → Transparent text cut (comment inside)) ↔
      Inert (comment inside)) := by
  refine ⟨fun opens closes text cut gap => ?_, fun transparent => ?_, fun inert text cut gap => ?_⟩
  · exact (inert_comment ended opens closes).transparent gap
  · exact inert_of_transparent (transparent _ 0 (.inl rfl))
  · exact inert.transparent gap

/-- The law at a comment behind a block that is no rule, before a stray brace and another comment,
and at one that reads like the beginning of a comment and ends behind a brace. -/
theorem transparent_comment_malformed :
    let text := "@media \x7b a \x7b b: c \x7d \x7d /* n */ e\x7bf:g\x7d open \x7b".toText
    let inside := " @import 'x'; a: b ".toText
    let nested := "\x7d/*".toText
    (Text.occursIn "*/".toText inside = false ∧ .char '\x7b' ∉ inside ∧ .char '\x7d' ∉ inside ∧
      Gap text 19 ∧ Transparent text 19 (comment inside)) ∧
    (Text.occursIn "*/".toText nested = false ∧ Inert (comment nested) ∧
      Transparent text 19 (comment nested)) := by
  intro text inside nested
  have ended : Text.occursIn "*/".toText inside = false := by decide +kernel
  have ended' : Text.occursIn "*/".toText nested = false := by decide +kernel
  have opens : .char '\x7b' ∉ inside := by decide +kernel
  have closes : .char '\x7d' ∉ inside := by decide +kernel
  have inert : Inert (comment nested) := by decide +kernel
  have gap : Gap text 19 := by decide +kernel
  exact ⟨⟨ended, opens, closes, gap, (transparent_comment inside ended).1 opens closes text 19 gap⟩,
    ended', inert, (transparent_comment nested ended').2.2 inert text 19 gap⟩

/-- A comment around a rule is no comment to the scan: its text is read as a rule, and its end as
the selector of the next one. -/
theorem not_transparent_comment :
    let text := ".x\x7by:z\x7d".toText
    let inside := " a \x7b b: c \x7d ".toText
    Text.occursIn "*/".toText inside = false ∧ Gap text 0 ∧
      ¬ Transparent text 0 (comment inside) ∧
      (rules (insertAt text 0 (comment inside))).map Rule.selector =
        ["/* a".toText, "*/.x".toText] := by
  intro text inside
  refine ⟨by decide +kernel, .inl rfl, ?_, by decide +kernel⟩
  rw [Transparent]
  decide +kernel

end Restyle.Sheet
