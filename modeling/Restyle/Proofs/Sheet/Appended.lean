import Restyle.Proofs.Sheet.Update

/-!
# Rules that are appended

A new rule is written behind a stylesheet, after two line feeds. Whatever is appended, the rules
that the stylesheet has stay. Whether the new rule is read as it was written depends on what stands
behind the last block, since a text may leave a block, a comment or a statement open there. Main
statement: the rule is read as it was written exactly when nothing is open (`rules_append_iff`).
-/
namespace Restyle.Sheet

variable {text : Text} {c : CodePoint}

/-- No statement ends at a character that is no semicolon. -/
theorem afterStatement?_concat_eq_none (other : c ≠ ';') (unended : afterStatement? text = none) :
    afterStatement? (text ++ [c]) = none := by
  fun_induction afterStatement? text with
  | case1 => simp [afterStatement?, other]
  | case2 => simp at unended
  | case3 d rest apart brace => rw [List.cons_append, afterStatement?, if_neg apart, if_pos brace]
  | case4 d rest apart plain ih =>
    rw [List.cons_append, afterStatement?, if_neg apart, if_neg plain]
    exact ih unended

/-- A blank behind a text ends nothing that is open in it. -/
theorem skipFiller_concat (blank : Text.isBlank c = true) (opened : skipFiller text ≠ []) :
    skipFiller (text ++ [c]) = skipFiller text ++ [c] := by
  have slash : c ≠ '/' := by
    rintro rfl
    exact absurd blank (by decide)
  have star : c ≠ '*' := by
    rintro rfl
    exact absurd blank (by decide)
  have semicolon : c ≠ ';' := by
    rintro rfl
    exact absurd blank (by decide)
  fun_induction skipFiller text with
  | case1 => exact absurd rfl opened
  | case2 d rest passed ih => rw [List.cons_append, skipFiller_cons _ passed, ih opened]
  | case3 inside after found _ ih =>
    rw [List.cons_append, List.cons_append, skipFiller_comment (afterComment?_append [c] found),
      ih opened]
  | case4 inside unclosed _ =>
    have still := afterComment?_concat_eq_none slash unclosed
    refine skipFiller_cons_eq_self (by decide) (fun within _ same => ?_) (by simp)
    exact (List.cons.inj same).2 ▸ still
  | case5 rest apart _ =>
    refine skipFiller_cons_eq_self (by decide) (fun within _ same => ?_) (by simp)
    cases rest with
    | nil => exact absurd (List.cons.inj same).1 star
    | cons d rest => exact absurd (by rw [(List.cons.inj same).1]) (apart rest)
  | case6 rest after found _ _ ih =>
    rw [List.cons_append, skipFiller_statement (afterStatement?_append [c] found), ih opened]
  | case7 rest unended _ _ =>
    have still := afterStatement?_concat_eq_none semicolon unended
    refine skipFiller_cons_eq_self (by decide) (fun _ sign => ?_) (fun _ => still)
    simp at sign
  | case8 d rest plain apart sign =>
    exact skipFiller_cons_eq_self plain (fun _ same => absurd same apart) fun same =>
      absurd same sign

/-- No block closes at a character that is no closing brace. -/
theorem opening?_concat_eq_none (other : c ≠ '\x7d') (unopened : opening? text = none) :
    opening? (text ++ [c]) = none := by
  rw [opening?_eq_none_iff] at unopened ⊢
  intro lead inside whole
  rcases List.eq_nil_or_concat inside with rfl | ⟨front, d, rfl⟩
  · simp
  · rw [List.concat_eq_append, ← List.cons_append, ← List.append_assoc] at whole
    obtain ⟨shorter, last⟩ := List.append_inj' whole rfl
    have closes := unopened _ _ shorter
    simp [closes, ← List.singleton_inj.1 last, Ne.symm other]

/-- A text that a blank leaves closed was closed before it. -/
theorem Closed.of_concat (blank : Text.isBlank c = true) (closed : Closed (text ++ [c])) :
    Closed text := by
  have brace : c ≠ '\x7d' := by
    rintro rfl
    exact absurd blank (by decide)
  have behind : tail (text ++ [c]) = tail text ++ [c] := by
    rw [tail_append, tail_of_none (opening?_concat_eq_none brace (opening?_tail text))]
  rw [Closed, behind] at closed
  refine ⟨fun held => closed.1 (List.mem_append_left _ held), ?_⟩
  by_contra opened
  have last := closed.2
  rw [headOf, Text.afterLast_append _ (by simpa using Ne.symm brace),
    skipFiller_concat blank opened] at last
  simp at last

/-- Where the last block stops of a text that starts at an offset; where it starts when it has no
block. -/
def lastStop (offset : Nat) (text : Text) : Nat :=
  ((blocksFrom offset text).getLast?.map Block.stop).getD offset

/-- A text without a block is passed from its start. -/
theorem lastStop_of_none (offset : Nat) (found : opening? text = none) :
    lastStop offset text = offset := by
  rw [lastStop, blocksFrom_of_none _ found]
  rfl

/-- The last block of a text is that of what follows its first block. -/
theorem lastStop_of_some (offset : Nat) {parts : Opening} (found : opening? text = some parts) :
    lastStop offset text = lastStop (offset + parts.whole.length) parts.rest := by
  rw [lastStop, blocksFrom_of_some _ found, List.getLast?_cons, lastStop, parts.length_whole]
  simp only [Nat.add_assoc]
  cases (blocksFrom _ parts.rest).getLast? <;> rfl

/-- What is left of a text after its last block begins where that block stops. -/
theorem exists_tail_eq_drop (offset : Nat) (text : Text) :
    ∃ passed, lastStop offset text = offset + passed ∧ tail text = text.drop passed := by
  induction text using tail.induct generalizing offset with
  | case1 text found => exact ⟨0, lastStop_of_none offset found, tail_of_none found⟩
  | case2 text parts found ih =>
    obtain ⟨passed, stop, rest⟩ := ih (offset + parts.whole.length)
    refine ⟨parts.whole.length + passed, ?_, ?_⟩
    · rw [lastStop_of_some offset found, stop, Nat.add_assoc]
    · rw [tail_of_some found, rest]
      conv_rhs => rw [whole_append_rest found, List.drop_length_add_append]

/-- Whatever is appended to a stylesheet, its rules stay. A rule that is appended as a representable
block after two line feeds is read as it was written, where it stands and as the last one, if and
only if no block is begun behind the last block of the stylesheet and what stands there, after its
last closing brace, is filler to its end. -/
theorem rules_append_iff (text : Text) :
    (∀ more, rules text <+: rules (text ++ more)) ∧
    ∀ selector properties, Rule.Representable selector properties →
      let block := .char '\n' :: .char '\n' :: Rule.write selector properties
      let rule := Rule.written selector properties (text.length + 2)
      let behind := text.drop (lastStop 0 text)
      rule.stop = (text ++ block).length ∧
        (rules (text ++ block) = rules text ++ [rule] ↔
          .char '\x7b' ∉ behind ∧ skipFiller (Text.afterLast '\x7d' behind) = []) := by
  refine ⟨fun more => ?_, fun selector properties fits => ?_⟩
  · rw [rules_append]
    exact List.prefix_append _ _
  · intro block rule behind
    refine ⟨?_, ?_⟩
    · simp [rule, block, Rule.written]
      omega
    · obtain ⟨passed, stop, left⟩ := exists_tail_eq_drop 0 text
      have same : behind = tail text := by
        rw [left, ← Nat.zero_add passed, ← stop]
      rw [same]
      refine ⟨fun read => ?_, fun closed => rules_append_block closed fits⟩
      have found : (rules (text ++ block))[(rules text).length]? = some rule := by
        rw [read]
        exact List.getElem?_concat_length
      obtain ⟨before, span, after, around⟩ := exists_surrounds found
      have starts := around.starts
      have parted := around.parted
      have size : (text ++ [CodePoint.char '\n', .char '\n']).length = before.length := by
        simp only [rule, Rule.written] at starts
        simp
        omega
      have whole : text ++ [.char '\n', .char '\n'] ++ Rule.write selector properties =
          before ++ (span ++ after) := by
        simpa [block] using parted
      have front : text ++ [.char '\n', .char '\n'] = before := (List.append_inj whole size).1
      have closed : Closed (text ++ [.char '\n'] ++ [.char '\n']) := by
        rw [List.append_assoc, List.singleton_append, front]
        exact around.closed
      exact (closed.of_concat (by decide)).of_concat (by decide)

/-- The law behind a rule, a stray brace and a comment, where a rule is appended, and behind a
comment, a statement and a block that are left open, where none is read as it was written. -/
theorem rules_append_iff_open :
    let closed := "a\x7b\x7d \x7d /* n */ @import 'x'; ".toText
    let opened := ["a\x7b\x7d /* n ".toText, "@import 'x' ".toText, "a\x7b\x7d @media \x7b ".toText]
    let block := .char '\n' :: .char '\n' :: Rule.write "b".toText .empty
    Rule.Representable "b".toText .empty ∧
      rules (closed ++ block) = rules closed ++ [Rule.written "b".toText .empty 29] ∧
      ∀ text ∈ opened, rules (text ++ block) ≠
        rules text ++ [Rule.written "b".toText .empty (text.length + 2)] := by
  intro closed opened block
  have fits : Rule.Representable "b".toText .empty := by decide +kernel
  have never : ∀ text ∈ opened, ¬ (.char '\x7b' ∉ text.drop (lastStop 0 text) ∧
      skipFiller (Text.afterLast '\x7d' (text.drop (lastStop 0 text))) = []) := by
    decide +kernel
  refine ⟨fits, ?_, fun text listed read => ?_⟩
  · exact ((rules_append_iff closed).2 _ _ fits).2.2 (by decide +kernel)
  · exact never text listed (((rules_append_iff text).2 _ _ fits).2.1 read)

end Restyle.Sheet
