import Restyle.Patch
import Restyle.Proofs.Sheet.Block

/-!
# Replacing the block of a rule

The span of a rule stands between two parts of its text that are scanned on their own: what is
before it is closed and has the rules before it, what is behind it has the rules behind it
(`exists_surrounds`). So another representable block can take the place of the span, and
every other rule stays, those behind it moved (`rules_splice`).
-/
namespace Restyle.Sheet

/-- A block with its lead is the first block of its own text. -/
theorem opening?_whole {text : Text} {parts : Opening} (found : opening? text = some parts) :
    opening? parts.whole = some ⟨parts.lead, parts.body, []⟩ := by
  obtain ⟨_, first, closing⟩ := opening?_eq_some_iff.1 found
  exact opening?_eq_some_iff.2 ⟨rfl, first, closing⟩

/-- A rule's span stands between a closed text with the rules before it and a text with the rules
behind it. -/
structure Surrounds (text : Text) (i : Nat) (rule : Rule) (before span after : Text) : Prop where
  /-- The text is parted around the span. -/
  parted : text = before ++ (span ++ after)
  /-- The span starts behind what is before it. -/
  starts : rule.start = before.length
  /-- The span stops before what is behind it. -/
  stops : rule.stop = before.length + span.length
  /-- What is before the span leaks nothing into it. -/
  closed : Closed before
  /-- The rules before the span. -/
  earlier : rules before = (rules text).take i
  /-- The rules behind the span. -/
  later : (rules text).drop (i + 1) = (rules after).map (Rule.shift rule.stop)

/-- What takes the place of a rule stands where its span stood. -/
theorem splice_append {before span : Text} {rule : Rule} (starts : rule.start = before.length)
    (stops : rule.stop = before.length + span.length) (block after : Text) :
    Workspace.splice (before ++ (span ++ after)) rule block = before ++ (block ++ after) := by
  have start : rule.start.toNat = before.length := by omega
  have stop : rule.stop.toNat = before.length + span.length := by omega
  rw [Workspace.splice, start, stop, List.take_left, ← List.append_assoc before span,
    ← List.length_append, List.drop_left, List.append_assoc]

/-- What takes the place of a rule stands between the parts of its text. -/
theorem Surrounds.splice_eq {text before span after : Text} {i : Nat} {rule : Rule}
    (around : Surrounds text i rule before span after) (block : Text) :
    Workspace.splice text rule block = before ++ (block ++ after) := by
  rw [around.parted]
  exact splice_append around.starts around.stops block after

/-- The head of a first block that states a rule starts where the filler of its lead ends. -/
theorem exists_surrounds_first {text : Text} {parts : Opening} {rule : Rule}
    (opened : opening? text = some parts) (first : parts.rule? = some rule) :
    ∃ before span, Surrounds text 0 rule before span parts.rest := by
  have all := rules_of_opening? opened
  rw [first, Option.toList_some, List.singleton_append] at all
  obtain ⟨front, parted, settled⟩ := exists_headOf parts.lead
  obtain ⟨_, _, begins, ends⟩ := Block.of_rule? first
  have sizes := congrArg List.length parted
  rw [List.length_append] at sizes
  have plain : .char '\x7b' ∉ front := by
    intro held
    exact (opening?_eq_some_iff.1 opened).2.1 (parted ▸ List.mem_append_left _ held)
  have unopened := opening?_eq_none plain
  refine ⟨front, headOf parts.lead ++ .char '\x7b' :: (parts.body ++ [.char '\x7d']),
    ?_, ?_, ?_, ?_, ?_, ?_⟩
  · rw [whole_append_rest opened, Opening.whole]
    simp [← List.append_assoc, ← parted]
  · simp only at begins
    omega
  · simp only [List.length_append, List.length_cons, List.length_nil] at ends ⊢
    omega
  · rw [Closed, tail_of_none unopened]
    exact ⟨plain, settled⟩
  · rw [rules_of_opening?_none unopened, List.take_zero]
  · rw [all, ends, Opening.length_whole]
    rfl

/-- A later rule has the first block among what is before its span. -/
theorem Surrounds.behind {text before span after : Text} {parts : Opening} {j : Nat} {rule : Rule}
    (opened : opening? text = some parts) (here : Surrounds parts.rest j rule before span after) :
    Surrounds text (parts.rule?.toList.length + j) (rule.shift parts.whole.length)
      (parts.whole ++ before) span after := by
  have starts := here.starts
  have stops := here.stops
  have all := rules_of_opening? opened
  have front := opening?_append before (opening?_whole opened)
  refine ⟨?_, ?_, ?_, ?_, ?_, ?_⟩
  · rw [List.append_assoc, ← here.parted, ← whole_append_rest opened]
  · simp only [Rule.shift, List.length_append]
    omega
  · simp only [Rule.shift, List.length_append]
    omega
  · rw [Closed, tail_of_some front]
    exact here.closed
  · rw [rules_of_opening? front, all, List.take_length_add_append, ← List.map_take, ← here.earlier]
    rfl
  · rw [all, Nat.add_assoc, List.drop_length_add_append, ← List.map_drop, here.later,
      Rule.map_shift_shift]
    rfl

/-- Every rule of a text has its span in it. -/
theorem exists_surrounds {text : Text} {i : Nat} {rule : Rule}
    (found : (rules text)[i]? = some rule) :
    ∃ before span after, Surrounds text i rule before span after := by
  induction text using tail.induct generalizing i rule with
  | case1 text unopened => simp [rules_of_opening?_none unopened] at found
  | case2 text parts opened ih =>
    rw [rules_of_opening? opened] at found
    by_cases here : i < parts.rule?.toList.length
    · cases first : parts.rule? with
      | none => simp [first] at here
      | some stated =>
        have zero : i = 0 := by simpa [first] using here
        subst zero
        rw [first, Option.toList_some, List.singleton_append, List.getElem?_cons_zero,
          Option.some.injEq] at found
        subst found
        obtain ⟨before, span, around⟩ := exists_surrounds_first opened first
        exact ⟨before, span, parts.rest, around⟩
    · obtain ⟨j, rfl⟩ := Nat.exists_eq_add_of_le (Nat.le_of_not_lt here)
      rw [List.getElem?_append_right (Nat.le_add_right _ _), Nat.add_sub_cancel_left,
        List.getElem?_map, Option.map_eq_some_iff] at found
      obtain ⟨later, listed, rfl⟩ := found
      obtain ⟨before, span, after, around⟩ := ih listed
      exact ⟨parts.whole ++ before, span, after, around.behind opened⟩

/-- The span of a rule may be replaced by any representable block: the rules before it stay, the
new rule stands in its place, and the rules behind it move by the difference in length. -/
theorem rules_replace {text : Text} {i : Nat} {rule : Rule} {selector : Text}
    {properties : Properties} (found : (rules text)[i]? = some rule)
    (fits : Rule.Representable selector properties) :
    rules (Workspace.splice text rule (Rule.write selector properties)) =
      (rules text).take i ++ Rule.written selector properties rule.start ::
        ((rules text).drop (i + 1)).map
          (Rule.shift ((Rule.write selector properties).length - (rule.stop - rule.start))) := by
  obtain ⟨before, span, after, around⟩ := exists_surrounds found
  have begins := around.starts
  have ends := around.stops
  rw [around.splice_eq, rules_insert after around.closed fits, around.earlier, around.later,
    Rule.map_shift_shift, begins]
  congr 4
  omega

/-- Writing changes into the block of a rule replaces that rule by its changed self, whatever
stands around the block: the rules before it are the same at the same offsets, those behind it
are the same at offsets moved by the difference in length. -/
theorem rules_splice (text : Text) (i : Nat) (rule : Rule) (changes : Changes)
    (found : (rules text)[i]? = some rule)
    (fits : Rule.Representable rule.selector (changes.applyTo rule.properties)) :
    let merged := changes.applyTo rule.properties
    let block := Rule.write rule.selector merged
    rules (Workspace.splice text rule block) =
      (rules text).take i ++ Rule.written rule.selector merged rule.start ::
        ((rules text).drop (i + 1)).map (Rule.shift (block.length - (rule.stop - rule.start))) :=
  rules_replace found fits

/-- The law at a rule between a stray brace, an at-statement, a comment, a block that is no rule
and one that is never closed. -/
theorem rules_splice_malformed :
    let text :=
      "\x7d @import 'x'; /* n */ a \x7b b: c \x7d @media \x7b x\x7by:z\x7d ".toText ++
        "e\x7bf:g\x7d open \x7b".toText
    let rule : Rule := ⟨"a".toText, .ofList [("b".toText, "c".toText)], 23, 33, by decide⟩
    let changes : Changes :=
      .ofList [("b".toText, ⟨none, none⟩), ("h".toText, ⟨some "i".toText, none⟩)]
    let merged : Properties := .ofList [("h".toText, "i".toText)]
    (rules text)[0]? = some rule ∧ changes.applyTo rule.properties = merged ∧
      Rule.Representable rule.selector merged ∧
      rules (Workspace.splice text rule (Rule.write rule.selector merged)) =
        [Rule.written "a".toText merged 23,
          ⟨"e".toText, .ofList [("f".toText, "g".toText)], 53, 59, by decide⟩] := by
  intro text rule changes merged
  have found : (rules text)[0]? = some rule := by decide +kernel
  have same : changes.applyTo rule.properties = merged := by decide +kernel
  have fits : Rule.Representable rule.selector merged := by decide +kernel
  refine ⟨found, same, fits, ?_⟩
  have spliced := rules_splice text 0 rule changes found (same ▸ fits)
  simp only [same] at spliced
  rw [spliced]
  decide +kernel

end Restyle.Sheet
