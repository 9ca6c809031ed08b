import Restyle.Proofs.Change.Property
import Restyle.Proofs.Sheet.Gap
import Restyle.Proofs.Sheet.Legible

/-!
# What an update makes of a stylesheet

Whatever texts a written block holds, it ends with a closing brace, so nothing in it is left open
behind it: the rules before the block and those behind it are as they were, and only the block
itself may be read as something else than was meant (`rules_update`). It is read as one rule of its
selector and its properties exactly when every declaration is legible and the scan takes none of it
for a comment (`map_statement_write_iff`).
-/
namespace Restyle.Sheet

variable {text selector : Text} {properties : Properties} {rule : Rule} {i : Nat}

/-- An opening brace begins a block when a closing brace ends the text. -/
theorem exists_opening?_concat (held : .char '\x7b' ∈ text) :
    ∃ parts, opening? (text ++ [.char '\x7d']) = some parts := by
  rw [← Option.ne_none_iff_exists', ne_eq, opening?_eq_none_iff]
  intro unclosed
  obtain ⟨lead, inside, rfl, _⟩ := List.eq_append_cons_of_mem held
  exact unclosed lead (inside ++ [.char '\x7d']) (by simp) (by simp)

/-- A text that ends with a closing brace is closed. -/
theorem closed_concat (text : Text) : Closed (text ++ [.char '\x7d']) := by
  obtain ⟨passed, whole⟩ := exists_tail (text ++ [.char '\x7d'])
  have unopened := opening?_tail (text ++ [.char '\x7d'])
  rw [Closed]
  generalize tail (text ++ [.char '\x7d']) = behind at whole unopened
  rcases List.eq_nil_or_concat behind with rfl | ⟨front, c, rfl⟩
  · exact ⟨by simp, headOf_nil⟩
  · have last := congrArg List.getLast? whole
    simp only [List.concat_eq_append, ← List.append_assoc, List.getLast?_concat,
      Option.some.injEq] at last
    subst last
    rw [List.concat_eq_append] at unopened ⊢
    refine ⟨fun held => ?_, ?_⟩
    · have inner : .char '\x7b' ∈ front := by simpa using held
      obtain ⟨parts, opened⟩ := exists_opening?_concat inner
      rw [unopened] at opened
      contradiction
    · have nothing : Text.afterLast '\x7d' [.char '\x7d'] = [] := by decide
      rw [headOf, Text.afterLast_append_of_mem front (by simp), nothing, skipFiller]

/-- The span of a rule may be replaced by any closed text: the rules before it stay, the rules of
the text stand in its place, and the rules behind it move by the difference in length. -/
theorem rules_replace_closed {block : Text} (found : (rules text)[i]? = some rule)
    (closed : Closed block) :
    rules (Workspace.splice text rule block) =
      (rules text).take i ++ ((rules block).map (Rule.shift rule.start) ++
        ((rules text).drop (i + 1)).map
          (Rule.shift (block.length - (rule.stop - rule.start)))) := by
  obtain ⟨before, span, after, around⟩ := exists_surrounds found
  have begins := around.starts
  have ends := around.stops
  rw [around.splice_eq, around.closed.rules_append, closed.rules_append, around.earlier,
    around.later, List.map_append, Rule.map_shift_shift, Rule.map_shift_shift, begins]
  congr 4
  omega

/-- A selector as rules have it: it has no blanks around it, and no at-sign and no brace in it. -/
structure Selectable (selector : Text) : Prop where
  /-- The selector is not empty. -/
  given : selector ≠ []
  /-- The selector has no blanks around it. -/
  trimmed : Text.trim selector = selector
  /-- No character of the selector ends it or bars its rule. -/
  plain : ∀ c ∈ selector, c ≠ '\x7b' ∧ c ≠ '\x7d' ∧ c ≠ '@'

/-- The rule of a block has a selector as rules have it and legible properties. -/
theorem of_mem_rules (held : rule ∈ rules text) :
    Selectable rule.selector ∧ ∀ entry ∈ rule.properties.entries, Legible entry := by
  rw [rules, List.mem_filterMap] at held
  obtain ⟨block, listed, stated⟩ := held
  obtain ⟨opens, closes, closing⟩ := Block.not_mem_of_mem_blocksFrom listed
  have proper := stated
  simp only [Block.rule?] at proper
  split at proper
  · simp at proper
  · rename_i fit
    obtain ⟨selector, properties, _⟩ := Block.of_rule? stated
    rw [← selector] at fit
    simp only [Bool.or_eq_true, List.isEmpty_iff, List.contains_iff_mem, not_or] at fit
    have inside : ∀ c ∈ rule.selector, c ∈ block.head := by
      intro c here
      rw [selector] at here
      exact (withoutComments_sublist _).subset (Text.mem_of_mem_trim here)
    refine ⟨⟨fit.1, ?_, fun c here => ⟨?_, ?_, ?_⟩⟩, fun entry listed => ?_⟩
    · rw [selector, Text.trim_trim]
    · rintro rfl
      exact opens (inside _ here)
    · rintro rfl
      exact closes (inside _ here)
    · rintro rfl
      exact fit.2 here
    · rw [properties] at listed
      exact legible_of_mem_readDeclarations closing listed

/-- The scan takes nothing of a written block for a comment. -/
structure Uncommented (selector : Text) (properties : Properties) : Prop where
  /-- No comment stands in the selector. -/
  selector : withoutComments selector = selector
  /-- No comment stands in the written declarations. -/
  body : withoutComments (writeDeclarations properties) = writeDeclarations properties

instance (selector : Text) (properties : Properties) :
    Decidable (Uncommented selector properties) :=
  decidable_of_iff
    (withoutComments selector = selector ∧
      withoutComments (writeDeclarations properties) = writeDeclarations properties)
    ⟨fun ⟨head, body⟩ => ⟨head, body⟩, fun ⟨head, body⟩ => ⟨head, body⟩⟩

/-- No closing brace stands in legible declarations. -/
theorem not_mem_writeDeclarations (legible : ∀ entry ∈ properties.entries, Legible entry) :
    .char '\x7d' ∉ writeDeclarations properties := by
  intro held
  obtain ⟨entry, listed, here⟩ := List.mem_flatMap.1 held
  have free := fun c inside => ((legible entry listed).plain c inside).2
  have name : .char '\x7d' ∉ entry.1 := fun inside => free _ (List.mem_append_left _ inside) rfl
  have value : .char '\x7d' ∉ entry.2 := fun inside => free _ (List.mem_append_right _ inside) rfl
  simp [writeDeclaration, name, value] at here

/-- A written block without inner braces is one block, and its lead is its selector. -/
theorem opening?_write_of_not_mem (opens : .char '\x7b' ∉ selector)
    (closes : .char '\x7d' ∉ writeDeclarations properties) :
    opening? (Rule.write selector properties) =
      some ⟨selector ++ [.char ' '], .char '\n' :: writeDeclarations properties, []⟩ :=
  opening?_eq_some_iff.2 ⟨by simp [Rule.write], by simp [opens], by simp [closes]⟩

/-- No filler leads a selector without comments. -/
theorem headOf_selector (fit : Selectable selector) (bare : withoutComments selector = selector) :
    headOf (selector ++ [.char ' ']) = selector ++ [.char ' '] := by
  have free : .char '\x7d' ∉ selector ++ [.char ' '] := by
    rw [List.mem_append, not_or]
    exact ⟨fun held => (fit.plain _ held).2.1 rfl, by decide⟩
  have alone : headOf (selector ++ [.char ' ']) = skipFiller (selector ++ [.char ' ']) :=
    headOf_append headOf_nil free
  rw [alone]
  cases selector with
  | nil => exact absurd rfl fit.given
  | cons c rest =>
    have seen := Text.not_isBlank_of_trim fit.trimmed
    obtain ⟨_, closes, sign⟩ := fit.plain c (by simp)
    refine skipFiller_cons_eq_self (by simp [seen, closes]) (fun inside slash star => ?_)
      (absurd · sign)
    -- the blank behind the selector closes no comment, and no comment is closed in it
    cases rest with
    | nil => simp at star
    | cons d rest =>
      obtain ⟨rfl, rfl⟩ := List.cons.inj star
      rw [slash] at bare
      exact afterComment?_concat_eq_none (by decide) (afterComment?_eq_none_of_bare bare)

/-- The first rule of a written block without inner braces is read from its selector and its
declarations. -/
theorem rules_write_of_not_mem (opens : .char '\x7b' ∉ selector)
    (closes : .char '\x7d' ∉ writeDeclarations properties) :
    rules (Rule.write selector properties) =
      (Opening.rule? ⟨selector ++ [.char ' '], .char '\n' :: writeDeclarations properties,
        []⟩).toList := by
  have nothing : rules [] = [] := rules_of_opening?_none (opening?_eq_none (by simp))
  rw [rules_of_opening? (opening?_write_of_not_mem opens closes), nothing, List.map_nil,
    List.append_nil]

/-- A written block with legible declarations and without comments is read back. -/
theorem representable_of_legible (fit : Selectable selector)
    (bare : Uncommented selector properties)
    (legible : ∀ entry ∈ properties.entries, Legible entry) :
    Rule.Representable selector properties := by
  have opens : .char '\x7b' ∉ selector := fun held => (fit.plain _ held).1 rfl
  have closes := not_mem_writeDeclarations legible
  have single : ∀ c ∈ ([.char ' '] : Text), Text.isBlank c = true := List.all_eq_true.1 (by decide)
  have head : Text.trim (withoutComments (selector ++ [.char ' '])) = selector := by
    rw [withoutComments_concat (by decide) (by decide), bare.selector,
      Text.trim_append_right single, fit.trimmed]
  have sign : selector.contains '@' = false := by
    rw [Bool.eq_false_iff, ne_eq, List.contains_iff_mem]
    exact fun held => (fit.plain _ held).2.2 rfl
  rw [Rule.Representable, rules_write_of_not_mem opens closes, Opening.rule?, Block.rule?]
  simp only [headOf_selector fit bare.selector, head, sign,
    readDeclarations_written legible bare.body]
  simp [fit.given, Rule.written, Rule.write]
  omega

/-- A selector that its head is read back as is the head, and no comment stands in it. -/
theorem withoutComments_of_headOf (given : selector ≠ [])
    (read : Text.trim (withoutComments (headOf (selector ++ [.char ' ']))) = selector) :
    withoutComments selector = selector := by
  obtain ⟨front, whole, _⟩ := exists_headOf (selector ++ [.char ' '])
  generalize headOf (selector ++ [.char ' ']) = head at read whole
  rcases List.eq_nil_or_concat head with rfl | ⟨rest, c, rfl⟩
  · rw [withoutComments] at read
    exact absurd read.symm given
  · rw [List.concat_eq_append, ← List.append_assoc] at whole
    obtain ⟨parted, last⟩ := List.append_inj' whole rfl
    obtain rfl : ' ' = c := List.singleton_inj.1 last
    have single : ∀ c ∈ ([.char ' '] : Text), Text.isBlank c = true :=
      List.all_eq_true.1 (by decide)
    rw [List.concat_eq_append, withoutComments_concat (by decide) (by decide),
      Text.trim_append_right single] at read
    -- nothing may be lost on the way from the selector to what is read back
    have left := withoutComments_sublist rest
    have trimmed := Text.trim_sublist (withoutComments rest)
    have sizes := congrArg List.length parted
    have kept := trimmed.length_le
    rw [read] at kept
    rw [List.length_append] at sizes
    have bound := left.length_le
    have nothing : front = [] := List.eq_nil_of_length_eq_zero (by omega)
    rw [nothing, List.nil_append] at parted
    rw [← parted] at left
    exact left.eq_of_length_le (by rw [parted] at kept ⊢; exact kept)

/-- A written block is read as one rule of its selector and its properties exactly when no comment
is found in it and all its declarations are legible. -/
theorem map_statement_write_iff (fit : Selectable selector) :
    (rules (Rule.write selector properties)).map Rule.statement = [(selector, properties)] ↔
      Uncommented selector properties ∧ ∀ entry ∈ properties.entries, Legible entry := by
  constructor
  · intro read
    obtain ⟨rule, all, stated⟩ := List.map_eq_singleton_iff.1 read
    obtain ⟨selector_eq, properties_eq⟩ := Prod.mk.inj stated
    have held : rule ∈ rules (Rule.write selector properties) := by simp [all]
    have legible := (of_mem_rules held).2
    rw [properties_eq] at legible
    have opens : .char '\x7b' ∉ selector := fun held => (fit.plain _ held).1 rfl
    have closes := not_mem_writeDeclarations legible
    rw [rules_write_of_not_mem opens closes, Option.toList_eq_singleton_iff] at all
    obtain ⟨head, body, _⟩ := Block.of_rule? all
    simp only at head body
    rw [selector_eq] at head
    rw [properties_eq] at body
    have bare := ((readDeclarations_written_iff closes).1 body.symm).2
    exact ⟨⟨withoutComments_of_headOf fit.given head.symm, bare⟩, legible⟩
  · rintro ⟨bare, legible⟩
    rw [representable_of_legible fit bare legible]
    rfl

/-- A block is representable exactly when no comment is found in it and all its declarations are
legible. -/
theorem representable_iff (fit : Selectable selector) :
    Rule.Representable selector properties ↔
      Uncommented selector properties ∧ ∀ entry ∈ properties.entries, Legible entry := by
  refine ⟨fun fits => (map_statement_write_iff fit).1 ?_,
    fun ⟨bare, legible⟩ => representable_of_legible fit bare legible⟩
  rw [fits]
  rfl

/-- Changes merged into legible properties leave all of them legible exactly when all that they
write is. -/
theorem legible_applyTo_iff (legible : ∀ entry ∈ properties.entries, Legible entry)
    (changes : Changes) :
    (∀ entry ∈ (changes.applyTo properties).entries, Legible entry) ↔
      ∀ entry ∈ changes.kept.entries, Legible entry := by
  have merged := changes.get?_applyTo properties
  have written := changes.get?_applyTo .empty
  rw [changes.applyTo_empty] at written
  refine ⟨fun all entry listed => all entry ?_, fun all entry listed => ?_⟩
  · rw [← OrderedMap.get?_eq_some_iff, written] at listed
    rw [← OrderedMap.get?_eq_some_iff, merged]
    cases change : changes.get? entry.1 with
    | none => simp [change] at listed
    | some change' => simpa [change] using listed
  · rw [← OrderedMap.get?_eq_some_iff, merged] at listed
    cases change : changes.get? entry.1 with
    | none =>
      simp only [change] at listed
      exact legible entry ((OrderedMap.get?_eq_some_iff _ _ _).1 listed)
    | some change' =>
      simp only [change] at listed
      refine all entry ((OrderedMap.get?_eq_some_iff _ _ _).1 ?_)
      simp only [written, change, listed]

/-- Writing changes into the block of a rule leaves the rules before it and, moved, those behind
it, whatever the changes hold. The rule itself has its changed properties, and no other rule comes
of it, exactly when no comment is found in the block and all that the changes write is legible. -/
theorem rules_update (found : (rules text)[i]? = some rule) (changes : Changes) :
    let merged := changes.applyTo rule.properties
    let block := Rule.write rule.selector merged
    let after := rules (Workspace.splice text rule block)
    after = (rules text).take i ++ ((rules block).map (Rule.shift rule.start) ++
        ((rules text).drop (i + 1)).map
          (Rule.shift (block.length - (rule.stop - rule.start)))) ∧
      (after.map Rule.statement =
          ((rules text).map Rule.statement).set i (rule.selector, merged) ↔
        Uncommented rule.selector merged ∧ ∀ entry ∈ changes.kept.entries, Legible entry) := by
  intro merged block after
  obtain ⟨fit, legible⟩ := of_mem_rules (List.mem_of_getElem? found)
  have spliced : after = _ := rules_replace_closed found
    (closed_concat
      (rule.selector ++ .char ' ' :: .char '\x7b' :: .char '\n' :: writeDeclarations merged))
  have parts : after.map Rule.statement =
      ((rules text).map Rule.statement).take i ++ ((rules block).map Rule.statement ++
        ((rules text).map Rule.statement).drop (i + 1)) := by
    simp only [spliced, List.map_append, List.map_map, Rule.statement_comp_shift, List.map_take,
      List.map_drop]
  have short : i < ((rules text).map Rule.statement).length := by
    rw [List.length_map]
    exact (List.getElem?_eq_some_iff.1 found).1
  refine ⟨spliced, ?_⟩
  rw [parts, List.set_eq_take_append_cons_drop, if_pos short, List.append_cancel_left_eq,
    ← List.singleton_append, List.append_left_inj, ← legible_applyTo_iff legible changes,
    ← map_statement_write_iff fit]

end Restyle.Sheet
