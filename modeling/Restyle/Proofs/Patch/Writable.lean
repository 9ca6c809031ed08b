import Restyle.Proofs.Change.Property
import Restyle.Proofs.Patch
import Restyle.Proofs.Sheet.Declared
import Restyle.Proofs.Sheet.Spans

/-!
# Texts that a patch can write

A file is emptied before its new text is written, so the text had better be one that can be written.
What was read from a file can be, and the selectors and the properties of its rules hold none but
its code points (`writable_of_mem_rules`). Main statement: a block with changes that can be written
can be put in the place of a rule of such a text (`Workspace.writable_splice_applyTo`).
-/
namespace Restyle

open Utf8 (writable_append_iff)

/-- Of a text that can be written every part can. -/
theorem Utf8.Writable.subset {text part : Text} (writable : Utf8.Writable text)
    (inside : part ⊆ text) :
    Utf8.Writable part :=
  fun c held => writable c (inside held)

namespace Sheet

variable {text body selector : Text} {properties : Properties} {rule : Rule}

/-- The declarations of a body have none but its code points. -/
theorem textsOf_subset {entry : Text × Text} (listed : entry ∈ (readDeclarations body).entries) :
    textsOf entry ⊆ body := by
  have held := (OrderedMap.get?_eq_some_iff (readDeclarations body) entry.1 entry.2).2 listed
  obtain ⟨piece, inside, stated⟩ := List.mem_filterMap.1 (OrderedMap.mem_of_get?_ofList held)
  obtain ⟨name, value, rfl, _, left, right, _, _⟩ := of_readDeclaration? stated
  intro c here
  rw [textsOf, left, right, List.mem_append] at here
  refine (withoutComments_sublist body).subset (Text.mem_of_mem_split inside ?_)
  rcases here with here | here
  · simp [Text.mem_of_mem_trim here]
  · simp [Text.mem_of_mem_trim here]

/-- The texts of the rules of a text that can be written can be written. -/
theorem writable_of_mem_rules (writable : Utf8.Writable text) (held : rule ∈ rules text) :
    Utf8.Writable rule.selector ∧
      ∀ entry ∈ rule.properties.entries, Utf8.Writable (textsOf entry) := by
  rw [rules, List.mem_filterMap] at held
  obtain ⟨block, listed, stated⟩ := held
  obtain ⟨before, after, around, _⟩ := Block.exists_around listed
  obtain ⟨selector, properties, _⟩ := Block.of_rule? stated
  have head : block.head ⊆ text := by
    intro c here
    simp [around, here]
  have body : block.body ⊆ text := by
    intro c here
    simp [around, here]
  refine ⟨?_, fun entry stated => ?_⟩
  · rw [selector]
    exact writable.subset fun c here =>
      head ((withoutComments_sublist _).subset (Text.mem_of_mem_trim here))
  · rw [properties] at stated
    exact writable.subset fun c here => body (textsOf_subset stated here)

/-- What a text that can be written gives a property of a selector can be written, and so can the
two. -/
theorem writable_of_styleOf (writable : Utf8.Writable text) {name value : Text}
    (given : styleOf text selector name = some value) :
    Utf8.Writable selector ∧ Utf8.Writable name ∧ Utf8.Writable value := by
  rw [styleOf_eq] at given
  obtain ⟨_, listed, rfl, stated⟩ := exists_of_declared given
  obtain ⟨rule, held, rfl⟩ := List.mem_map.1 listed
  obtain ⟨named, each⟩ := writable_of_mem_rules writable held
  exact ⟨named,
    writable_append_iff.1 (each _ ((OrderedMap.get?_eq_some_iff _ name value).1 stated))⟩

/-- A block can be written when its selector and its declarations can. -/
theorem writable_write (named : Utf8.Writable selector)
    (each : ∀ entry ∈ properties.entries, Utf8.Writable (textsOf entry)) :
    Utf8.Writable (Rule.write selector properties) := by
  have declared : Utf8.Writable (writeDeclarations properties) := by
    intro c here
    obtain ⟨entry, listed, inside⟩ := List.mem_flatMap.1 here
    obtain ⟨name, value⟩ := writable_append_iff.1 (each entry listed)
    simp only [writeDeclaration, List.cons_append, List.mem_cons, List.mem_append,
      List.not_mem_nil, or_false] at inside
    rcases inside with rfl | rfl | (inside | rfl | rfl | inside) | rfl | rfl
    · rfl
    · rfl
    · exact name c inside
    · rfl
    · rfl
    · exact value c inside
    · rfl
    · rfl
  intro c here
  simp only [Rule.write, List.mem_cons, List.mem_append, List.not_mem_nil, or_false] at here
  rcases here with (here | rfl | rfl | rfl | here) | rfl
  · exact named c here
  · rfl
  · rfl
  · rfl
  · exact declared c here
  · rfl

end Sheet

/-- Merging changes whose new texts can be written into properties that can leaves such. -/
theorem Changes.writable_applyTo {changes : Changes} {properties : Properties}
    (new : ∀ entry ∈ changes.kept.entries, Utf8.Writable (Sheet.textsOf entry))
    (old : ∀ entry ∈ properties.entries, Utf8.Writable (Sheet.textsOf entry)) :
    ∀ entry ∈ (changes.applyTo properties).entries, Utf8.Writable (Sheet.textsOf entry) := by
  intro entry listed
  rw [Changes.entries_applyTo, List.mem_append] at listed
  rcases listed with revised | added
  · obtain ⟨property, known, same⟩ := List.mem_filterMap.1 revised
    rw [Changes.revise] at same
    split at same
    · obtain rfl := Option.some.inj same
      exact old property known
    · rename_i change found
      obtain ⟨value, given, rfl⟩ := Option.map_eq_some_iff.1 same
      have stated : (property.1, value) ∈ changes.kept.entries := by
        refine List.mem_filterMap.2 ⟨(property.1, change), ?_, by simp [given]⟩
        exact (OrderedMap.get?_eq_some_iff changes property.1 change).1 found
      exact new _ stated
  · refine new entry ?_
    obtain ⟨change, given, same⟩ := List.mem_filterMap.1 added
    exact List.mem_filterMap.2 ⟨change, (List.mem_filter.1 given).1, same⟩

namespace Workspace

/-- A text with a block in place of a span can be written when both can. -/
theorem writable_splice {text block : Text} (whole : Utf8.Writable text)
    (fresh : Utf8.Writable block)
    (rule : Rule) : Utf8.Writable (splice text rule block) :=
  writable_append_iff.2 ⟨writable_append_iff.2
    ⟨whole.subset (List.take_sublist _ _).subset, fresh⟩,
      whole.subset (List.drop_sublist _ _).subset⟩

/-- A text with an appended rule can be written when both can. -/
theorem writable_append_appendix {text selector : Text} {changes : Changes}
    (whole : Utf8.Writable text) (block : Utf8.Writable (Rule.write selector changes.kept)) :
    Utf8.Writable (text ++ appendix selector changes) := by
  rw [appendix, Changes.applyTo_empty]
  refine writable_append_iff.2 ⟨whole, fun c here => ?_⟩
  rcases List.mem_cons.1 here with rfl | here
  · rfl
  · rcases List.mem_cons.1 here with rfl | here
    · rfl
    · exact block c here

/-- The text of a file with changes that can be written merged into one of its rules can be
written. -/
theorem writable_splice_applyTo {text : Text} {rule : Rule} {changes : Changes}
    (whole : Utf8.Writable text) (stated : rule ∈ Sheet.rules text)
    (new : ∀ entry ∈ changes.kept.entries, Utf8.Writable (Sheet.textsOf entry)) :
    Utf8.Writable (splice text rule
      (Rule.write rule.selector (changes.applyTo rule.properties))) := by
  obtain ⟨selector, properties⟩ := Sheet.writable_of_mem_rules whole stated
  exact writable_splice whole
    (Sheet.writable_write selector (Changes.writable_applyTo new properties)) rule

end Workspace

end Restyle
