import Restyle.Sheet.Rule

/-!
# Scanning stylesheets

A block is an opening brace and the first closing brace after it; braces do not nest. What
stands before the opening brace, back to the last block or the last stray closing brace, is the
block's lead; without its leading filler it is the head, which the selector is read from.
Blocks whose head is empty or mentions an at-sign are no rules. A text after which no block
closes is the tail.
-/
namespace Restyle

namespace Sheet

/-- A block of a text, by the text of its parts and the offsets of its span. -/
structure Block where
  /-- What stands before the opening brace, without leading filler. -/
  head : Text
  /-- What stands between the braces. -/
  body : Text
  /-- Offset of the head. -/
  start : Nat
  /-- Offset just after the closing brace. -/
  stop : Nat
  /-- A block holds its braces at least. -/
  ordered : start < stop
deriving DecidableEq

/-- The parts of a text around its first block. -/
structure Opening where
  /-- What stands before the opening brace. -/
  lead : Text
  /-- What stands between the braces. -/
  body : Text
  /-- What follows the closing brace. -/
  rest : Text

/-- The first block of a text. -/
def opening? (text : Text) : Option Opening :=
  match Text.cut? '\x7b' text with
  | none => none
  | some (lead, inside) =>
    match Text.cut? '\x7d' inside with
    | none => none
    | some (body, rest) => some ⟨lead, body, rest⟩

/-- A text is its first block and what stands around it. -/
theorem eq_of_opening? {text : Text} {parts : Opening} (found : opening? text = some parts) :
    text = parts.lead ++ .char '\x7b' :: (parts.body ++ .char '\x7d' :: parts.rest) := by
  unfold opening? at found
  split at found
  · simp at found
  · rename_i lead inside outer
    split at found
    · simp at found
    · rename_i body rest inner
      simp only [Option.some.injEq] at found
      subst found
      rw [(Text.eq_of_cut? outer).1, (Text.eq_of_cut? inner).1]

/-- What follows a block is shorter. -/
theorem length_of_opening? {text : Text} {parts : Opening} (found : opening? text = some parts) :
    parts.rest.length < text.length := by
  rw [eq_of_opening? found]
  simp only [List.length_append, List.length_cons]
  omega

/-- The head of a block, from what stands before its opening brace. -/
def headOf (lead : Text) : Text := skipFiller (Text.afterLast '\x7d' lead)

/-- The blocks of a text that starts at `offset`. -/
def blocksFrom (offset : Nat) (text : Text) : List Block :=
  match found : opening? text with
  | none => []
  | some parts =>
    let head := headOf parts.lead
    let brace := offset + parts.lead.length
    let stop := brace + parts.body.length + 2
    ⟨head, parts.body, brace - head.length, stop, by omega⟩ :: blocksFrom stop parts.rest
termination_by text.length
decreasing_by exact length_of_opening? found

/-- The rule that a block states. -/
def Block.rule? (block : Block) : Option Rule :=
  let selector := Text.trim (withoutComments block.head)
  if selector.isEmpty || selector.contains '@' then none
  else some ⟨selector, readDeclarations block.body, block.start, block.stop, by
    have := block.ordered
    omega⟩

/-- The rules of a stylesheet, in order. -/
def rules (text : Text) : List Rule := (blocksFrom 0 text).filterMap Block.rule?

/-- The properties of each selector of a stylesheet: rules of one selector are put together,
later declarations taking the place of earlier ones, and a selector without any is left out. -/
def bySelector (text : Text) : OrderedMap Text Properties :=
  (rules text).foldl
    (fun merged rule =>
      if rule.properties.isEmpty then merged
      else
        let known := (merged.get? rule.selector).getD .empty
        merged.insert rule.selector (known.insertAll rule.properties.entries))
    .empty

end Sheet

end Restyle
