import Mathlib.Data.List.Pairwise
import Restyle.Proofs.Sheet.Gap

/-!
# Rules that are rewritten one after another

The rules of a stylesheet stand one behind the other (`pairwise_rules`), so rewriting one of them
leaves each other rule as it is or moves it (`rules_splice_eq_map`). Main statements: of two rules
either may be rewritten first (`splice_splice`), and rewriting a rule as it is written changes
nothing (`splice_written`).
-/
namespace Restyle

namespace Rule

variable {edited rule : Rule} {properties : Properties}

/-- What becomes of a rule of a stylesheet when an edited one is written with properties: the edited
rule has these, and a rule behind it is moved. -/
def revised (edited : Rule) (properties : Properties) (rule : Rule) : Rule :=
  if rule.start = edited.start then written rule.selector properties rule.start
  else if edited.start < rule.start then
    rule.shift ((write edited.selector properties).length - (edited.stop - edited.start))
  else rule

/-- The edited rule is the written one. -/
theorem revised_self (edited : Rule) (properties : Properties) :
    edited.revised properties edited = written edited.selector properties edited.start :=
  if_pos rfl

/-- A rule in front of the edited one stays. -/
theorem revised_before (before : rule.start < edited.start) :
    edited.revised properties rule = rule := by
  rw [revised, if_neg (by omega), if_neg (by omega)]

/-- A rule behind the edited one is moved. -/
theorem revised_behind (behind : edited.start < rule.start) :
    edited.revised properties rule =
      rule.shift ((write edited.selector properties).length - (edited.stop - edited.start)) := by
  rw [revised, if_neg (by omega), if_pos behind]

/-- Every rule keeps its selector. -/
@[simp] theorem selector_revised (edited : Rule) (properties : Properties) (rule : Rule) :
    (edited.revised properties rule).selector = rule.selector := by
  rw [revised]
  split
  · rfl
  · split <;> rfl

/-- Every rule but the edited one keeps its properties. -/
theorem properties_revised (apart : rule.start ≠ edited.start) :
    (edited.revised properties rule).properties = rule.properties := by
  rw [revised, if_neg apart]
  split <;> rfl

end Rule

namespace Sheet

variable {text : Text} {rule other : Rule} {i : Nat}

/-- An item of a list is one of those behind each earlier place. -/
theorem getElem_mem_drop {α : Type} {items : List α} {i j : Nat} (inside : j < items.length)
    (order : i < j) : items[j] ∈ items.drop (i + 1) := by
  refine List.mem_drop_iff_getElem.2 ⟨j - (i + 1), by omega, ?_⟩
  congr 1
  omega

/-- A rule further on in a text is one of what stands behind the span of an earlier one. -/
theorem Surrounds.exists_later {before span after : Text}
    (around : Surrounds text i rule before span after)
    (behind : other ∈ (rules text).drop (i + 1)) :
    ∃ later ∈ rules after, other = later.shift rule.stop := by
  rw [around.later] at behind
  obtain ⟨later, held, rfl⟩ := List.mem_map.1 behind
  exact ⟨later, held, rfl⟩

/-- The rules of a text stand one behind the other. -/
theorem pairwise_rules (text : Text) :
    (rules text).Pairwise fun first second => first.stop ≤ second.start := by
  refine List.pairwise_iff_getElem.2 fun i j inside inside' order => ?_
  obtain ⟨before, span, after, around⟩ := exists_surrounds (List.getElem?_eq_getElem inside)
  obtain ⟨later, held, same⟩ := around.exists_later (getElem_mem_drop inside' order)
  have bound := start_nonneg held
  rw [same]
  simp only [Rule.shift]
  omega

/-- Of two rules of a text one stands behind the other. -/
theorem stop_le_start_or (held : rule ∈ rules text) (held' : other ∈ rules text)
    (apart : rule ≠ other) : rule.stop ≤ other.start ∨ other.stop ≤ rule.start := by
  have either : (rules text).Pairwise fun first second =>
      first.stop ≤ second.start ∨ second.stop ≤ first.start := (pairwise_rules text).imp Or.inl
  have symmetric : Std.Symm fun first second : Rule =>
      first.stop ≤ second.start ∨ second.stop ≤ first.start := ⟨fun _ _ => Or.symm⟩
  exact either.forall held held' apart

/-- Rules of a text that start at the same place are the same. -/
theorem eq_of_start_eq (held : rule ∈ rules text) (held' : other ∈ rules text)
    (same : rule.start = other.start) : rule = other := by
  by_contra apart
  have ordered := rule.ordered
  have ordered' := other.ordered
  rcases stop_le_start_or held held' apart with first | first
  · omega
  · omega

/-- Rewriting a rule of a text revises its rules. -/
theorem rules_splice_eq_map {properties : Properties} (held : rule ∈ rules text)
    (fits : Rule.Representable rule.selector properties) :
    rules (Workspace.splice text rule (Rule.write rule.selector properties)) =
      (rules text).map (rule.revised properties) := by
  obtain ⟨i, found⟩ := List.getElem?_of_mem held
  obtain ⟨inside, rfl⟩ := List.getElem?_eq_some_iff.1 found
  have parted : rules text =
      (rules text).take i ++ (rules text)[i] :: (rules text).drop (i + 1) := by
    rw [← List.drop_eq_getElem_cons inside, List.take_append_drop]
  have ordered := pairwise_rules text
  rw [parted, List.pairwise_append, List.pairwise_cons] at ordered
  obtain ⟨_, ⟨behind, _⟩, before⟩ := ordered
  have own := (rules text)[i].ordered
  have whole := congrArg (List.map ((rules text)[i].revised properties)) parted
  rw [List.map_append, List.map_cons, Rule.revised_self] at whole
  rw [rules_replace found fits, whole]
  congr 1
  · refine (List.map_id' _).symm.trans (List.map_congr_left fun other listed => ?_)
    have ahead := before other listed _ List.mem_cons_self
    have ordered := other.ordered
    rw [Rule.revised_before (by omega)]
  · congr 1
    refine List.map_congr_left fun other listed => ?_
    have later := behind other listed
    rw [Rule.revised_behind (by omega)]

/-- Rewriting a rule leaves each other rule with its selector, its properties and a place of its
own. -/
theorem revised_mem {properties : Properties} (held : rule ∈ rules text)
    (fits : Rule.Representable rule.selector properties) (held' : other ∈ rules text) :
    rule.revised properties other ∈
      rules (Workspace.splice text rule (Rule.write rule.selector properties)) := by
  rw [rules_splice_eq_map held fits]
  exact List.mem_map_of_mem held'

/-- Of a rule and one further on either may be rewritten first. -/
theorem splice_splice_behind (found : (rules text)[i]? = some rule)
    (behind : other ∈ (rules text).drop (i + 1)) (properties properties' : Properties) :
    Workspace.splice
        (Workspace.splice text rule (Rule.write rule.selector properties))
        (rule.revised properties other) (Rule.write other.selector properties') =
      Workspace.splice
        (Workspace.splice text other (Rule.write other.selector properties'))
        (other.revised properties' rule) (Rule.write rule.selector properties) := by
  obtain ⟨before, span, rest, around⟩ := exists_surrounds found
  obtain ⟨later, held, rfl⟩ := around.exists_later behind
  obtain ⟨j, listed⟩ := List.getElem?_of_mem held
  obtain ⟨between, span', after, around'⟩ := exists_surrounds listed
  have starts := around.starts
  have stops := around.stops
  have starts' := around'.starts
  have stops' := around'.stops
  have own := rule.ordered
  have order : rule.start < (later.shift rule.stop).start := by
    simp only [Rule.shift]
    omega
  have first := splice_append starts stops (Rule.write rule.selector properties)
  rw [Rule.revised_behind order, Rule.revised_before order, around.parted, around'.parted, first]
  -- the text is parted around the spans of both rules, and each is replaced in its own part
  have second : ∀ own : Text,
      Workspace.splice ((before ++ (own ++ between)) ++ (span' ++ after))
        ((later.shift rule.stop).shift (own.length - (rule.stop - rule.start)))
        (Rule.write later.selector properties') =
      (before ++ (own ++ between)) ++ (Rule.write later.selector properties' ++ after) := by
    intro own
    refine splice_append ?_ ?_ _ _
    · simp only [Rule.shift, List.length_append]
      omega
    · simp only [Rule.shift, List.length_append]
      omega
  have whole := second span
  have same : (span.length : Int) - (rule.stop - rule.start) = 0 := by omega
  rw [same, Rule.shift_zero] at whole
  have moved := second (Rule.write rule.selector properties)
  simp only [List.append_assoc] at whole moved first ⊢
  have selector : (later.shift rule.stop).selector = later.selector := rfl
  rw [selector, moved, whole, first]

/-- Of two rules of a text either may be rewritten first. -/
theorem splice_splice (held : rule ∈ rules text) (held' : other ∈ rules text)
    (apart : rule ≠ other) (properties properties' : Properties) :
    Workspace.splice
        (Workspace.splice text rule (Rule.write rule.selector properties))
        (rule.revised properties other) (Rule.write other.selector properties') =
      Workspace.splice
        (Workspace.splice text other (Rule.write other.selector properties'))
        (other.revised properties' rule) (Rule.write rule.selector properties) := by
  obtain ⟨i, inside, rfl⟩ := List.getElem_of_mem held
  obtain ⟨j, inside', rfl⟩ := List.getElem_of_mem held'
  rcases Nat.lt_trichotomy i j with order | rfl | order
  · exact splice_splice_behind (List.getElem?_eq_getElem inside) (getElem_mem_drop inside' order)
      properties properties'
  · exact absurd rfl apart
  · exact (splice_splice_behind (List.getElem?_eq_getElem inside') (getElem_mem_drop inside order)
      properties' properties).symm

/-- A written block that is written again stays. -/
theorem splice_written (before after selector : Text) (properties : Properties) :
    Workspace.splice (before ++ (Rule.write selector properties ++ after))
        (Rule.written selector properties before.length) (Rule.write selector properties) =
      before ++ (Rule.write selector properties ++ after) :=
  splice_append rfl rfl _ after

end Sheet

end Restyle
