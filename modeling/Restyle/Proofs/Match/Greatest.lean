import Mathlib.Data.List.ProdSigma
import Mathlib.Data.Prod.Lex
import Mathlib.Data.Set.Finite.Lemmas
import Mathlib.Order.Bounds.Basic
import Restyle.Match.Best

/-!
# The first of the greatest pairs

The pairs of a rule and a candidate are ranked in the lexicographic order of whether their
selectors are equal and of their score (`keyOf`). Keeping the better of the best pair so far and
the next one comes to the first of the greatest pairs (`foldl_better_of_greatest`). It is the
best match where it is above both the key that the search starts with and the threshold
(`best?_of_isGreatest`). Main statement: `best?_first_greatest`.
-/
namespace Restyle.Match

/-- A rank in the lexicographic order: equal selectors are above all others, and then the score
counts. -/
def Rank.key (rank : Rank) : Bool ×ₗ Int := toLex (rank.exact, rank.score)

/-- One rank is below another in the lexicographic order. -/
theorem Rank.lt_iff {first second : Rank} : first.lt second = true ↔ first.key < second.key := by
  obtain ⟨exact₁, score₁⟩ := first
  obtain ⟨exact₂, score₂⟩ := second
  rw [Rank.key, Rank.key, Prod.Lex.toLex_lt_toLex]
  cases exact₁ <;> cases exact₂ <;> simp [Rank.lt]

/-- One rank is not below another when that one is at most as high. -/
theorem Rank.lt_eq_false_iff {first second : Rank} :
    first.lt second = false ↔ second.key ≤ first.key := by
  rw [← not_lt, ← Rank.lt_iff, Bool.not_eq_true]

/-- The key that the search starts with: other selectors and no score. -/
def leastKey : Bool ×ₗ Int := toLex (false, 0)

/-- What a rule at its place and a candidate are ranked by. -/
def keyOf (weights : Weights) (classes : List Text) (pair : (Text × Rule) × Variation) :
    Bool ×ₗ Int :=
  if pair.1.2.selector = pair.2.selector then toLex (true, weights.exact)
  else toLex (false, score weights pair.1.2.selector pair.2.selector classes)

/-- The match of a rule at its place and a candidate. -/
def foundOf (weights : Weights) (classes : List Text) (pair : (Text × Rule) × Variation) : Found :=
  ⟨pair.1.1, pair.1.2, pair.2.selector, (ofLex (keyOf weights classes pair)).2⟩

/-- The keys of all pairs of a rule and a candidate. -/
def keys (weights : Weights) (classes : List Text) (variations : List Variation)
    (space : List (Text × Rule)) : Set (Bool ×ₗ Int) :=
  {key | ∃ place ∈ space, ∃ variation ∈ variations, keyOf weights classes (place, variation) = key}

variable {weights : Weights} {classes : List Text} {variations : List Variation}
  {space : List (Text × Rule)} {top : Bool ×ₗ Int}

/-- The keys are those of the pairs in the product. -/
theorem mem_keys_iff {key : Bool ×ₗ Int} : key ∈ keys weights classes variations space ↔
    ∃ pair ∈ space ×ˢ variations, keyOf weights classes pair = key := by
  simp only [keys, Set.mem_ofPred_eq, Prod.exists, List.mem_product]
  grind

/-- No pair is below the key that the search starts with. -/
theorem leastKey_le_keyOf (weights : Weights) (classes : List Text)
    (pair : (Text × Rule) × Variation) : leastKey ≤ keyOf weights classes pair := by
  rw [leastKey, keyOf]
  split
  · exact (Prod.Lex.toLex_lt_toLex.2 (.inl Bool.false_lt_true)).le
  · rename_i other
    rw [Prod.Lex.toLex_le_toLex]
    refine .inr ⟨rfl, ?_⟩
    rw [score, if_neg other]
    exact le_max_left _ _

/-- The pairs that are ranked are those of the rules with the candidates, in their order. -/
theorem pairings_eq (weights : Weights) (classes : List Text) (variations : List Variation)
    (space : List (Text × Rule)) :
    pairings weights classes variations space = (space ×ˢ variations).map fun pair =>
      (rank weights pair.1.2.selector pair.2.selector classes, foundOf weights classes pair) := by
  have each : ∀ (place : Text × Rule) (variation : Variation),
      pairing weights classes place.1 place.2 variation.selector =
        (rank weights place.2.selector variation.selector classes,
          foundOf weights classes (place, variation)) := by
    intro place variation
    simp only [pairing, foundOf, keyOf, rank]
    split <;> rfl
  show _ = (space.flatMap fun place => variations.map (Prod.mk place)).map _
  rw [List.map_flatMap, pairings]
  simp only [each, List.map_map, Function.comp_def]

/-- A rank is the key of its pair. -/
theorem key_rank (weights : Weights) (classes : List Text) (pair : (Text × Rule) × Variation) :
    (rank weights pair.1.2.selector pair.2.selector classes).key = keyOf weights classes pair := by
  rw [rank, keyOf]
  split <;> rfl

/-- A pair that none of the next ones is above stays the best. -/
theorem foldl_better_eq {best : Rank × Option Found} {pairs : List (Rank × Found)}
    (top : ∀ pair ∈ pairs, pair.1.key ≤ best.1.key) : pairs.foldl better best = best := by
  induction pairs with
  | nil => rfl
  | cons pair rest ih =>
    have below := Rank.lt_eq_false_iff.2 (top pair (by simp))
    rw [List.foldl_cons, better, below, if_neg Bool.false_ne_true]
    exact ih fun other listed => top other (by simp [listed])

/-- The best pair is the first one of the greatest key, if that is above the best key so far. -/
theorem foldl_better_of_greatest {best : Rank × Option Found} {pairs : List (Rank × Found)}
    (start : best.1.key < top) (bound : ∀ pair ∈ pairs, pair.1.key ≤ top)
    (attained : ∃ pair ∈ pairs, pair.1.key = top) :
    (pairs.foldl better best).2 = (pairs.find? fun pair => pair.1.key = top).map Prod.snd := by
  induction pairs generalizing best with
  | nil => simp at attained
  | cons pair rest ih =>
    have later : ∀ other ∈ rest, other.1.key ≤ top := fun other listed =>
      bound other (by simp [listed])
    rw [List.foldl_cons, List.find?_cons]
    by_cases high : pair.1.key = top
    · have above : best.1.lt pair.1 = true := Rank.lt_iff.2 (high ▸ start)
      rw [better, if_pos above, foldl_better_eq fun other listed => high ▸ later other listed]
      simp [high]
    · -- the first of the greatest is still to come, whichever of the two is the better one
      have below : (better best pair).1.key < top := by
        rw [better]
        split
        · exact lt_of_le_of_ne (bound pair (by simp)) high
        · exact start
      simp only [high, decide_false]
      refine ih below later ?_
      obtain ⟨other, listed, same⟩ := attained
      rcases List.mem_cons.1 listed with rfl | listed
      · exact absurd same high
      · exact ⟨other, listed, same⟩

/-- There is a greatest key where there is one. -/
theorem exists_isGreatest_keys (given : (keys weights classes variations space).Nonempty) :
    ∃ top, IsGreatest (keys weights classes variations space) top := by
  obtain ⟨key, known⟩ := given
  obtain ⟨pair, listed, _⟩ := mem_keys_iff.1 known
  obtain ⟨greatest, held, above⟩ := Set.exists_max_image {pair | pair ∈ space ×ˢ variations}
    (keyOf weights classes) (List.finite_toSet _) ⟨pair, listed⟩
  refine ⟨_, mem_keys_iff.2 ⟨greatest, held, rfl⟩, fun key known => ?_⟩
  obtain ⟨pair, listed, rfl⟩ := mem_keys_iff.1 known
  exact above pair listed

/-- There is no key exactly where there is no pair. -/
theorem keys_eq_empty_iff :
    keys weights classes variations space = ∅ ↔ space ×ˢ variations = [] := by
  simp only [Set.eq_empty_iff_forall_notMem, mem_keys_iff, List.eq_nil_iff_forall_not_mem]
  grind

/-- The first pair of two lists that passes a test is one of the first item that passes it with
some partner. -/
theorem map_fst_find?_product {α β : Type} (test : α × β → Bool) (items : List α)
    (partners : List β) :
    ((items ×ˢ partners).find? test).map Prod.fst =
      items.find? fun item => partners.any fun partner => test (item, partner) := by
  induction items with
  | nil => rfl
  | cons item rest ih =>
    have parted : (item :: rest) ×ˢ partners = partners.map (Prod.mk item) ++ rest ×ˢ partners :=
      rfl
    rw [parted, List.find?_append, List.find?_map, List.find?_cons]
    cases held : partners.find? (test ∘ Prod.mk item) with
    | none =>
      have without : (partners.any fun partner => test (item, partner)) = false := by
        simpa using List.find?_eq_none.1 held
      simp [without, ih]
    | some partner =>
      have passes : test (item, partner) = true := by simpa using List.find?_some held
      have paired : (partners.any fun partner => test (item, partner)) = true :=
        List.any_eq_true.2 ⟨partner, List.mem_of_find?_eq_some held, passes⟩
      simp [paired]

/-- Nothing matches where there is no key. -/
theorem best?_of_keys_eq_empty (empty : keys weights classes variations space = ∅) :
    best? weights variations classes space = none := by
  rw [best?, pairings_eq, keys_eq_empty_iff.1 empty]
  rfl

/-- The best match is the first pair of the greatest key, if that is above the key that the search
starts with and has a score above the threshold. -/
theorem best?_of_isGreatest (greatest : IsGreatest (keys weights classes variations space) top) :
    best? weights variations classes space =
      if top = leastKey ∨ (ofLex top).2 ≤ weights.threshold then none
      else ((space ×ˢ variations).find? fun pair => keyOf weights classes pair = top).map
        (foundOf weights classes) := by
  have bound : ∀ pair ∈ pairings weights classes variations space, pair.1.key ≤ top := by
    intro pair listed
    rw [pairings_eq] at listed
    obtain ⟨held, inside, rfl⟩ := List.mem_map.1 listed
    rw [key_rank]
    exact greatest.2 (mem_keys_iff.2 ⟨held, inside, rfl⟩)
  obtain ⟨first, held, same⟩ := mem_keys_iff.1 greatest.1
  rw [best?]
  by_cases low : top = leastKey
  · have start : ∀ pair ∈ pairings weights classes variations space,
        pair.1.key ≤ leastKey := fun pair listed => (bound pair listed).trans low.le
    rw [foldl_better_eq start, if_pos (.inl low)]
  · have start : Rank.key ⟨false, 0⟩ < top :=
      lt_of_le_of_ne (same ▸ leastKey_le_keyOf weights classes first) (Ne.symm low)
    have attained : ∃ pair ∈ pairings weights classes variations space, pair.1.key = top := by
      rw [pairings_eq]
      exact ⟨_, List.mem_map.2 ⟨first, held, rfl⟩, (key_rank weights classes first).trans same⟩
    rw [foldl_better_of_greatest start bound attained, pairings_eq, List.find?_map,
      Option.map_map]
    simp only [Function.comp_def, key_rank, low, false_or]
    cases found : (space ×ˢ variations).find? fun pair => keyOf weights classes pair = top with
    | none => simp
    | some pair =>
      have key : keyOf weights classes pair = top := by simpa using List.find?_some found
      simp only [Option.map_some, foundOf, key]

/-- The best match is the first of the greatest pairs: nothing matches exactly when there is no
pair, or the greatest key is that of another selector without a score, or its score is not above
the threshold; otherwise the match is the first pair of the greatest key, rules before candidates,
with its score. -/
theorem best?_first_greatest (weights : Weights) (variations : List Variation)
    (classes : List Text) (space : List (Text × Rule)) :
    (best? weights variations classes space = none ↔
        space ×ˢ variations = [] ∨ ∃ top, IsGreatest (keys weights classes variations space) top ∧
          (top = leastKey ∨ (ofLex top).2 ≤ weights.threshold)) ∧
      ∀ found, best? weights variations classes space = some found ↔
        ∃ top, IsGreatest (keys weights classes variations space) top ∧
          top ≠ leastKey ∧ weights.threshold < (ofLex top).2 ∧
          ∃ front place variation back,
            space ×ˢ variations = front ++ (place, variation) :: back ∧
            keyOf weights classes (place, variation) = top ∧
            (∀ earlier ∈ front, keyOf weights classes earlier ≠ top) ∧
            found = ⟨place.1, place.2, variation.selector, (ofLex top).2⟩ := by
  rcases (keys weights classes variations space).eq_empty_or_nonempty with empty | given
  · rw [best?_of_keys_eq_empty empty, keys_eq_empty_iff.1 empty]
    simp
  · obtain ⟨top, greatest⟩ := exists_isGreatest_keys given
    have first : ∀ pair,
        ((space ×ˢ variations).find? fun pair => keyOf weights classes pair = top) = some pair ↔
          keyOf weights classes pair = top ∧ ∃ front back,
            space ×ˢ variations = front ++ pair :: back ∧
              ∀ earlier ∈ front, keyOf weights classes earlier ≠ top := by
      intro pair
      rw [List.find?_eq_some_iff_append]
      simp
    rw [best?_of_isGreatest greatest]
    refine ⟨⟨fun unmatched => .inr ⟨top, greatest, ?_⟩, ?_⟩, fun found => ⟨fun matched => ?_, ?_⟩⟩
    · by_contra high
      obtain ⟨pair, listed, same⟩ := mem_keys_iff.1 greatest.1
      rw [if_neg high, Option.map_eq_none_iff, List.find?_eq_none] at unmatched
      exact unmatched pair listed (decide_eq_true same)
    · rintro (nothing | ⟨other, above, low⟩)
      · exact absurd (keys_eq_empty_iff.2 nothing) given.ne_empty
      · obtain rfl := above.unique greatest
        exact if_pos low
    · split at matched
      · simp at matched
      · rename_i high
        rw [not_or, not_le] at high
        obtain ⟨⟨place, variation⟩, held, rfl⟩ := Option.map_eq_some_iff.1 matched
        obtain ⟨key, front, back, parted, before⟩ := (first _).1 held
        refine ⟨top, greatest, high.1, high.2, front, place, variation, back, parted, key, before,
          ?_⟩
        rw [foundOf, key]
    · rintro ⟨other, above, apart, high, front, place, variation, back, parted, key, before, rfl⟩
      obtain rfl := above.unique greatest
      have low : ¬ (other = leastKey ∨ (ofLex other).2 ≤ weights.threshold) :=
        not_or.2 ⟨apart, not_le.2 high⟩
      rw [if_neg low, (first _).2 ⟨key, front, back, parted, before⟩, Option.map_some, foundOf, key]

end Restyle.Match
