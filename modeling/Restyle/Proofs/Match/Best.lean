import Mathlib.Data.List.Forall2
import Mathlib.Data.List.Perm.Basic
import Mathlib.Data.Option.Basic
import Restyle.Proofs.Match.Greatest

/-!
# Matching by selectors alone

The best match depends on a rule by its selector: of two lists of rules with the same selectors
in order the matches stand at the same place (`best?_rel`), and a match is one of the rules it was
looked for among (`best?_mem`). It is the first rule of the greatest key (`map_spot_best?`), so its
score does not depend on the order of the rules (`map_score_best?_of_perm`), and neither its place
nor its score on the order of the candidates and of the classes (`map_spot_best?_of_alike`). A rule
with the selector of a candidate comes before all others (`best?_exact`).
-/
namespace Restyle.Match

/-- Where a match was found. -/
def Found.spot (found : Found) : Text × Rule := (found.file, found.rule)

variable {R : Text × Rule → Text × Rule → Prop} {space other : List (Text × Rule)}

/-- Two ranked pairs of the same rank and score, at related places. -/
def SamePair (R : Text × Rule → Text × Rule → Prop) (first second : Rank × Found) : Prop :=
  first.1 = second.1 ∧ first.2.score = second.2.score ∧ R first.2.spot second.2.spot

/-- Two best pairs so far of the same rank and score, at related places. -/
def SameBest (R : Text × Rule → Text × Rule → Prop) (first second : Rank × Option Found) : Prop :=
  first.1 = second.1 ∧
    Option.Rel (fun one two => one.score = two.score ∧ R one.spot two.spot) first.2 second.2

/-- The better of related pairs are related. -/
theorem sameBest_better {best best' : Rank × Option Found} {next next' : Rank × Found}
    (known : SameBest R best best') (new : SamePair R next next') :
    SameBest R (better best next) (better best' next') := by
  rw [better, better, known.1, new.1]
  split
  · exact ⟨rfl, .some ⟨new.2.1, new.2.2⟩⟩
  · exact known

/-- The pairs of rules with the same selectors are the same but for the rules. -/
theorem forall₂_pairings (alike : ∀ place place', R place place' →
      place.2.selector = place'.2.selector)
    (paired : List.Forall₂ R space other) (weights : Weights) (classes : List Text)
    (variations : List Variation) :
    List.Forall₂ (SamePair R) (pairings weights classes variations space)
      (pairings weights classes variations other) := by
  refine List.rel_flatMap paired fun place place' related => ?_
  refine List.rel_map (R := Eq) ?_ (List.forall₂_refl _)
  rintro variation _ rfl
  have same := alike place place' related
  refine ⟨?_, ?_, related⟩
  · simp only [pairing, same]
  · simp only [pairing, same]

/-- Among rules with the same selectors in order the best matches stand at the same place. -/
theorem best?_rel (alike : ∀ place place', R place place' →
      place.2.selector = place'.2.selector)
    (paired : List.Forall₂ R space other) (weights : Weights) (variations : List Variation)
    (classes : List Text) :
    Option.Rel (fun found found' => R found.spot found'.spot)
      (best? weights variations classes space) (best? weights variations classes other) := by
  have start : SameBest R (⟨false, 0⟩, none) (⟨false, 0⟩, none) := ⟨rfl, .none⟩
  have folded : SameBest R
      ((pairings weights classes variations space).foldl better (⟨false, 0⟩, none))
      ((pairings weights classes variations other).foldl better (⟨false, 0⟩, none)) :=
    List.rel_foldl (P := SameBest R) (R := SamePair R)
      (fun _ _ known _ _ new => sameBest_better known new) start
      (forall₂_pairings alike paired weights classes variations)
  rw [best?, best?]
  generalize (pairings weights classes variations space).foldl better _ = first at folded ⊢
  generalize (pairings weights classes variations other).foldl better _ = second at folded ⊢
  obtain ⟨_, found⟩ := first
  obtain ⟨_, found'⟩ := second
  obtain ⟨_, related⟩ := folded
  cases related with
  | none => exact .none
  | some agreed =>
    simp only [agreed.1]
    split
    · exact .none
    · exact .some agreed.2

/-- A match is one of the rules it was looked for among. -/
theorem best?_mem {weights : Weights} {variations : List Variation} {classes : List Text}
    {found : Found} (matched : best? weights variations classes space = some found) :
    found.spot ∈ space := by
  have paired : List.Forall₂ (fun place place' => place = place' ∧ place ∈ space) space space :=
    List.forall₂_same.2 fun place listed => ⟨rfl, listed⟩
  have related := best?_rel (fun _ _ same => by rw [same.1]) paired weights variations classes
  rw [matched] at related
  cases related with
  | some agreed => exact agreed.2

/-- Where rules are moved that keep their selectors, the best match moves with its rule. -/
theorem map_spot_best?_map {move : Text × Rule → Text × Rule}
    (alike : ∀ place, (move place).2.selector = place.2.selector) (weights : Weights)
    (variations : List Variation) (classes : List Text) (space : List (Text × Rule)) :
    (best? weights variations classes (space.map move)).map Found.spot =
      (best? weights variations classes space).map fun found => move found.spot := by
  have paired : List.Forall₂ (fun place place' => place' = move place) space (space.map move) :=
    List.forall₂_map_right_iff.2 (List.forall₂_same.2 fun _ _ => rfl)
  have related := best?_rel (fun place place' same => by rw [same, alike]) paired weights
    variations classes
  generalize best? weights variations classes space = outcome at related ⊢
  generalize best? weights variations classes (space.map move) = outcome' at related ⊢
  cases related with
  | none => rfl
  | some same => rw [Option.map_some, Option.map_some, same]

variable {weights : Weights} {variations others : List Variation} {classes names : List Text}
  {top : Bool ×ₗ Int}

/-- Where the best match stands, and its score: it is the first rule that has the greatest key with
some candidate, if that key is above the one the search starts with and its score above the
threshold. -/
theorem map_spot_best? (greatest : IsGreatest (keys weights classes variations space) top) :
    (best? weights variations classes space).map (fun found => (found.spot, found.score)) =
      if top = leastKey ∨ (ofLex top).2 ≤ weights.threshold then none
      else (space.find? fun place => variations.any fun variation =>
        keyOf weights classes (place, variation) = top).map (·, (ofLex top).2) := by
  rw [best?_of_isGreatest greatest]
  split
  · rfl
  · rw [← map_fst_find?_product (fun pair => keyOf weights classes pair = top), Option.map_map,
      Option.map_map]
    cases first : (space ×ˢ variations).find? fun pair => keyOf weights classes pair = top with
    | none => rfl
    | some pair =>
      have key : keyOf weights classes pair = top := by simpa using List.find?_some first
      simp only [Option.map_some, Function.comp_apply, foundOf, key, Found.spot]

/-- The score of the best match is that of the greatest key. -/
theorem map_score_best? (greatest : IsGreatest (keys weights classes variations space) top) :
    (best? weights variations classes space).map Found.score =
      if top = leastKey ∨ (ofLex top).2 ≤ weights.threshold then none else some (ofLex top).2 := by
  have scored : (best? weights variations classes space).map Found.score =
      ((best? weights variations classes space).map fun found => (found.spot, found.score)).map
        Prod.snd := by
    rw [Option.map_map]
    rfl
  obtain ⟨place, held, variation, given, same⟩ := greatest.1
  have attained : (space.find? fun place => variations.any fun variation =>
      keyOf weights classes (place, variation) = top).isSome := by
    refine List.find?_isSome.2 ⟨place, held, List.any_eq_true.2 ⟨variation, given, ?_⟩⟩
    exact decide_eq_true same
  obtain ⟨first, found⟩ := Option.isSome_iff_exists.1 attained
  rw [scored, map_spot_best? greatest, found]
  split <;> rfl

/-- The score of the best match does not depend on the order of the rules. -/
theorem map_score_best?_of_perm (perm : space.Perm other) (weights : Weights)
    (variations : List Variation) (classes : List Text) :
    (best? weights variations classes space).map Found.score =
      (best? weights variations classes other).map Found.score := by
  have same : keys weights classes variations space = keys weights classes variations other := by
    simp only [keys, perm.mem_iff]
  rcases (keys weights classes variations space).eq_empty_or_nonempty with empty | given
  · rw [best?_of_keys_eq_empty empty, best?_of_keys_eq_empty (same ▸ empty)]
  · obtain ⟨top, greatest⟩ := exists_isGreatest_keys given
    rw [map_score_best? greatest, map_score_best? (same ▸ greatest)]

/-- A key depends on a candidate by its selector, and not on the order of the classes. -/
theorem keyOf_congr (perm : classes.Perm names) {variation other : Variation}
    (same : variation.selector = other.selector) (weights : Weights) (place : Text × Rule) :
    keyOf weights classes (place, variation) = keyOf weights names (place, other) := by
  simp only [keyOf, score, same, perm.countP_eq]

/-- Candidates of the same selectors, in whatever order and however often, give a rule the same
keys. -/
theorem exists_keyOf_iff (perm : classes.Perm names)
    (alike : ∀ selector, selector ∈ variations.map Variation.selector ↔
      selector ∈ others.map Variation.selector)
    (weights : Weights) (place : Text × Rule) (key : Bool ×ₗ Int) :
    (∃ variation ∈ variations, keyOf weights classes (place, variation) = key) ↔
      ∃ other ∈ others, keyOf weights names (place, other) = key := by
  constructor
  · rintro ⟨variation, given, rfl⟩
    obtain ⟨other, given', same⟩ :=
      List.mem_map.1 ((alike _).1 (List.mem_map.2 ⟨variation, given, rfl⟩))
    exact ⟨other, given', (keyOf_congr perm same.symm weights place).symm⟩
  · rintro ⟨other, given, rfl⟩
    obtain ⟨variation, given', same⟩ :=
      List.mem_map.1 ((alike _).2 (List.mem_map.2 ⟨other, given, rfl⟩))
    exact ⟨variation, given', keyOf_congr perm same weights place⟩

/-- Candidates of the same selectors and the same classes find the same rule with the same score,
whatever their order. -/
theorem map_spot_best?_of_alike (perm : classes.Perm names)
    (alike : ∀ selector, selector ∈ variations.map Variation.selector ↔
      selector ∈ others.map Variation.selector)
    (weights : Weights) (space : List (Text × Rule)) :
    (best? weights variations classes space).map (fun found => (found.spot, found.score)) =
      (best? weights others names space).map (fun found => (found.spot, found.score)) := by
  have each := exists_keyOf_iff perm alike weights
  have same : keys weights classes variations space = keys weights names others space := by
    simp only [keys, each]
  rcases (keys weights classes variations space).eq_empty_or_nonempty with empty | given
  · rw [best?_of_keys_eq_empty empty, best?_of_keys_eq_empty (same ▸ empty)]
  · obtain ⟨top, greatest⟩ := exists_isGreatest_keys given
    have first : ∀ place : Text × Rule,
        (variations.any fun variation => keyOf weights classes (place, variation) = top) =
          others.any fun other => keyOf weights names (place, other) = top := by
      intro place
      rw [Bool.eq_iff_iff, List.any_eq_true, List.any_eq_true]
      simp only [decide_eq_true_eq]
      exact each place top
    simp only [map_spot_best? greatest, map_spot_best? (same ▸ greatest), first]

/-- The key of a pair is that of equal selectors exactly when they are equal. -/
theorem keyOf_eq_exact_iff (weights : Weights) (classes : List Text)
    (pair : (Text × Rule) × Variation) :
    keyOf weights classes pair = toLex (true, weights.exact) ↔
      pair.1.2.selector = pair.2.selector := by
  rw [keyOf]
  split
  · exact ⟨fun _ => ‹_›, fun _ => rfl⟩
  · refine ⟨fun same => ?_, fun same => absurd same ‹_›⟩
    exact absurd (Prod.mk.inj (toLex.injective same)).1 Bool.false_ne_true

/-- The first rule whose selector is that of a variation is the best match. -/
theorem best?_exact (above : weights.threshold < weights.exact) {front back : List (Text × Rule)}
    {place : Text × Rule}
    (before : ∀ other ∈ front, other.2.selector ∉ variations.map Variation.selector)
    (named : place.2.selector ∈ variations.map Variation.selector) :
    ∃ found, best? weights variations classes (front ++ place :: back) = some found ∧
      found.spot = place := by
  obtain ⟨variation, given, same⟩ := List.mem_map.1 named
  have greatest : IsGreatest (keys weights classes variations (front ++ place :: back))
      (toLex (true, weights.exact)) := by
    refine ⟨⟨place, by simp, variation, given, ?_⟩, ?_⟩
    · exact (keyOf_eq_exact_iff weights classes _).2 same.symm
    · rintro key ⟨other, _, candidate, _, rfl⟩
      rw [keyOf]
      split
      · exact le_rfl
      · exact (Prod.Lex.toLex_lt_toLex.2 (.inl Bool.false_lt_true)).le
  have high : ¬ (toLex (true, weights.exact) = leastKey ∨
      (ofLex (toLex (true, weights.exact))).2 ≤ weights.threshold) := by
    refine not_or.2 ⟨fun low => ?_, not_le.2 above⟩
    exact absurd (Prod.mk.inj (toLex.injective low)).1 Bool.true_eq_false_eq_False
  have first : (front ++ place :: back).find? (fun other => variations.any fun variation =>
      keyOf weights classes (other, variation) = toLex (true, weights.exact)) = some place := by
    refine List.find?_eq_some_iff_append.2 ⟨?_, front, back, rfl, fun other held => ?_⟩
    · refine List.any_eq_true.2 ⟨variation, given, decide_eq_true ?_⟩
      exact (keyOf_eq_exact_iff weights classes _).2 same.symm
    · rw [Bool.not_eq_true', List.any_eq_false]
      intro candidate listed equal
      refine before other held (List.mem_map.2 ⟨candidate, listed, ?_⟩)
      exact ((keyOf_eq_exact_iff weights classes _).1 (of_decide_eq_true equal)).symm
  have spot := map_spot_best? greatest
  rw [if_neg high, first] at spot
  obtain ⟨found, matched, same⟩ := Option.map_eq_some_iff.1 spot
  exact ⟨found, matched, (Prod.mk.inj same).1⟩

/-- Where nothing matches no rule has the selector of a variation. -/
theorem selector_not_mem_of_best?_eq_none (above : weights.threshold < weights.exact)
    (unmatched : best? weights variations classes space = none) :
    ∀ place ∈ space, place.2.selector ∉ variations.map Variation.selector := by
  cases first : space.find? fun place =>
      decide (place.2.selector ∈ variations.map Variation.selector) with
  | none => simpa using List.find?_eq_none.1 first
  | some place =>
    obtain ⟨named, front, back, rfl, before⟩ := List.find?_eq_some_iff_append.1 first
    have before : ∀ other ∈ front, other.2.selector ∉ variations.map Variation.selector := by
      simpa using before
    obtain ⟨found, matched, _⟩ := best?_exact above before (of_decide_eq_true named)
    rw [unmatched] at matched
    simp at matched

/-- A match of a rule whose selector is that of no variation scores above the threshold for one
of them. -/
theorem best?_similar {found : Found}
    (matched : best? weights variations classes space = some found)
    (apart : ∀ place ∈ space, place.2.selector ∉ variations.map Variation.selector) :
    ∃ candidate ∈ variations.map Variation.selector, found.rule.selector ≠ candidate ∧
      weights.threshold < score weights found.rule.selector candidate classes := by
  rcases (keys weights classes variations space).eq_empty_or_nonempty with empty | given
  · rw [best?_of_keys_eq_empty empty] at matched
    simp at matched
  · obtain ⟨top, greatest⟩ := exists_isGreatest_keys given
    rw [best?_of_isGreatest greatest] at matched
    split at matched
    · simp at matched
    · rename_i high
      obtain ⟨⟨place, variation⟩, first, rfl⟩ := Option.map_eq_some_iff.1 matched
      have key : keyOf weights classes (place, variation) = top := by
        simpa using List.find?_some first
      obtain ⟨held, listed⟩ := List.mem_product.1 (List.mem_of_find?_eq_some first)
      have candidate : variation.selector ∈ variations.map Variation.selector :=
        List.mem_map.2 ⟨variation, listed, rfl⟩
      have other : place.2.selector ≠ variation.selector := fun same =>
        apart place held (same ▸ candidate)
      refine ⟨variation.selector, candidate, other, ?_⟩
      rw [← key, keyOf, if_neg other, not_or, not_le] at high
      exact high.2

end Restyle.Match
