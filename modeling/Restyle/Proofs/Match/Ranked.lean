import Mathlib.Data.List.Induction
import Mathlib.Data.List.Nodup
import Restyle.Proofs.Match.Candidates

/-!
# The ranking of candidates

What is offered for an event are the candidates that were sent, or else those derived from its
selector and its classes (`Offered`). Of all that are offered for one selector the first of the
greatest priority stays, and those that stay stand by priority and then in the order in which they
were offered. Main statement: the candidates of an event are such a ranking of what is offered for
it (`candidates_ranked`).
-/
namespace Restyle.Match

variable {selector tag : Text} {variations : List Variation}

/-- A tag name that a selector starts with: an ASCII letter, and all ASCII letters and digits that
follow it. -/
structure IsTag (selector tag : Text) : Prop where
  /-- It begins with a letter. -/
  letter : ∃ c ∈ tag.head?, ('a' ≤ c ∧ c ≤ 'z') ∨ ('A' ≤ c ∧ c ≤ 'Z')
  /-- It holds letters and digits. -/
  proper : ∀ c ∈ tag, continuesTag c = true
  /-- It stands at the front, and no letter or digit follows it. -/
  front : ∃ rest, selector = tag ++ rest ∧ ∀ c ∈ rest.head?, continuesTag c = false

/-- The candidates of one kind that have one class each, the priority falling from class to
class. -/
def IsRow (front : Text) (highest : Int) (kind : VariationKind) (names : List Text)
    (row : List Variation) : Prop :=
  row.length = names.length ∧
    ∀ (i : Nat) name, names[i]? = some name →
      row[i]? = some ⟨front ++ .char '.' :: name, highest - (i : Int), kind⟩

/-- What is offered for an event. -/
inductive Offered (event : Event) : List Variation → Prop where
  /-- The candidates that were sent. -/
  | sent (given : event.variations ≠ []) : Offered event event.variations
  /-- When none were sent: the reported selector; each class that is not empty; all of them
  together, if there are several; and the tag with each of them, if the selector starts with one. -/
  | derived (names : List Text) (single combined tagged : List Variation)
    (bare : event.variations = [])
    (named : names = event.classes.filter (· ≠ []))
    (each : IsRow [] 10 .individualClass names single)
    (joined : combined =
      if 1 < names.length then [⟨names.flatMap (.char '.' :: ·), 5, .combinedClasses⟩] else [])
    (tags : (∃ tag, IsTag event.selector tag ∧ IsRow tag 8 .elementClass names tagged) ∨
      ((∀ tag, ¬ IsTag event.selector tag) ∧ tagged = [])) :
    Offered event (⟨event.selector, 1, .reported⟩ :: single ++ combined ++ tagged)

/-- A variation at a place of a list is the first one of the greatest priority among those of its
selector. -/
structure IsTop (listed : List Variation) (place : Nat) (variation : Variation) : Prop where
  /-- It stands there. -/
  stands : listed[place]? = some variation
  /-- No other one of its selector has a greater priority. -/
  greatest : ∀ (other : Variation) (place' : Nat), listed[place']? = some other →
    other.selector = variation.selector → other.priority ≤ variation.priority
  /-- Those of its selector and priority stand later. -/
  first : ∀ (other : Variation) (place' : Nat), listed[place']? = some other →
    other.selector = variation.selector → other.priority = variation.priority → place ≤ place'

/-- A list of variations is ranked. -/
structure Ranked (listed ranked : List Variation) : Prop where
  /-- It has the selectors that are listed. -/
  selectors : ∀ selector, selector ∈ ranked.map Variation.selector ↔
    selector ∈ listed.map Variation.selector
  /-- It has each selector once. -/
  distinct : (ranked.map Variation.selector).Nodup
  /-- Its priorities never rise. -/
  descending : ranked.Pairwise fun one two => two.priority ≤ one.priority
  /-- Each selector has the variation that is the first of the greatest priority. -/
  tops : ∀ variation ∈ ranked, ∃ place, IsTop listed place variation
  /-- Those of the same priority stand as they are listed. -/
  stable : ranked.Pairwise fun one two => one.priority = two.priority →
    ∀ i j, IsTop listed i one → IsTop listed j two → i < j

/-- A tag name is read from the front of a selector exactly when it stands there. -/
theorem tagOf?_eq_some_iff : tagOf? selector = some tag ↔ IsTag selector tag := by
  constructor
  · intro read
    cases selector with
    | nil => simp [tagOf?] at read
    | cons c text =>
      rw [tagOf?] at read
      split at read
      · rename_i starts
        obtain rfl := Option.some.inj read
        have letter : ('a' ≤ c ∧ c ≤ 'z') ∨ ('A' ≤ c ∧ c ≤ 'Z') := by simpa using starts
        have begins : continuesTag c = true := by simp [continuesTag, letter]
        refine ⟨⟨c, rfl, letter⟩, ?_, text.dropWhile continuesTag, ?_, ?_⟩
        · intro d listed
          rcases List.mem_cons.1 listed with rfl | later
          · exact begins
          · exact List.mem_takeWhile_imp later
        · rw [List.cons_append, List.takeWhile_append_dropWhile]
        · intro d next
          have stop := List.head?_dropWhile_not continuesTag text
          rw [Option.mem_def] at next
          simpa [next] using stop
      · simp at read
  · rintro ⟨⟨c, begins, letter⟩, proper, rest, rfl, stop⟩
    obtain ⟨inner, rfl⟩ := List.head?_eq_some_iff.1 begins
    have starts : (('a' ≤ c && c ≤ 'z') || ('A' ≤ c && c ≤ 'Z')) = true := by simpa using letter
    have inside : ∀ d ∈ inner, continuesTag d = true := fun d listed => proper d (by simp [listed])
    rw [List.cons_append, tagOf?, if_pos starts, takeWhile_append_stop inside stop]

/-- Classes numbered from the front make a row. -/
theorem isRow_mapIdx (front : Text) (highest : Int) (kind : VariationKind) (names : List Text) :
    IsRow front highest kind names
      (names.mapIdx fun index name =>
        ⟨front ++ .char '.' :: name, highest - (index : Int), kind⟩) := by
  refine ⟨List.length_mapIdx, fun i name here => ?_⟩
  rw [List.getElem?_mapIdx, here]
  rfl

/-- What is derived from the selector and the classes of an event is offered when no candidates were
sent. -/
theorem offered_derived {event : Event} (bare : event.variations = []) :
    Offered event (derived event.selector event.classes) := by
  have named : event.classes.filter (!·.isEmpty) = event.classes.filter (· ≠ []) := by
    congr 1
    funext name
    cases name <;> rfl
  rw [derived, named]
  refine .derived _ _ _ _ bare rfl (isRow_mapIdx [] 10 .individualClass _) rfl ?_
  cases read : tagOf? event.selector with
  | none =>
    right
    refine ⟨fun tag stands => ?_, rfl⟩
    rw [tagOf?_eq_some_iff.2 stands] at read
    contradiction
  | some tag => exact .inl ⟨tag, tagOf?_eq_some_iff.1 read, isRow_mapIdx tag 8 .elementClass _⟩

/-- One variation at its place stands before another: its priority is greater, or it is the same and
the place is the earlier one. -/
def Precedes (one two : Variation × Nat) : Prop :=
  two.1.priority < one.1.priority ∨ (two.1.priority = one.1.priority ∧ one.2 < two.2)

/-- Ordered by priority, variations stand in the order of precedence of their places. -/
theorem exists_placed (variations : List Variation) :
    ∃ placed : List (Variation × Nat), placed.map Prod.fst = byPriority variations ∧
      (∀ variation place, (variation, place) ∈ placed ↔ variations[place]? = some variation) ∧
      placed.Pairwise Precedes := by
  let before := fun one two : Variation => decide (two.priority ≤ one.priority)
  let placed := variations.zipIdx.mergeSort (List.zipIdxLE before)
  have perm : placed.Perm variations.zipIdx := List.mergeSort_perm _ _
  have sorted : placed.Pairwise fun one two => List.zipIdxLE before one two = true := by
    apply List.pairwise_mergeSort
    · exact List.zipIdxLE_trans byPriority_trans
    · exact List.zipIdxLE_total byPriority_total
  have apart : placed.Pairwise fun one two => one.2 ≠ two.2 := by
    have distinct : (variations.zipIdx.map Prod.snd).Nodup := by
      rw [List.zipIdx_map_snd]
      exact List.nodup_range'
    exact List.pairwise_map.1 ((perm.map Prod.snd).nodup_iff.2 distinct)
  refine ⟨placed, List.mergeSort_zipIdx, fun variation place => ?_, ?_⟩
  · rw [perm.mem_iff]
    exact List.mk_mem_zipIdx_iff_getElem?
  · refine (sorted.and apart).imp fun {one two} order => ?_
    obtain ⟨order, other⟩ := order
    simp only [List.zipIdxLE, before, decide_eq_true_eq] at order
    rw [Precedes]
    split at order
    · split at order
      · have earlier : one.2 ≤ two.2 := by simpa using order
        omega
      · omega
    · contradiction

/-- Keeping the first variation of each selector keeps some of the places, and each other place has
one of its selector before it. -/
theorem exists_kept {placed : List (Variation × Nat)} (ordered : placed.Pairwise Precedes) :
    ∃ kept : List (Variation × Nat), kept.map Prod.fst = firstOfEach (placed.map Prod.fst) ∧
      kept.Sublist placed ∧
      ∀ pair ∈ placed, ∃ first ∈ kept, first.1.selector = pair.1.selector ∧
        (first = pair ∨ Precedes first pair) := by
  induction placed using List.reverseRecOn with
  | nil => exact ⟨[], rfl, .slnil, by simp⟩
  | append_singleton front last ih =>
    obtain ⟨early, _, behind⟩ := List.pairwise_append.1 ordered
    obtain ⟨kept, same, inside, covered⟩ := ih early
    have step : firstOfEach ((front ++ [last]).map Prod.fst) =
        if (kept.map Prod.fst).any (·.selector == last.1.selector) then kept.map Prod.fst
        else kept.map Prod.fst ++ [last.1] := by
      rw [same, List.map_append, firstOfEach, List.foldl_append]
      rfl
    by_cases known : (kept.map Prod.fst).any (·.selector == last.1.selector) = true
    · refine ⟨kept, by rw [step, if_pos known], inside.trans (List.sublist_append_left _ _), ?_⟩
      intro pair listed
      rcases List.mem_append.1 listed with listed | listed
      · exact covered pair listed
      · rw [List.mem_singleton] at listed
        subst listed
        obtain ⟨variation, held, alike⟩ := List.any_eq_true.1 known
        obtain ⟨first, stays, rfl⟩ := List.mem_map.1 held
        refine ⟨first, stays, by simpa using alike, .inr ?_⟩
        exact behind first (inside.subset stays) pair (by simp)
    · refine ⟨kept ++ [last], ?_, inside.append (List.Sublist.refl _), ?_⟩
      · rw [step, if_neg known, List.map_append, List.map_singleton]
      · intro pair listed
        rcases List.mem_append.1 listed with listed | listed
        · obtain ⟨first, stays, alike, order⟩ := covered pair listed
          exact ⟨first, List.mem_append_left _ stays, alike, order⟩
        · rw [List.mem_singleton] at listed
          subst listed
          exact ⟨pair, by simp, rfl, .inl rfl⟩

/-- A list has one top of each selector at most, at one place. -/
theorem IsTop.place_eq {variation : Variation} {i j : Nat} (one : IsTop variations i variation)
    (two : IsTop variations j variation) : i = j :=
  Nat.le_antisymm (one.first variation j two.stands rfl rfl)
    (two.first variation i one.stands rfl rfl)

/-- Ordering variations by priority and keeping the first of each selector ranks them. -/
theorem ranked_firstOfEach (variations : List Variation) :
    Ranked variations (firstOfEach (byPriority variations)) := by
  obtain ⟨placed, whole, listed, ordered⟩ := exists_placed variations
  obtain ⟨kept, same, inside, covered⟩ := exists_kept ordered
  rw [whole] at same
  have distinct : (kept.map fun pair => pair.1.selector).Nodup := by
    have once := nodup_keepOnce List.nodup_nil ((byPriority variations).map Variation.selector)
    rw [← map_selector_firstOfEach, ← same, List.map_map] at once
    exact once
  have top : ∀ pair ∈ kept, IsTop variations pair.2 pair.1 := by
    intro pair stays
    have order : ∀ (other : Variation) (place : Nat), variations[place]? = some other →
        other.selector = pair.1.selector →
        pair = (other, place) ∨ Precedes pair (other, place) := by
      intro other place stands alike
      obtain ⟨first, kept', same, order⟩ := covered (other, place) ((listed other place).2 stands)
      rw [List.inj_on_of_nodup_map distinct kept' stays (same.trans alike)] at order
      exact order
    refine ⟨(listed pair.1 pair.2).1 (inside.subset stays), ?_, ?_⟩
    · intro other place stands alike
      rcases order other place stands alike with rfl | higher | ⟨equal, _⟩
      · exact Int.le_refl _
      · exact Int.le_of_lt higher
      · exact Int.le_of_eq equal
    · intro other place stands alike equal
      rcases order other place stands alike with rfl | higher | ⟨_, earlier⟩
      · exact Nat.le_refl _
      · simp only at higher
        omega
      · exact Nat.le_of_lt earlier
  have sorted : kept.Pairwise Precedes := ordered.sublist inside
  refine ⟨mem_map_firstOfEach_byPriority variations, ?_, ?_, ?_, ?_⟩
  · rw [map_selector_firstOfEach]
    exact nodup_keepOnce List.nodup_nil _
  · rw [← same, List.pairwise_map]
    refine sorted.imp fun order => ?_
    rw [Precedes] at order
    omega
  · intro variation stays
    rw [← same, List.mem_map] at stays
    obtain ⟨pair, held, rfl⟩ := stays
    exact ⟨pair.2, top pair held⟩
  · rw [← same, List.pairwise_map]
    refine (List.Pairwise.and_mem.1 sorted).imp fun {one two} held => ?_
    obtain ⟨first, second, order⟩ := held
    intro equal i j here there
    rw [here.place_eq (top one first), there.place_eq (top two second)]
    rw [Precedes] at order
    omega

/-- The candidates of an event are a ranking of what is offered for it, and there is one at
least. -/
theorem candidates_ranked (event : Event) :
    ∃ listed, Offered event listed ∧ candidates event ≠ [] ∧ Ranked listed (candidates event) := by
  have some_of : ∀ {listed ranked : List Variation}, Ranked listed ranked → listed ≠ [] →
      ranked ≠ [] := by
    intro listed ranked ranks given nothing
    obtain ⟨variation, held⟩ := List.exists_mem_of_ne_nil listed given
    have kept := (ranks.selectors variation.selector).2 (List.mem_map.2 ⟨variation, held, rfl⟩)
    simp [nothing] at kept
  by_cases bare : event.variations = []
  · have ranks := ranked_firstOfEach (derived event.selector event.classes)
    have same : candidates event =
        firstOfEach (byPriority (derived event.selector event.classes)) := by
      rw [candidates, bare]
      rfl
    rw [same]
    exact ⟨_, offered_derived bare, some_of ranks (by simp [derived]), ranks⟩
  · have ranks := ranked_firstOfEach event.variations
    have same : candidates event = firstOfEach (byPriority event.variations) := by
      rw [candidates, if_neg (by simpa using bare)]
    rw [same]
    exact ⟨_, .sent bare, some_of ranks bare, ranks⟩

-- A class that is listed twice and a selector that is offered twice are each kept once, as the
-- first
-- of the greatest priority.
example :
    let event : Event :=
      { selector := "p.b".toText
        classes := ["a".toText, "b".toText, "a".toText]
        changes := .empty }
    (candidates event).map (fun variation =>
        (variation.selector.toString, variation.priority, variation.kind)) =
      [(".a", 10, .individualClass), (".b", 9, .individualClass), ("p.a", 8, .elementClass),
        ("p.b", 7, .elementClass), (".a.b.a", 5, .combinedClasses)] := by
  cbv

end Restyle.Match
