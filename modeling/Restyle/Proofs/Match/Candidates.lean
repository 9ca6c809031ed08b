import Mathlib.Data.List.Basic
import Restyle.Match.Candidates
import Restyle.Match.Score
import Restyle.Proofs.Match.Classes
import Restyle.Proofs.Text.Split

/-!
# Candidates derived from a selector

A selector has itself, each of its classes, all of its classes together, and its tag with each of
its classes for candidates (`mem_selectorsOf`). What is a candidate of a candidate is one itself
(`selectorsOf_trans`). The first candidate is the first class, if there is one, and a single class
has no other candidate (`head?_selectorsOf`, `selectorsOf_class`).
-/
namespace Restyle

/-- The candidates of an event by their selectors. -/
def Event.selectors (event : Event) : List Text :=
  (Match.candidates event).map Variation.selector

/-- The selector that a new rule for an event has: that of its first candidate. -/
def Event.newSelector (event : Event) : Text :=
  ((Match.candidates event).head?.map Variation.selector).getD []

/-- The selector of a new rule is that of a candidate, if it is not empty. -/
theorem Event.newSelector_mem {event : Event} (given : event.newSelector ≠ []) :
    event.newSelector ∈ event.selectors := by
  rw [newSelector] at given ⊢
  cases first : (Match.candidates event).head? with
  | none => simp [first] at given
  | some variation => exact List.mem_map.2 ⟨variation, List.mem_of_mem_head? first, rfl⟩

namespace Match

variable {selector tag name : Text}

/-- The candidates of a selector with its own classes. -/
def selectorsOf (selector : Text) : List Text :=
  (generate selector (classesOf selector)).map Variation.selector

/-- Keeping the first variation of each selector keeps each selector once. -/
theorem map_selector_firstOfEach (variations : List Variation) :
    (firstOfEach variations).map Variation.selector =
      keepOnce [] (variations.map Variation.selector) := by
  have step : ∀ (rest kept : List Variation),
      (rest.foldl
        (fun kept variation =>
          if kept.any (·.selector == variation.selector) then kept else kept ++ [variation])
        kept).map Variation.selector =
        keepOnce (kept.map Variation.selector) (rest.map Variation.selector) := by
    intro rest
    induction rest with
    | nil => intro kept; rfl
    | cons first rest ih =>
      intro kept
      have same : kept.any (·.selector == first.selector) =
          (kept.map Variation.selector).contains first.selector := by
        rw [Bool.eq_iff_iff, List.any_eq_true, List.contains_iff_mem, List.mem_map]
        simp only [beq_iff_eq]
      rw [List.foldl_cons, ih, same, List.map_cons, keepOnce, keepOnce, List.foldl_cons]
      split
      · rfl
      · rw [List.map_append, List.map_singleton]
  exact step variations []

/-- The names before the first one that is new stay in front. -/
theorem prefix_keepOnce (seen names : List Text) : seen <+: keepOnce seen names := by
  induction names generalizing seen with
  | nil => exact List.prefix_rfl
  | cons first rest ih =>
    rw [keepOnce, List.foldl_cons, ← keepOnce]
    split
    · exact ih seen
    · exact (List.prefix_append seen [first]).trans (ih _)

/-- Ordering variations and keeping the first of each selector keeps every selector. -/
theorem mem_map_firstOfEach_byPriority (variations : List Variation) (selector : Text) :
    selector ∈ (firstOfEach (byPriority variations)).map Variation.selector ↔
      selector ∈ variations.map Variation.selector := by
  rw [map_selector_firstOfEach, mem_keepOnce, byPriority,
    ((List.mergeSort_perm _ _).map Variation.selector).mem_iff]
  simp

/-- The order by priority is transitive. -/
theorem byPriority_trans (one two three : Variation)
    (front : decide (two.priority ≤ one.priority) = true)
    (back : decide (three.priority ≤ two.priority) = true) :
    decide (three.priority ≤ one.priority) = true := by
  simp only [decide_eq_true_eq] at front back ⊢
  omega

/-- The order by priority is total. -/
theorem byPriority_total (one two : Variation) :
    (decide (two.priority ≤ one.priority) || decide (one.priority ≤ two.priority)) = true := by
  simp only [Bool.or_eq_true, decide_eq_true_eq]
  omega

/-- The only variation of greatest priority comes first. -/
theorem head?_byPriority {variations : List Variation} {first : Variation}
    (listed : first ∈ variations)
    (greatest : ∀ other ∈ variations, other ≠ first → other.priority < first.priority) :
    (byPriority variations).head? = some first := by
  have ordered : (byPriority variations).Pairwise fun one two => two.priority ≤ one.priority := by
    have sorted : (byPriority variations).Pairwise fun one two =>
        decide (two.priority ≤ one.priority) = true :=
      List.pairwise_mergeSort byPriority_trans byPriority_total variations
    exact sorted.imp fun order => by simpa using order
  have kept : first ∈ byPriority variations := List.mem_mergeSort.2 listed
  have inside : ∀ other ∈ byPriority variations, other ∈ variations := fun other held =>
    List.mem_mergeSort.1 held
  generalize byPriority variations = sorted at ordered kept inside
  cases sorted with
  | nil => simp at kept
  | cons head rest =>
    rw [List.head?_cons, Option.some.injEq]
    by_contra apart
    have below := greatest head (inside head (by simp)) apart
    rcases List.mem_cons.1 kept with rfl | later
    · exact apart rfl
    · have above := (List.pairwise_cons.1 ordered).1 first later
      omega

/-- A tag name is read from a selector as a whole. -/
theorem tagOf?_append (read : tagOf? selector = some tag) (rest : Text) :
    .char '.' ∉ tag ∧ tagOf? (tag ++ .char '.' :: rest) = some tag := by
  cases selector with
  | nil => simp [tagOf?] at read
  | cons c text =>
    rw [tagOf?] at read
    split at read
    · rename_i starts
      obtain rfl := Option.some.inj read
      have inside : ∀ d ∈ text.takeWhile continuesTag, continuesTag d = true :=
        fun _ listed => List.mem_takeWhile_imp listed
      have stop : continuesTag '.' = false := by decide
      refine ⟨?_, ?_⟩
      · rw [List.mem_cons, not_or]
        refine ⟨?_, fun listed => ?_⟩
        · rintro rfl
          simp at starts
        · have held := inside '.' listed
          rw [stop] at held
          simp at held
      · rw [List.cons_append, tagOf?, if_pos starts, takeWhile_append_stop inside (by simp [stop])]
    · simp at read

/-- No class name is empty. -/
theorem filter_isClass {classes : List Text} (named : ∀ name ∈ classes, IsClass name) :
    classes.filter (!·.isEmpty) = classes := by
  refine List.filter_eq_self.2 fun name listed => ?_
  have whole := (named name listed).whole [] (by simp)
  cases name with
  | nil => simp [className?] at whole
  | cons c rest => rfl

/-- What the variations derived from a selector and class names select. -/
theorem mem_derived {classes : List Text} (named : ∀ name ∈ classes, IsClass name)
    (candidate : Text) :
    candidate ∈ (derived selector classes).map Variation.selector ↔
      candidate = selector ∨ (∃ name ∈ classes, candidate = .char '.' :: name) ∨
        (1 < classes.length ∧ candidate = classes.flatMap (.char '.' :: ·)) ∨
        ∃ tag, tagOf? selector = some tag ∧
          ∃ name ∈ classes, candidate = tag ++ .char '.' :: name := by
  have names := filter_isClass named
  have single : ∀ (front : Text) (first : Int) (kind : VariationKind),
      (classes.mapIdx fun index name =>
        (⟨front ++ .char '.' :: name, first - (index : Int), kind⟩ : Variation)).map
          Variation.selector = classes.map (front ++ .char '.' :: ·) := by
    intro front first kind
    rw [List.mapIdx_eq_zipIdx_map, List.map_map]
    conv_rhs => rw [← List.zipIdx_map_fst 0 classes, List.map_map]
    rfl
  have one := single [] 10 .individualClass
  simp only [List.nil_append] at one
  have shape : (derived selector classes).map Variation.selector =
      selector :: classes.map (.char '.' :: ·) ++
        (if 1 < classes.length then [classes.flatMap (.char '.' :: ·)] else []) ++
        (tagOf? selector).elim [] fun tag => classes.map (tag ++ .char '.' :: ·) := by
    simp only [derived, names, List.map_append, List.map_cons, one]
    congr 1
    · split <;> rfl
    · cases tagOf? selector with
      | none => rfl
      | some tag => exact single tag 8 .elementClass
  rw [shape, List.mem_append, List.mem_append, List.mem_cons, List.mem_map, or_assoc, or_assoc]
  refine or_congr_right (or_congr ?_ (or_congr ?_ ?_))
  · simp only [eq_comm]
  · split
    · rename_i several
      simp [several]
    · rename_i single
      simp [single]
  · cases tagOf? selector with
    | none => simp
    | some tag => simp [eq_comm]

/-- Of the derived variations that of the first class has the greatest priority. -/
theorem greatest_derived (selector : Text) {rest : List Text}
    (named : ∀ other ∈ name :: rest, IsClass other) :
    let first : Variation := ⟨.char '.' :: name, 10, .individualClass⟩
    first ∈ derived selector (name :: rest) ∧
      ∀ other ∈ derived selector (name :: rest), other ≠ first → other.priority < 10 := by
  intro first
  rw [derived, filter_isClass named]
  simp only [List.mapIdx_cons, List.mem_append, List.mem_cons]
  refine ⟨.inl (.inl (.inr (.inl rfl))), fun other listed apart => ?_⟩
  rcases listed with ((rfl | rfl | listed) | listed) | listed
  · show (1 : Int) < 10
    omega
  · exact absurd rfl apart
  · obtain ⟨i, _, rfl⟩ := List.mem_mapIdx.1 listed
    simp only
    omega
  · split at listed
    · rw [List.mem_singleton] at listed
      subst listed
      show (5 : Int) < 10
      omega
    · simp at listed
  · split at listed
    · simp at listed
    · rw [List.mem_cons] at listed
      rcases listed with rfl | listed
      · show (8 : Int) - 0 < 10
        omega
      · obtain ⟨i, _, rfl⟩ := List.mem_mapIdx.1 listed
        simp only
        omega

/-- The candidates of a selector. -/
theorem mem_selectorsOf (selector candidate : Text) :
    candidate ∈ selectorsOf selector ↔
      candidate = selector ∨ (∃ name ∈ classesOf selector, candidate = .char '.' :: name) ∨
        (1 < (classesOf selector).length ∧
          candidate = (classesOf selector).flatMap (.char '.' :: ·)) ∨
        ∃ tag, tagOf? selector = some tag ∧
          ∃ name ∈ classesOf selector, candidate = tag ++ .char '.' :: name := by
  rw [← mem_derived fun _ listed => isClass_of_mem_classesOf listed, selectorsOf, generate,
    mem_map_firstOfEach_byPriority]

/-- A selector is its own candidate. -/
theorem self_mem_selectorsOf (selector : Text) : selector ∈ selectorsOf selector :=
  (mem_selectorsOf selector selector).2 (.inl rfl)

/-- A class is the only class of itself. -/
theorem classesOf_class (named : IsClass name) : classesOf (.char '.' :: name) = [name] := by
  show classesOf ([] ++ .char '.' :: name) = [name]
  exact classesOf_append named (by simp)

/-- A class is its only candidate. -/
theorem mem_selectorsOf_class (named : IsClass name) (candidate : Text) :
    candidate ∈ selectorsOf (.char '.' :: name) ↔ candidate = .char '.' :: name := by
  have untagged : tagOf? (.char '.' :: name) = none := by simp [tagOf?]
  rw [mem_selectorsOf, classesOf_class named, untagged]
  simp

/-- What is a candidate of a candidate is one itself. -/
theorem selectorsOf_trans {middle candidate : Text} (first : middle ∈ selectorsOf selector)
    (second : candidate ∈ selectorsOf middle) : candidate ∈ selectorsOf selector := by
  rcases (mem_selectorsOf selector middle).1 first with
    rfl | ⟨name, listed, rfl⟩ | ⟨several, rfl⟩ | ⟨tag, read, name, listed, rfl⟩
  · exact second
  · rw [mem_selectorsOf_class (isClass_of_mem_classesOf listed)] at second
    rw [second]
    exact first
  · have untagged : tagOf? ((classesOf selector).flatMap (.char '.' :: ·)) = none := by
      cases classes : classesOf selector with
      | nil => simp [classes] at several
      | cons name rest => simp [tagOf?]
    rw [mem_selectorsOf, classesOf_flatMap, untagged] at second
    rcases second with rfl | ⟨name, listed, rfl⟩ | ⟨_, rfl⟩ | ⟨_, absurd, _⟩
    · exact first
    · exact (mem_selectorsOf _ _).2 (.inr (.inl ⟨name, listed, rfl⟩))
    · exact first
    · simp at absurd
  · obtain ⟨plain, again⟩ := tagOf?_append read name
    have classes := classesOf_append (isClass_of_mem_classesOf listed) plain
    rw [mem_selectorsOf, classes, again] at second
    rcases second with rfl | ⟨other, single, rfl⟩ | ⟨several, _⟩ | ⟨_, same, other, single, rfl⟩
    · exact first
    · rw [List.mem_singleton] at single
      exact (mem_selectorsOf _ _).2 (.inr (.inl ⟨name, listed, by rw [single]⟩))
    · simp at several
    · rw [List.mem_singleton] at single
      rw [single, ← Option.some.inj same]
      exact first

/-- The first candidate of a selector is its first class, or itself when it has none. -/
theorem head?_selectorsOf (selector : Text) :
    (selectorsOf selector).head? =
      some (((classesOf selector).head?.map (.char '.' :: ·)).getD selector) := by
  have first : ∀ variation, (byPriority (derived selector (classesOf selector))).head? =
      some variation → (selectorsOf selector).head? = some variation.selector := by
    intro variation first
    obtain ⟨rest, sorted⟩ := List.head?_eq_some_iff.1 first
    have front := prefix_keepOnce [variation.selector] (rest.map Variation.selector)
    rw [selectorsOf, generate, map_selector_firstOfEach, sorted, List.map_cons, keepOnce,
      List.foldl_cons]
    obtain ⟨others, whole⟩ := front
    show (keepOnce [variation.selector] (rest.map Variation.selector)).head? = _
    rw [← whole]
    rfl
  cases classes : classesOf selector with
  | nil =>
    rw [classes] at first
    have only : derived selector [] = [⟨selector, 1, .reported⟩] := by
      simp only [derived, List.filter_nil]
      cases tagOf? selector <;> rfl
    refine first ⟨selector, 1, .reported⟩ (head?_byPriority (by simp [only]) ?_)
    intro other listed apart
    rw [only, List.mem_singleton] at listed
    exact absurd listed apart
  | cons name rest =>
    rw [classes] at first
    have named : ∀ other ∈ name :: rest, IsClass other := fun other held =>
      isClass_of_mem_classesOf (classes ▸ held : other ∈ classesOf selector)
    obtain ⟨listed, greatest⟩ := greatest_derived selector named
    exact first _ (head?_byPriority listed greatest)

/-- What a class name goes on with parts no selector. -/
theorem isCombinator_of_continuesName {c : CodePoint} (goes : continuesName c = true) :
    isCombinator c = false := by
  have sign : Text.isBlank '-' = false := by decide +kernel
  simp only [isCombinator, Bool.or_eq_false_iff, decide_eq_false_iff_not]
  refine ⟨⟨⟨?_, ?_⟩, ?_⟩, ?_⟩
  · rw [Bool.eq_false_iff]
    intro blank
    simp only [continuesName, Text.isWord_of_isBlank blank, Bool.false_or, decide_eq_true_eq]
      at goes
    rw [goes, sign] at blank
    simp at blank
  all_goals
    rintro rfl
    exact absurd goes (by decide +kernel)

/-- A class is one part. -/
theorem tokens_class (named : IsClass name) :
    tokens (Text.collapse (.char '.' :: name)) = [.char '.' :: name] := by
  have whole : ∀ c ∈ .char '.' :: name, isCombinator c = false := by
    intro c listed
    rcases List.mem_cons.1 listed with rfl | listed
    · decide +kernel
    · exact isCombinator_of_continuesName (named.proper c listed)
  have solid : ∀ c ∈ .char '.' :: name, Text.isBlank c = false := by
    intro c listed
    have inner := whole c listed
    simp only [isCombinator, Bool.or_eq_false_iff] at inner
    exact inner.1.1.1
  have collapsed : Text.collapse (.char '.' :: name) = .char '.' :: name := by
    rw [Text.collapse, Text.words, Text.splitNonempty, Text.split_eq_singleton solid]
    simp
  rw [collapsed, tokens, Text.splitNonempty, Text.split_eq_singleton whole]
  simp

/-- No other selector scores above the threshold for a single class. -/
theorem score_class_le (named : IsClass name) (other : selector ≠ .char '.' :: name) :
    score {} selector (.char '.' :: name) [name] ≤ 50 := by
  rw [score, if_neg other, tokens_class named]
  have classes := List.countP_le_length (p := mentions (Text.collapse selector)) (l := [name])
  have parts := List.countP_le_length
    (p := (tokens (Text.collapse selector)).contains) (l := [(.char '.' :: name : Text)])
  simp only [List.length_cons, List.length_nil] at classes parts ⊢
  split <;> omega

end Match

/-- The candidates of an event that was sent with candidates have the selectors of those. -/
theorem Event.mem_selectors_iff {event : Event} (given : event.variations ≠ []) (selector : Text) :
    selector ∈ event.selectors ↔ selector ∈ event.variations.map Variation.selector := by
  have sent : event.variations.isEmpty = false := by simpa using given
  rw [selectors, Match.candidates, sent, if_neg Bool.false_ne_true,
    Match.mem_map_firstOfEach_byPriority]

end Restyle
