import Mathlib.Data.List.Infix
import Restyle.Proofs.Match.Classes
import Restyle.Proofs.Match.Greatest
import Restyle.Proofs.Text.Split

/-!
# Classes that a score counts

A score gives points for a listed class when a point and its name stand in the selector, whatever
follows them. A class name is found there exactly when some class of the selector begins with it
(`mentions_collapse_iff`), so a class also counts for a longer one (`not_classPoints_longer`). Main
statement: the points for classes are those for the listed names that a class of the selector begins
with, and they are those for the listed names that are classes of the selector exactly when no name
is listed that only begins one, or when a class gives no points (`score_begins`).
-/
namespace Restyle.Match

variable {name known text front back selector : Text} {classes : List Text} {weights : Weights}

/-- A class of a selector begins with a name. -/
def Begins (selector name : Text) : Prop := ∃ known ∈ classesOf selector, name <+: known

instance (selector : Text) : DecidablePred (Begins selector) := fun _ =>
  inferInstanceAs (Decidable (∃ _ ∈ _, _))

/-- The points that a selector has for the classes of an element. -/
def classPoints (weights : Weights) (selector : Text) (classes : List Text) : Int :=
  weights.classHit * (classes.countP (mentions (Text.collapse selector)) : Nat)

/-- The points that a selector has for the parts it shares with a candidate, less the penalty when
it is short. -/
def ownPoints (weights : Weights) (selector target : Text) : Int :=
  let clean := Text.collapse selector
  weights.tokenHit * ((tokens (Text.collapse target)).countP (tokens clean).contains : Nat) -
    if clean.length < weights.shortLength then weights.shortPenalty else 0

/-- The score of another selector is made of its points for classes and its own. -/
theorem score_of_ne {target : Text} (apart : selector ≠ target) (weights : Weights)
    (classes : List Text) : score weights selector target classes =
      max 0 (classPoints weights selector classes + ownPoints weights selector target) := by
  simp only [score, if_neg apart, classPoints, ownPoints, Int.add_sub_assoc]

/-- A text that begins with a class name has the class name that goes on as far as names do. -/
theorem className?_append (named : className? name = some name) (rest : Text) :
    className? (name ++ rest) = some (name ++ rest.takeWhile continuesName) := by
  unfold className? at named
  split at named
  · rename_i c more
    split at named
    · rename_i starts
      simp only [Option.some.injEq, List.cons.injEq, true_and, List.takeWhile_eq_self_iff] at named
      rw [List.cons_append, List.cons_append, className?, if_pos starts,
        List.takeWhile_append_of_pos named]
      rfl
    · simp at named
  · rename_i c more _
    split at named
    · rename_i starts
      simp only [Option.some.injEq, List.cons.injEq, true_and, List.takeWhile_eq_self_iff] at named
      have first : c ≠ '-' := by
        rintro rfl
        simp [startsName, Text.isAsciiLetter] at starts
      rw [List.cons_append, className?.eq_2, if_pos starts, List.takeWhile_append_of_pos named]
      · rfl
      · rintro d others rfl
        exact absurd rfl first
    · simp at named
  · simp at named

/-- The class name at the front of a text is what it begins with. -/
theorem prefix_of_className? (read : className? text = some name) : name <+: text := by
  unfold className? at read
  split at read
  · split at read
    · rw [← Option.some.inj read, List.cons_prefix_cons, List.cons_prefix_cons]
      exact ⟨rfl, rfl, List.takeWhile_prefix _⟩
    · simp at read
  · split at read
    · rw [← Option.some.inj read, List.cons_prefix_cons]
      exact ⟨rfl, List.takeWhile_prefix _⟩
    · simp at read
  · simp at read

/-- A point and a class name stand in a text exactly when one of its class names begins so. -/
theorem mentions_iff (named : className? name = some name) (text : Text) :
    mentions text name = true ↔ ∃ known ∈ allClasses text, name <+: known := by
  induction text with
  | nil => simp [mentions, Text.occursIn, allClasses]
  | cons c rest ih =>
    rw [mentions] at ih ⊢
    rw [Text.occursIn, Bool.or_eq_true, ih, allClasses, List.isPrefixOf_iff_prefix,
      List.cons_prefix_cons]
    by_cases point : c = '.'
    · rw [if_pos point]
      have here : name <+: rest ↔ ∃ known ∈ className? rest, name <+: known := by
        constructor
        · rintro ⟨more, rfl⟩
          exact ⟨_, className?_append named more, List.prefix_append _ _⟩
        · rintro ⟨known, read, begins⟩
          exact begins.trans (prefix_of_className? read)
      rw [here]
      cases className? rest with
      | none => simp
      | some known => simp [point]
    · have other : ¬ '.' = c := fun same => point same.symm
      simp [point, other]

/-- What ends a name at the end of a text ends the class name at its front. -/
theorem className?_append_cons {c : CodePoint} (ends : continuesName c = false)
    (front back : Text) :
    className? (front ++ c :: back) = className? front := by
  have stops : startsName c = false := by
    rw [Bool.eq_false_iff]
    intro starts
    simp [continuesName_of_startsName starts] at ends
  have minus : c ≠ '-' := by
    rintro rfl
    simp [continuesName] at ends
  have run : ∀ rest : Text,
      (rest ++ c :: back).takeWhile continuesName = rest.takeWhile continuesName := by
    intro rest
    induction rest with
    | nil => simp [ends]
    | cons d others ih => simp [List.takeWhile_cons, ih]
  rcases front with _ | ⟨d, _ | ⟨e, rest⟩⟩
  · rw [List.nil_append, className?.eq_2 _ _ fun _ _ same => absurd same minus, stops]
    rfl
  · by_cases dash : d = '-'
    · subst dash
      have alone : className? [.char '-'] = none := by decide
      rw [List.cons_append, List.nil_append, className?, stops, alone]
      rfl
    · rw [List.cons_append, List.nil_append, className?.eq_2 _ _ fun _ _ same => absurd same dash,
        className?.eq_2 _ _ fun _ _ same => absurd same dash]
      simp [ends]
  · by_cases dash : d = '-'
    · subst dash
      rw [List.cons_append, List.cons_append, className?, className?, run]
    · rw [List.cons_append, className?.eq_2 _ _ fun _ _ same => absurd same dash,
        className?.eq_2 _ _ fun _ _ same => absurd same dash, run]

/-- The class names of a text are those before and those behind a character that ends a name and is
no point. -/
theorem allClasses_append_cons {c : CodePoint} (ends : continuesName c = false) (plain : c ≠ '.')
    (front back : Text) :
    allClasses (front ++ c :: back) = allClasses front ++ allClasses back := by
  induction front with
  | nil => rw [List.nil_append, allClasses.eq_2, if_neg plain, allClasses, List.nil_append]
  | cons d rest ih =>
    rw [List.cons_append, allClasses, allClasses, ih, className?_append_cons ends]
    split
    · split <;> simp
    · rfl

/-- A blank ends a name. -/
theorem continuesName_of_isBlank {c : CodePoint} (blank : Text.isBlank c = true) :
    continuesName c = false := by
  have dash : c ≠ '-' := by
    rintro rfl
    exact absurd blank (by decide)
  simp [continuesName, Text.isWord_of_isBlank blank, dash]

/-- A blank is no point. -/
theorem ne_point_of_isBlank {c : CodePoint} (blank : Text.isBlank c = true) : c ≠ '.' := by
  rintro rfl
  exact absurd blank (by decide)

/-- The class names of a text are those of its pieces between blanks. -/
theorem allClasses_eq_flatMap (text : Text) :
    allClasses text = (Text.split Text.isBlank text).flatMap allClasses := by
  by_cases some : ∃ c ∈ text, Text.isBlank c = true
  · obtain ⟨c, listed, blank⟩ := some
    obtain ⟨front, back, rfl⟩ := List.append_of_mem listed
    rw [allClasses_append_cons (continuesName_of_isBlank blank) (ne_point_of_isBlank blank),
      Text.split_append_cons blank, List.flatMap_append, allClasses_eq_flatMap front,
      allClasses_eq_flatMap back]
  · have whole : ∀ c ∈ text, Text.isBlank c = false := by simpa using some
    rw [Text.split_eq_singleton whole, List.flatMap_singleton]
termination_by text.length

/-- The class names of joined words are those of the words. -/
theorem allClasses_join (pieces : List Text) :
    allClasses (Text.join [' '] pieces) = pieces.flatMap allClasses := by
  have space : continuesName ' ' = false := by decide +kernel
  induction pieces with
  | nil => rfl
  | cons first rest ih =>
    cases rest with
    | nil => simp
    | cons second others =>
      rw [Text.join_cons_cons, List.append_assoc, List.singleton_append,
        allClasses_append_cons space (by decide), ih]
      rfl

/-- Pieces that hold nothing have no class names. -/
theorem flatMap_allClasses_filter (pieces : List Text) :
    (pieces.filter (!·.isEmpty)).flatMap allClasses = pieces.flatMap allClasses := by
  induction pieces with
  | nil => rfl
  | cons first rest ih =>
    cases first with
    | nil => simpa [allClasses] using ih
    | cons c others => simp [ih]

/-- Making blank runs one space leaves the class names. -/
theorem allClasses_collapse (text : Text) : allClasses (Text.collapse text) = allClasses text := by
  rw [Text.collapse, allClasses_join, Text.words, Text.splitNonempty, flatMap_allClasses_filter,
    ← allClasses_eq_flatMap]

/-- Scoring finds a class name in a selector exactly when a class of the selector begins with it. -/
theorem mentions_collapse_iff (named : className? name = some name) (selector : Text) :
    mentions (Text.collapse selector) name = true ↔ Begins selector name := by
  rw [mentions_iff named, allClasses_collapse]
  simp only [Begins, mem_classesOf]

/-- The points for classes are those for the names that a class of the selector begins with. -/
theorem classPoints_eq (named : ∀ name ∈ classes, className? name = some name)
    (weights : Weights) (selector : Text) : classPoints weights selector classes =
      weights.classHit * (classes.countP (Begins selector) : Nat) := by
  have same : classes.countP (mentions (Text.collapse selector)) =
      classes.countP (Begins selector) := by
    refine List.countP_congr fun name listed => ?_
    rw [mentions_collapse_iff (named name listed), decide_eq_true_eq]
  rw [classPoints, same]

/-- Of two tests, one of which passes what the other does, both count the same exactly when they
pass the same. -/
theorem countP_eq_countP_iff {α : Type} {wide narrow : α → Bool} {items : List α}
    (within : ∀ item ∈ items, narrow item = true → wide item = true) :
    items.countP wide = items.countP narrow ↔
      ∀ item ∈ items, wide item = true → narrow item = true := by
  constructor
  · intro same
    have below : (items.filter narrow).Sublist (items.filter wide) := by
      have kept : (items.filter wide).filter narrow = items.filter narrow := by
        rw [List.filter_filter]
        refine List.filter_congr fun item listed => ?_
        cases passed : narrow item with
        | false => simp
        | true => simp [within item listed passed]
      rw [← kept]
      exact List.filter_sublist
    rw [List.countP_eq_length_filter, List.countP_eq_length_filter] at same
    have whole := below.eq_of_length same.symm
    intro item listed passed
    have held : item ∈ items.filter narrow := whole ▸ List.mem_filter.2 ⟨listed, passed⟩
    exact (List.mem_filter.1 held).2
  · intro passes
    exact List.countP_congr fun item listed => ⟨passes item listed, within item listed⟩

/-- The score of a match with another selector is that of its pair. -/
theorem score_of_best? {variations : List Variation} {space : List (Text × Rule)} {found : Found}
    (matched : best? weights variations classes space = some found)
    (apart : found.rule.selector ≠ found.candidate) :
    found.score = score weights found.rule.selector found.candidate classes := by
  rcases (keys weights classes variations space).eq_empty_or_nonempty with empty | given
  · rw [best?_of_keys_eq_empty empty] at matched
    simp at matched
  · obtain ⟨top, greatest⟩ := exists_isGreatest_keys given
    rw [best?_of_isGreatest greatest] at matched
    split at matched
    · simp at matched
    · obtain ⟨pair, _, rfl⟩ := Option.map_eq_some_iff.1 matched
      have other : ¬ pair.1.2.selector = pair.2.selector := apart
      show (ofLex (keyOf weights classes pair)).2 = _
      rw [keyOf, if_neg other]
      rfl

/-- The score of another selector is made of its points for classes and its own. For a list of class
names the points for classes are those for the names that a class of the selector begins with. They
are those for the names that are classes of the selector exactly when a class gives no points or no
name is listed that begins a class of the selector and is none. So a rule with another selector is
chosen by the names that its classes begin with. -/
theorem score_begins (weights : Weights) {classes : List Text}
    (named : ∀ name ∈ classes, className? name = some name) :
    (∀ selector target, selector ≠ target → score weights selector target classes =
      max 0 (classPoints weights selector classes + ownPoints weights selector target)) ∧
    (∀ selector, classPoints weights selector classes =
      weights.classHit * (classes.countP (Begins selector) : Nat)) ∧
    (∀ selector, classPoints weights selector classes =
        weights.classHit * (classes.countP (· ∈ classesOf selector) : Nat) ↔
      weights.classHit = 0 ∨
        ∀ name ∈ classes, Begins selector name → name ∈ classesOf selector) ∧
    ∀ variations space found, best? weights variations classes space = some found →
      found.rule.selector ≠ found.candidate → found.score =
        max 0 (weights.classHit * (classes.countP (Begins found.rule.selector) : Nat) +
          ownPoints weights found.rule.selector found.candidate) := by
  refine ⟨fun selector target apart => score_of_ne apart weights classes,
    classPoints_eq named weights, fun selector => ?_,
      fun variations space found matched apart => ?_⟩
  · have within : ∀ name ∈ classes, decide (name ∈ classesOf selector) = true →
        decide (Begins selector name) = true := fun name _ known =>
      decide_eq_true ⟨name, of_decide_eq_true known, List.prefix_rfl⟩
    have counts := countP_eq_countP_iff within
    simp only [decide_eq_true_eq] at counts
    rw [classPoints_eq named, ← counts]
    by_cases free : weights.classHit = 0
    · simp [free]
    · rw [Int.mul_eq_mul_left_iff free, Int.natCast_inj]
      simp [free]
  · rw [score_of_best? matched apart, score_of_ne apart, classPoints_eq named]

/-- A class counts for a selector that has a longer one in its place, and the points for classes are
not those for the classes that the selector has. -/
theorem score_begins_longer :
    let classes := ["card".toText, "btn".toText]
    let selector := ".card > .btn-primary".toText
    (∀ name ∈ classes, className? name = some name) ∧
      classesOf selector = ["card".toText, "btn-primary".toText] ∧
      score {} selector ".panel".toText classes =
        max 0 (classPoints {} selector classes + ownPoints {} selector ".panel".toText) ∧
      classPoints {} selector classes = 30 * (classes.countP (Begins selector) : Nat) ∧
      classes.countP (Begins selector) = 2 ∧
      classPoints {} selector classes ≠
        30 * (classes.countP (· ∈ classesOf selector) : Nat) := by
  intro classes selector
  have named : ∀ name ∈ classes, className? name = some name := by decide +kernel
  obtain ⟨scores, counts, exact, _⟩ := score_begins {} named
  refine ⟨named, by decide +kernel, scores selector _ (by decide), counts selector,
    by decide +kernel, fun same => ?_⟩
  rcases (exact selector).1 same with free | whole
  · exact absurd free (by decide)
  · exact absurd (whole "btn".toText (by decide) (by decide +kernel)) (by decide +kernel)

/-- The points for classes are not those for the names that are classes of the selector: a name
counts that only begins one, and a rule is chosen by two names of which its selector has neither. -/
theorem not_classPoints_longer :
    let space := [("/p/a.css".toText,
      (⟨".btn-primary .nav-link".toText, .empty, 0, 25, by decide⟩ : Rule))]
    let found := best? {} [⟨".toolbar".toText, 1, .reported⟩] ["btn".toText, "nav".toText] space
    (∀ name ∈ ["btn".toText, "nav".toText], className? name = some name) ∧
      classesOf ".btn-primary".toText = ["btn-primary".toText] ∧
      score {} ".btn-primary".toText ".x".toText ["btn".toText] = 30 ∧
      ¬ (∀ (weights : Weights) (selector target : Text) (classes : List Text), selector ≠ target →
        (∀ name ∈ classes, className? name = some name) →
        classPoints weights selector classes =
          weights.classHit * (classes.countP (· ∈ classesOf selector) : Nat)) ∧
      classesOf ".btn-primary .nav-link".toText = ["btn-primary".toText, "nav-link".toText] ∧
      found.map Found.score = some 60 := by
  intro space found
  refine ⟨by decide +kernel, by decide +kernel, by decide +kernel, fun all => ?_,
    by decide +kernel, by decide +kernel⟩
  have same := all {} ".btn-primary".toText ".x".toText ["btn".toText] (by decide)
    (by decide +kernel)
  exact absurd same (by decide +kernel)

end Restyle.Match
