import Mathlib.Tactic.Common
import Restyle.Disk.Basic
import Restyle.Proofs.Text.Split
import Restyle.Proofs.Text.Utf8

/-!
# Absolute forms

A path in normal form is one or two separators and then proper names with one separator between
neighbours. Main statements: every absolute form is normal (`normal_absolute`), a normal path is
its own absolute form (`Normal.absolute_eq`), a path that is appended to a normal one adds its
names (`Normal.append`), and the names of a path below a folder begin with those of the folder
(`Normal.prefix_of_isUnder`).
-/
namespace Restyle

/-- A text names something unless it holds the null character or a surrogate that stands for no
byte. -/
theorem nameFault?_eq_none_iff {name : Text} :
    nameFault? name = none ↔
      (∀ c ∈ name, c.isSurrogate = true → Utf8.isEscapedByte c = true) ∧ .char '\x00' ∉ name := by
  have allowed := @Utf8.refused?_eq_none_iff Utf8.isEscapedByte 0 name
  rw [nameFault?, ← allowed]
  cases Utf8.refused? Utf8.isEscapedByte 0 name <;> simp

namespace Path

open Text (join split)

/-- A name that a file or folder can have: it is not empty, neither `.` nor `..`, and holds no
separator. -/
def IsName (name : Text) : Prop :=
  name ≠ [] ∧ name ≠ [.char '.'] ∧ name ≠ [.char '.', .char '.'] ∧ .char '/' ∉ name

instance (name : Text) : Decidable (IsName name) := inferInstanceAs (Decidable (_ ∧ _ ∧ _ ∧ _))

/-- A path in normal form: leading separators and then proper names, each after the other. -/
def Normal (path : Text) : Prop :=
  path = leading path ++ join ['/'] (names path) ∧ ∀ name ∈ names path, IsName name

instance (path : Text) : Decidable (Normal path) := inferInstanceAs (Decidable (_ ∧ _))

/-- The separators at the front of an absolute path are one or two. -/
theorem leading_eq (path : Text) :
    leading path = [.char '/'] ∨ leading path = [.char '/', .char '/'] := by
  unfold leading
  split
  · exact .inl rfl
  · exact .inr rfl
  · exact .inl rfl

/-- Leading separators make empty components. -/
theorem components_leading (path rest : Text) :
    ∃ count, 0 < count ∧
      components (leading path ++ rest) = List.replicate count [] ++ components rest := by
  rcases leading_eq path with one | two
  · refine ⟨1, by omega, ?_⟩
    rw [one, List.singleton_append, components, Text.split_cons_of_separator (by simp)]
    rfl
  · refine ⟨2, by omega, ?_⟩
    rw [two, List.cons_append, List.singleton_append, components,
      Text.split_cons_of_separator (by simp), Text.split_cons_of_separator (by simp)]
    rfl

/-- The components of joined names are the names, and an empty one where there is no name. -/
theorem components_join {trail : List Text} (proper : ∀ name ∈ trail, IsName name) :
    components (join ['/'] trail) = if trail = [] then [[]] else trail := by
  split
  · rename_i none
    rw [none]
    rfl
  · rename_i some
    exact Text.split_join some fun name listed => (proper name listed).2.2.2

/-- The components of a path in normal form are empty ones and then its names. -/
theorem components_eq (lead : Text) {trail : List Text} (proper : ∀ name ∈ trail, IsName name) :
    ∃ count, 0 < count ∧
      components (leading lead ++ join ['/'] trail) = List.replicate count [] ++ trail := by
  obtain ⟨count, positive, whole⟩ := components_leading lead (join ['/'] trail)
  rw [components_join proper] at whole
  by_cases none : trail = []
  · subst none
    refine ⟨count + 1, by omega, ?_⟩
    rw [whole, List.replicate_succ']
    simp
  · rw [if_neg none] at whole
    exact ⟨count, positive, whole⟩

/-- Empty components are no names. -/
theorem filter_replicate_append {trail : List Text} (proper : ∀ name ∈ trail, IsName name)
    (count : Nat) : (List.replicate count ([] : Text) ++ trail).filter (!·.isEmpty) = trail := by
  rw [List.filter_append, List.filter_replicate]
  simp only [List.isEmpty_nil, Bool.not_true, Bool.false_eq_true, if_false, List.nil_append]
  rw [List.filter_eq_self]
  intro name listed
  simpa using (proper name listed).1

/-- The names of leading separators and proper names are these names. -/
theorem names_leading_join {lead : Text} {trail : List Text}
    (proper : ∀ name ∈ trail, IsName name) :
    names (leading lead ++ join ['/'] trail) = trail := by
  obtain ⟨count, _, whole⟩ := components_eq lead proper
  show (components _).filter _ = trail
  rw [whole, filter_replicate_append proper]

/-- Joined proper names do not begin with a separator. -/
theorem head?_join {trail : List Text} (proper : ∀ name ∈ trail, IsName name) :
    (join ['/'] trail).head? ≠ some (.char '/') := by
  cases trail with
  | nil => simp
  | cons first rest =>
    obtain ⟨some, _, _, unbroken⟩ := proper first (by simp)
    obtain ⟨c, tail, rfl⟩ := List.exists_cons_of_ne_nil some
    have other : c ≠ '/' := fun same => unbroken (by simp [same])
    cases rest with
    | nil => simpa using other
    | cons second others => simpa [Text.join_cons_cons] using other

/-- Leading separators before proper names stay as they are. -/
theorem leading_leading_join {lead : Text} {trail : List Text}
    (proper : ∀ name ∈ trail, IsName name) :
    leading (leading lead ++ join ['/'] trail) = leading lead := by
  have other := head?_join proper
  cases tail : join ['/'] trail with
  | nil =>
    rcases leading_eq lead with one | two
    · rw [one]
      simp [leading]
    · rw [two]
      simp [leading]
  | cons c rest =>
    rw [tail] at other
    have apart : c ≠ '/' := by simpa using other
    rcases leading_eq lead with one | two
    · rw [one]
      simp [leading, apart]
    · rw [two]
      simp [leading, apart]

/-- Leading separators and proper names make a path in normal form. -/
theorem normal_leading_join (lead : Text) {trail : List Text}
    (proper : ∀ name ∈ trail, IsName name) : Normal (leading lead ++ join ['/'] trail) := by
  rw [Normal, leading_leading_join proper, names_leading_join proper]
  exact ⟨rfl, proper⟩

/-- Settling keeps proper names that earlier names are followed by. -/
theorem settle_append {trail : List Text} (proper : ∀ name ∈ trail, IsName name)
    (kept rest : List Text) :
    settle kept (trail ++ rest) = settle (trail.reverse ++ kept) rest := by
  induction trail generalizing kept with
  | nil => rfl
  | cons name others ih =>
    obtain ⟨some, here, above, _⟩ := proper name (by simp)
    rw [List.cons_append, settle, if_neg (by simp [some, here]), if_neg above,
      ih fun name listed => proper name (by simp [listed])]
    simp

/-- Settling passes over empty components. -/
theorem settle_replicate_append (count : Nat) (kept rest : List Text) :
    settle kept (List.replicate count [] ++ rest) = settle kept rest := by
  induction count with
  | zero => rfl
  | succ count ih => rw [List.replicate_succ, List.cons_append, settle, if_pos (.inl rfl), ih]

/-- What is left after settling are proper names. -/
theorem isName_of_mem_settle {kept steps : List Text} (before : ∀ name ∈ kept, IsName name)
    (unbroken : ∀ step ∈ steps, .char '/' ∉ step) : ∀ name ∈ settle kept steps, IsName name := by
  induction steps generalizing kept with
  | nil => simpa [settle] using before
  | cons step rest ih =>
    have later : ∀ step ∈ rest, .char '/' ∉ step :=
      fun step listed => unbroken step (by simp [listed])
    rw [settle]
    split
    · exact ih before later
    · rename_i passed
      split
      · exact ih (fun name listed => before name (List.mem_of_mem_drop listed)) later
      · rename_i above
        refine ih (fun name listed => ?_) later
        rcases List.mem_cons.1 listed with rfl | listed
        · exact ⟨fun same => passed (.inl same), fun same => passed (.inr same), above,
            unbroken _ (by simp)⟩
        · exact before name listed

/-- No component holds a separator. -/
theorem not_mem_of_mem_components {path step : Text} (listed : step ∈ components path) :
    .char '/' ∉ step := by
  intro held
  simpa using Text.not_isSeparator_of_mem_split listed '/' held

/-- A cleaned path is in normal form. -/
theorem normal_clean (path : Text) : Normal (clean path) :=
  normal_leading_join path <|
    isName_of_mem_settle (by simp) fun _ listed => not_mem_of_mem_components listed

/-- Every absolute form is in normal form. -/
theorem normal_absolute (place : Place) (path : Text) : Normal (absolute place path) :=
  normal_clean _

/-- The names of a cleaned path are what its components settle to. -/
theorem names_clean (path : Text) : names (clean path) = settle [] (components path) :=
  names_leading_join <|
    isName_of_mem_settle (by simp) fun _ listed => not_mem_of_mem_components listed

/-- A path that begins with a separator is cleaned where it stands. -/
theorem absolute_eq_clean (place : Place) {path : Text} (rooted : path.head? = some (.char '/')) :
    absolute place path = clean path := by
  obtain ⟨rest, rfl⟩ : ∃ rest, path = .char '/' :: rest := List.head?_eq_some_iff.1 rooted
  rw [absolute, expandHome, append]
  · rw [if_pos (by simp [Text.startsWith])]
  · simp

/-- A path resolves to its absolute form, unless its account cannot be looked up. -/
theorem resolve_eq_ok_iff {place : Place} {path root : Text} :
    resolve place path = .ok root ↔
      nameFault? (accountOf path) = none ∧ absolute place path = root := by
  rw [resolve]
  cases nameFault? (accountOf path) <;> simp

namespace Normal

variable {path root : Text}

/-- A path in normal form begins with a separator. -/
theorem head?_eq (normal : Normal path) : path.head? = some (.char '/') := by
  rw [normal.1]
  rcases leading_eq path with one | two
  · simp [one]
  · simp [two]

/-- A path in normal form is settled already. -/
theorem clean_eq (normal : Normal path) : clean path = path := by
  obtain ⟨count, _, whole⟩ := components_eq path normal.2
  rw [← normal.1] at whole
  have settled : settle [] (components path) = names path := by
    rw [whole, settle_replicate_append]
    have step := settle_append normal.2 [] []
    simp only [List.append_nil] at step
    simp [step, settle]
  rw [clean, settled, ← normal.1]

/-- A path in normal form is its own absolute form. -/
theorem absolute_eq (normal : Normal path) (place : Place) : absolute place path = path := by
  rw [absolute_eq_clean place normal.head?_eq, normal.clean_eq]

/-- A path in normal form resolves to itself. -/
theorem resolve_eq (normal : Normal path) (place : Place) : resolve place path = .ok path := by
  have account : accountOf path = [] := by
    obtain ⟨rest, whole⟩ := List.head?_eq_some_iff.1 normal.head?_eq
    rw [whole]
    simp [accountOf]
  rw [resolve, account, normal.absolute_eq place]
  rfl

/-- Paths in normal form with the same separators at their front are told apart by their
names. -/
theorem eq_of_names_eq {other : Text} (normal : Normal path) (normal' : Normal other)
    (lead : leading path = leading other) (same : names path = names other) : path = other := by
  rw [normal.1, normal'.1, lead, same]

/-- A path in normal form is not empty. -/
theorem ne_nil (normal : Normal path) : path ≠ [] := by
  intro empty
  have rooted := normal.head?_eq
  simp [empty] at rooted

/-- A path in normal form ends with a separator exactly when it has no name. -/
theorem endsWith_iff (normal : Normal root) : root.endsWith ['/'] = true ↔ names root = [] := by
  constructor
  · intro ended
    by_contra some
    obtain ⟨front, last, whole⟩ : ∃ front last, names root = front ++ [last] :=
      ⟨_, _, (List.dropLast_append_getLast some).symm⟩
    obtain ⟨more, _, _, unbroken⟩ := normal.2 last (by simp [whole])
    have tail : ∃ start, root = start ++ last := by
      rw [normal.1, whole]
      by_cases alone : front = []
      · exact ⟨leading root, by simp [alone]⟩
      · exact ⟨leading root ++ (join ['/'] front ++ [.char '/']), by
          rw [Text.join_append [.char '/'] alone (by simp)]
          simp⟩
    obtain ⟨start, split⟩ := tail
    obtain ⟨init, c, rfl⟩ : ∃ init c, last = init ++ [c] :=
      ⟨_, _, (List.dropLast_append_getLast more).symm⟩
    rw [Text.endsWith, List.isSuffixOf_iff_suffix, split, ← List.append_assoc] at ended
    obtain ⟨before, same⟩ := ended
    have final := congrArg List.getLast? same
    simp only [List.getLast?_append, List.getLast?_singleton, Option.some_or,
      Option.some.injEq] at final
    exact unbroken (by simp [← final])
  · intro none
    rw [normal.1, none]
    rcases leading_eq root with one | two
    · simp [one, Text.endsWith]
    · rw [two]
      decide

/-- Proper names behind those of a path in normal form make proper names again. -/
theorem isName_append (normal : Normal root) {trail : List Text}
    (proper : ∀ name ∈ trail, IsName name) : ∀ name ∈ names root ++ trail, IsName name :=
  List.forall_mem_append.2 ⟨normal.2, proper⟩

/-- A path of proper names that is appended to one in normal form adds its names. -/
theorem append_eq (normal : Normal root) {trail : List Text} (some : trail ≠ [])
    (proper : ∀ name ∈ trail, IsName name) :
    append root (join ['/'] trail) = leading root ++ join ['/'] (names root ++ trail) := by
  have relative : (join ['/'] trail).startsWith ['/'] = false := by
    have other := head?_join proper
    cases shape : join ['/'] trail with
    | nil => rfl
    | cons c rest =>
      rw [shape] at other
      have apart : '/' ≠ c := by
        rintro rfl
        exact other rfl
      simp [Text.startsWith, List.isPrefixOf, apart]
  have given : root.isEmpty = false := by
    obtain ⟨rest, whole⟩ := List.head?_eq_some_iff.1 normal.head?_eq
    simp [whole]
  rw [append, relative, given]
  by_cases none : names root = []
  · have ended := normal.endsWith_iff.2 none
    rw [ended, none]
    conv_lhs => rw [normal.1, none]
    simp
  · have open_ : root.endsWith ['/'] = false := by
      rw [Bool.eq_false_iff, ne_eq, normal.endsWith_iff]
      exact none
    rw [open_, Text.join_append [.char '/'] none some]
    conv_lhs => rw [normal.1]
    simp

/-- A path in normal form begins every path that is appended to it. -/
theorem prefix_append (normal : Normal root) {trail : List Text} (some : trail ≠ [])
    (proper : ∀ name ∈ trail, IsName name) : root <+: append root (join ['/'] trail) := by
  rw [normal.append_eq some proper]
  conv_lhs => rw [normal.1]
  by_cases none : names root = []
  · exact ⟨join ['/'] trail, by simp [none]⟩
  · exact ⟨.char '/' :: join ['/'] trail, by rw [Text.join_append [.char '/'] none some]; simp⟩

/-- A path of proper names that is appended to one in normal form makes one in normal form. -/
theorem append (normal : Normal root) {trail : List Text} (some : trail ≠ [])
    (proper : ∀ name ∈ trail, IsName name) : Normal (Path.append root (join ['/'] trail)) := by
  rw [normal.append_eq some proper]
  exact normal_leading_join root (normal.isName_append proper)

/-- Appending a path adds its names. -/
theorem names_append (normal : Normal root) {trail : List Text} (some : trail ≠ [])
    (proper : ∀ name ∈ trail, IsName name) :
    names (Path.append root (join ['/'] trail)) = names root ++ trail := by
  rw [normal.append_eq some proper]
  exact names_leading_join (normal.isName_append proper)

/-- Appending a path leaves the separators at the front. -/
theorem leading_append (normal : Normal root) {trail : List Text} (some : trail ≠ [])
    (proper : ∀ name ∈ trail, IsName name) :
    leading (Path.append root (join ['/'] trail)) = leading root := by
  rw [normal.append_eq some proper]
  exact leading_leading_join (normal.isName_append proper)

/-- The text that a path below one in normal form begins with. -/
theorem bare_eq (normal : Normal root) :
    (root.reverse.dropWhile (· = .char '/')).reverse = if names root = [] then [] else root := by
  split
  · rename_i none
    rw [normal.1, none]
    rcases leading_eq root with one | two
    · simp [one]
    · simp [two]
  · rename_i some
    have open_ : ¬ root.endsWith ['/'] = true := fun ended => some (normal.endsWith_iff.1 ended)
    rw [Text.endsWith, List.isSuffixOf_iff_suffix] at open_
    cases back : root.reverse with
    | nil => simp [List.reverse_eq_nil_iff.1 back]
    | cons c rest =>
      have whole : root = rest.reverse ++ [c] := by rw [← List.reverse_reverse root, back]; simp
      have other : c ≠ '/' := by
        rintro rfl
        exact open_ ⟨rest.reverse, whole.symm⟩
      rw [List.dropWhile_cons_of_neg (by simpa using other), ← back, List.reverse_reverse]

/-- The names of a path below a folder begin with those of the folder. -/
theorem prefix_of_isUnder (normal : Normal root) (below : isUnder path root = true) :
    names root <+: names path := by
  rw [isUnder, Bool.or_eq_true, beq_iff_eq] at below
  rcases below with rfl | below
  · exact List.prefix_rfl
  · rw [normal.bare_eq] at below
    split at below
    · rename_i none
      rw [none]
      exact List.nil_prefix
    · rw [Text.startsWith, List.isPrefixOf_iff_prefix] at below
      obtain ⟨rest, rfl⟩ := below
      have cut : names (root ++ [.char '/'] ++ rest) = names root ++ names rest := by
        show (split _ _).filter _ = _
        rw [List.append_assoc, List.singleton_append, Text.split_append_cons (by simp),
          List.filter_append]
        rfl
      rw [cut]
      exact List.prefix_append _ _

/-- What is appended to a folder lies below it. -/
theorem isUnder_append (normal : Normal root) {trail : List Text} (some : trail ≠ [])
    (proper : ∀ name ∈ trail, IsName name) :
    isUnder (Path.append root (join ['/'] trail)) root = true := by
  rw [isUnder, Bool.or_eq_true]
  right
  rw [Text.startsWith, List.isPrefixOf_iff_prefix, normal.append_eq some proper, normal.bare_eq]
  split
  · rename_i none
    rw [none]
    rcases leading_eq root with one | two
    · rw [one]
      exact ⟨_, rfl⟩
    · rw [two]
      exact ⟨_, rfl⟩
  · rename_i more
    refine ⟨join ['/'] trail, ?_⟩
    conv_lhs => rw [normal.1]
    rw [Text.join_append [.char '/'] more some]
    simp

end Normal

/-- The items that two lists have in common at their front are the shorter list, if that is
where the longer one begins. -/
theorem commonLength_append (front back : List Text) :
    commonLength front (front ++ back) = front.length := by
  induction front with
  | nil => cases back <;> rfl
  | cons first rest ih => simp [commonLength, ih]

/-- A path below a folder, as seen from the folder and then followed from there, leads to the
same names. -/
theorem names_absolute_append_relative {path root : Text} (place : Place) (normal : Normal root)
    (normal' : Normal path) (below : names root <+: names path) :
    names (absolute place (append root (relative path root))) = names path := by
  obtain ⟨rest, whole⟩ := below
  have seen : relative path root = if rest = [] then [.char '.'] else join ['/'] rest := by
    rw [relative, ← whole, commonLength_append]
    by_cases none : rest = [] <;> simp [none]
  rw [seen]
  split
  · rename_i none
    have rooted : (append root [.char '.']).head? = some (.char '/') := by
      obtain ⟨tail, shape⟩ := List.head?_eq_some_iff.1 normal.head?_eq
      rw [append, if_neg (by simp [Text.startsWith])]
      split <;> simp [shape]
    obtain ⟨count, _, parts⟩ := components_eq root normal.2
    rw [← normal.1] at parts
    have settled : ∃ empties, settle [] (components (append root [.char '.'])) =
        settle [] (List.replicate empties [] ++ (names root ++ [[.char '.']])) := by
      rw [append, if_neg (by simp [Text.startsWith])]
      split
      · rename_i ended
        have ended : root.endsWith ['/'] = true := by
          obtain ⟨tail, shape⟩ := List.head?_eq_some_iff.1 normal.head?_eq
          simpa [shape] using ended
        have none := normal.endsWith_iff.1 ended
        refine ⟨count, ?_⟩
        rw [none]
        conv_lhs => rw [normal.1, none]
        rcases leading_eq root with one | two
        · rw [one, settle_replicate_append]
          rfl
        · rw [two, settle_replicate_append]
          rfl
      · refine ⟨count, ?_⟩
        have cut :
            components (root ++ .char '/' :: [.char '.']) = components root ++ [[.char '.']] :=
          Text.split_append_cons (by simp) root [.char '.']
        rw [cut, parts, List.append_assoc]
    obtain ⟨empties, settled⟩ := settled
    rw [absolute_eq_clean place rooted, names_clean, settled, settle_replicate_append,
      settle_append normal.2, ← whole, none]
    simp [settle]
  · rename_i some
    have proper : ∀ name ∈ rest, IsName name := fun name listed =>
      normal'.2 name (by simp [← whole, listed])
    rw [(normal.append some proper).absolute_eq, normal.names_append some proper, whole]

end Path

end Restyle
