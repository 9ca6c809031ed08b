import Mathlib.Data.List.Forall2

/-!
# Steps that may fail

A row of steps that may fail goes through when each of its steps does, and what it comes to is
made of what they come to. It fails at the first step that does (`mapM_eq_error_iff`).
-/
namespace Restyle

variable {ε ε' α β : Type}

/-- A changed value was a value before. -/
theorem exists_of_map_eq_ok {outcome : Except ε α} {change : α → β} {result : β}
    (done : outcome.map change = .ok result) :
    ∃ value, outcome = .ok value ∧ change value = result := by
  cases outcome with
  | error fault => simp [Except.map] at done
  | ok value => exact ⟨value, rfl, Except.ok.inj done⟩

/-- A fault of a changed value was its fault before. -/
theorem eq_error_of_map_eq_error {outcome : Except ε α} {change : α → β} {fault : ε}
    (failed : outcome.map change = .error fault) : outcome = .error fault := by
  cases outcome with
  | error cause => rw [Except.error.inj failed]
  | ok value => simp [Except.map] at failed

/-- What goes through with its faults renamed goes through. -/
theorem eq_ok_of_mapError_eq_ok {outcome : Except ε α} {rename : ε → ε'} {result : α}
    (done : outcome.mapError rename = .ok result) : outcome = .ok result := by
  cases outcome with
  | error fault =>
    have failed : (.error (rename fault) : Except ε' α) = .ok result := done
    simp at failed
  | ok value => rw [Except.ok.inj done]

/-- Two steps that may fail go through one after the other. -/
theorem exists_of_bind_eq_ok {outcome : Except ε α} {next : α → Except ε β} {result : β}
    (done : (outcome >>= next) = .ok result) :
    ∃ value, outcome = .ok value ∧ next value = .ok result := by
  cases outcome with
  | error fault => simp [bind, Except.bind] at done
  | ok value => exact ⟨value, rfl, done⟩

/-- Two steps fail when the first one does, or when it goes through and the second one fails. -/
theorem bind_eq_error_iff {outcome : Except ε α} {next : α → Except ε β} {fault : ε} :
    (outcome >>= next) = .error fault ↔
      outcome = .error fault ∨ ∃ value, outcome = .ok value ∧ next value = .error fault := by
  cases outcome <;> simp [bind, Except.bind]

/-- A renamed fault was a fault before. -/
theorem mapError_eq_error_iff {outcome : Except ε α} {rename : ε → ε'} {fault : ε'} :
    outcome.mapError rename = .error fault ↔
      ∃ cause, outcome = .error cause ∧ rename cause = fault := by
  cases outcome with
  | error cause =>
    have renamed : (.error cause : Except ε α).mapError rename = .error (rename cause) := rfl
    simp [renamed]
  | ok value =>
    have kept : (.ok value : Except ε α).mapError rename = .ok value := rfl
    simp [kept]

/-- What a step that may fail makes of the items of a list is made of one of them. -/
theorem exists_of_mem_mapM {step : α → Except ε β} {items : List α} {made : List β}
    (done : items.mapM step = .ok made) :
    ∀ result ∈ made, ∃ item ∈ items, step item = .ok result := by
  induction items generalizing made with
  | nil =>
    rw [List.mapM_nil] at done
    obtain rfl := Except.ok.inj done
    simp
  | cons first rest ih =>
    rw [List.mapM_cons] at done
    obtain ⟨result, one, done⟩ := exists_of_bind_eq_ok done
    obtain ⟨others, later, done⟩ := exists_of_bind_eq_ok done
    obtain rfl := Except.ok.inj done
    intro other listed
    rcases List.mem_cons.1 listed with rfl | listed
    · exact ⟨first, by simp, one⟩
    · obtain ⟨item, given, same⟩ := ih later other listed
      exact ⟨item, List.mem_cons_of_mem _ given, same⟩

/-- A step that goes through for each item of a list goes through for the list. -/
theorem mapM_eq_ok {step : α → Except ε β} {make : α → β} {items : List α}
    (each : ∀ item ∈ items, step item = .ok (make item)) :
    items.mapM step = .ok (items.map make) := by
  induction items with
  | nil => rfl
  | cons first rest ih =>
    rw [List.mapM_cons, each first (by simp), ih fun item listed => each item (by simp [listed])]
    rfl

/-- A row of steps goes through when each item goes with what is made of it, if that is when the
step goes through. -/
theorem mapM_eq_ok_iff_forall₂ {step : α → Except ε β} {goes : α → β → Prop}
    (each : ∀ item result, step item = .ok result ↔ goes item result)
    {items : List α} {made : List β} :
    items.mapM step = .ok made ↔ List.Forall₂ goes items made := by
  constructor
  · intro done
    induction items generalizing made with
    | nil =>
      rw [List.mapM_nil] at done
      obtain rfl := Except.ok.inj done
      exact .nil
    | cons first rest ih =>
      rw [List.mapM_cons] at done
      obtain ⟨result, one, done⟩ := exists_of_bind_eq_ok done
      obtain ⟨others, later, done⟩ := exists_of_bind_eq_ok done
      obtain rfl := Except.ok.inj done
      exact .cons ((each _ _).1 one) (ih later)
  · intro all
    induction all with
    | nil => rfl
    | cons goes _ ih =>
      rw [List.mapM_cons, (each _ _).2 goes, ih]
      rfl

/-- A row of steps fails at the first item that a step fails for. -/
theorem mapM_eq_error_iff {step : α → Except ε β} {items : List α} {fault : ε} :
    items.mapM step = .error fault ↔
      ∃ front item back, items = front ++ item :: back ∧
        (∀ earlier ∈ front, ∃ result, step earlier = .ok result) ∧ step item = .error fault := by
  induction items with
  | nil => simp [pure, Except.pure]
  | cons first rest ih =>
    rw [List.mapM_cons, bind_eq_error_iff]
    constructor
    · rintro (failed | ⟨result, done, later⟩)
      · exact ⟨[], first, rest, rfl, by simp, failed⟩
      · rw [bind_eq_error_iff] at later
        rcases later with failed | ⟨others, _, done⟩
        · obtain ⟨front, item, back, rfl, before, failed⟩ := ih.1 failed
          exact ⟨first :: front, item, back, rfl,
            List.forall_mem_cons.2 ⟨⟨result, done⟩, before⟩, failed⟩
        · simp [pure, Except.pure] at done
    · rintro ⟨front, item, back, parted, before, failed⟩
      cases front with
      | nil =>
        obtain ⟨rfl, rfl⟩ := List.cons.inj parted
        exact .inl failed
      | cons head front =>
        obtain ⟨rfl, rfl⟩ := List.cons.inj parted
        obtain ⟨⟨result, done⟩, before⟩ := List.forall_mem_cons.1 before
        refine .inr ⟨result, done, bind_eq_error_iff.2 (.inl ?_)⟩
        exact ih.2 ⟨front, item, back, rfl, before, failed⟩

end Restyle
