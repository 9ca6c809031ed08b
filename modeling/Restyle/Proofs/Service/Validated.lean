import Restyle.Proofs.Change.Wire
import Restyle.Service

/-!
# What validation lets through

A value that is read as an event has its texts in order, and most values that are not are refused
as no event, which a service answers as an invalid event (`Service.Validated`). The values that
escape are those with a part that reading converts without a check (`Event.Misfit`): a variation
that is no object or whose priority is infinite, a class list that is a truth value or a number, and
a kind, a changed value or a class that has no text because a whole number in it is too long or
because it stands inside too many others. Main statement: `Service.validated_iff`.
-/
namespace Restyle

/-- A truth value or a number. -/
inductive Json.Single : Json → Prop where
  /-- A truth value. -/
  | bool (value : Bool) : Single (.bool value)
  /-- A whole number. -/
  | int (n : Int) : Single (.int n)
  /-- A floating-point number. -/
  | real (x : Float) : Single (.real x)

/-- Only infinite numbers are refused for infinity when they are taken as a whole number. -/
theorem Json.toWhole_eq_infinity_iff {value : Json} :
    value.toWhole = .error .wholeOfInfinity ↔
      ∃ x negative, value = .real x ∧ Number.parts x = .infinite negative := by
  cases value with
  | real x => cases parts : Number.parts x <;> simp [toWhole, parts]
  | string text => cases read : Number.readWhole text <;> simp [toWhole, read]
  | _ => simp [toWhole]

/-- A value that has no text cannot be read. -/
theorem Json.readable_eq_error_iff {room : Nat} {value : Json} {fault : ReadFault} :
    value.readable room = .error fault ↔
      ∃ cause, value.display room = .error cause ∧ fault = .coercion (.undisplayed cause) := by
  simp only [readable, mapError_eq_error_iff, eq_comm (a := fault)]

namespace PropertyChange

variable {room : Nat} {value : Json}

/-- A value with a part that reading a change is to show and cannot, with the fault of it. -/
inductive Misfit (room : Nat) : Json → Json.DisplayFault → Prop where
  /-- It is no object and has no text. -/
  | bare (value : Json) (fault : Json.DisplayFault) (bare : ∀ members, value ≠ .object members)
    (shown : value.display room = .error fault) : Misfit room value fault
  /-- It is an object without a new value, which its refusal shows, and has no text. -/
  | unstated (members : List (Text × Json)) (fault : Json.DisplayFault)
    (missing : Json.member? members "to" = none)
    (shown : (Json.object members).display room = .error fault) :
    Misfit room (.object members) fault
  /-- The new value has no text. -/
  | becomes (members : List (Text × Json)) (value : Json) (fault : Json.DisplayFault)
    (stated : Json.member? members "to" = some value)
    (shown : value.display room = .error fault) : Misfit room (.object members) fault
  /-- The new value is read, and the old one has no text. -/
  | was (members : List (Text × Json)) (value : Json) (becomes : Option Text)
    (fault : Json.DisplayFault) (stated : Json.member? members "to" = some value)
    (read : textOf? room value = .ok becomes)
    (shown : (Json.memberOrNull members "from").display room = .error fault) :
    Misfit room (.object members) fault

/-- A value of a change is not read exactly when it has no text; null needs none. -/
theorem textOf?_eq_error_iff {fault : ReadFault} :
    textOf? room value = .error fault ↔
      ∃ cause, value.display room = .error cause ∧ fault = .coercion (.undisplayed cause) := by
  rw [← Json.readable_eq_error_iff]
  by_cases none : value = .null
  · subst none
    simp [textOf?, Json.readable, Json.display, Json.shown, Except.mapError]
  · have parts : textOf? room value = (value.readable room).map some := by
      rw [textOf?]
      exact fun same => none same
    rw [parts]
    exact ⟨eq_error_of_map_eq_error, fun failed => by rw [failed]; rfl⟩

/-- An object fails to be read as a change exactly when it is a misfit. -/
theorem ofJson_object_eq_coercion_iff {members : List (Text × Json)} {fault : CoercionFault} :
    ofJson room (.object members) = .error (.coercion fault) ↔
      ∃ cause, Misfit room (.object members) cause ∧ fault = .undisplayed cause := by
  cases stated : Json.member? members "to" with
  | none =>
    have parts : ofJson room (.object members) =
        (Json.object members).readable room >>= fun shown =>
        .error (.event (.changeWithoutValue shown)) := by
      rw [ofJson, stated]
    rw [parts, bind_eq_error_iff, Json.readable_eq_error_iff]
    constructor
    · rintro (⟨cause, shown, same⟩ | ⟨shown, _, absurd⟩)
      · exact ⟨cause, .unstated members cause stated shown, ReadFault.coercion.inj same⟩
      · simp at absurd
    · rintro ⟨cause, misfit, rfl⟩
      cases misfit with
      | bare _ _ bare _ => exact absurd rfl (bare members)
      | unstated _ _ _ shown => exact .inl ⟨cause, shown, rfl⟩
      | becomes _ _ _ given _ => simp [stated] at given
      | was _ _ _ _ given _ _ => simp [stated] at given
  | some value =>
    have parts : ofJson room (.object members) = textOf? room value >>= fun becomes =>
        textOf? room (Json.memberOrNull members "from") >>= fun was => .ok ⟨becomes, was⟩ := by
      rw [ofJson, stated]
      rfl
    simp only [parts, bind_eq_error_iff, textOf?_eq_error_iff]
    constructor
    · rintro (⟨cause, shown, same⟩ | ⟨becomes, read, ⟨cause, shown, same⟩ | ⟨_, _, absurd⟩⟩)
      · exact ⟨cause, .becomes members value cause stated shown, ReadFault.coercion.inj same⟩
      · exact ⟨cause, .was members value becomes cause stated read shown,
          ReadFault.coercion.inj same⟩
      · simp at absurd
    · rintro ⟨cause, misfit, rfl⟩
      cases misfit with
      | bare _ _ bare _ => exact absurd rfl (bare members)
      | unstated _ _ missing _ => simp [stated] at missing
      | becomes _ other _ given shown =>
        obtain rfl := Option.some.inj (stated.symm.trans given)
        exact .inl ⟨cause, shown, rfl⟩
      | was _ other becomes _ given read shown =>
        obtain rfl := Option.some.inj (stated.symm.trans given)
        exact .inr ⟨becomes, read, .inl ⟨cause, shown, rfl⟩⟩

/-- Reading a change fails in a conversion exactly for the misfits. -/
theorem ofJson_eq_coercion_iff {fault : CoercionFault} :
    ofJson room value = .error (.coercion fault) ↔
      ∃ cause, Misfit room value cause ∧ fault = .undisplayed cause := by
  by_cases bare : ∀ members, value ≠ .object members
  · have parts : ofJson room value = (textOf? room value).map fun text => ⟨text, none⟩ := by
      cases value with
      | object members => exact absurd rfl (bare members)
      | _ => rfl
    have same : ofJson room value = .error (.coercion fault) ↔
        textOf? room value = .error (.coercion fault) := by
      rw [parts]
      exact ⟨eq_error_of_map_eq_error, fun failed => by rw [failed]; rfl⟩
    rw [same, textOf?_eq_error_iff]
    constructor
    · rintro ⟨cause, shown, same⟩
      exact ⟨cause, .bare value cause bare shown, ReadFault.coercion.inj same⟩
    · rintro ⟨cause, misfit, rfl⟩
      cases misfit with
      | bare _ _ _ shown => exact ⟨cause, shown, rfl⟩
      | _ => exact absurd rfl (bare _)
  · obtain ⟨members, rfl⟩ := not_forall_not.1 bare
    exact ofJson_object_eq_coercion_iff

end PropertyChange

/-- A kind cannot be read exactly when it stands too deep to be shown. -/
theorem VariationKind.ofJson_eq_error_iff {room : Nat} {value : Json} {fault : ReadFault} :
    ofJson room value = .error fault ↔
      value.display room = .error .tooDeep ∧ fault = .coercion (.undisplayed .tooDeep) := by
  have other : (∀ text, value ≠ .string text) → (ofJson room value = .error fault ↔
      value.shown room = .error .tooDeep ∧ fault = .coercion (.undisplayed .tooDeep)) := by
    intro bare
    rw [ofJson]
    · split
      · rename_i deep
        simp [deep, eq_comm]
      · rename_i apart
        simpa using fun deep _ => apart deep
    · exact bare
  cases value with
  | string text => simp [ofJson, Json.display]
  | _ => exact other (by simp)

namespace Variation

variable {room : Nat}

/-- A value with a part that reading a variation cannot convert, with the fault of it. -/
inductive Misfit (room : Nat) : Json → CoercionFault → Prop where
  /-- It is no object. -/
  | bare (value : Json) (bare : ∀ members, value ≠ .object members) :
    Misfit room value (.noMembers value.kindName)
  /-- It has a selector, and its kind stands too deep to be shown. -/
  | kind (members : List (Text × Json)) (selector : Text)
    (named : Json.memberOrNull members "selector" = .string selector)
    (seen : Text.isBlankText selector = false)
    (deep : ((Json.member? members "type").getD (Json.memberOrNull members "kind")).display room =
      .error .tooDeep) : Misfit room (.object members) (.undisplayed .tooDeep)
  /-- It has a selector, its kind does not stand too deep, and its priority is infinite. -/
  | endless (members : List (Text × Json)) (selector : Text) (x : Float) (negative : Bool)
    (named : Json.memberOrNull members "selector" = .string selector)
    (seen : Text.isBlankText selector = false)
    (shallow : ((Json.member? members "type").getD
      (Json.memberOrNull members "kind")).display room ≠ .error .tooDeep)
    (stated : Json.member? members "priority" = some (.real x))
    (endless : Number.parts x = .infinite negative) : Misfit room (.object members) .wholeOfInfinity

/-- A priority cannot be converted exactly when it is infinite. -/
theorem priorityOf_eq_coercion_iff {value : Json} {fault : CoercionFault} :
    priorityOf value = .error (.coercion fault) ↔
      fault = .wholeOfInfinity ∧
        ∃ x negative, value = .real x ∧ Number.parts x = .infinite negative := by
  rw [← Json.toWhole_eq_infinity_iff, priorityOf]
  split
  · simp [*]
  · simp [*, eq_comm]
  · rename_i other apart same
    simp only [same, Except.error.injEq, reduceCtorEq, false_iff, not_and]
    exact fun _ infinity => apart infinity

/-- The priority of an object cannot be converted exactly when it is stated and infinite: one that
is left out counts as one. -/
theorem priorityOf_member_eq_coercion_iff (members : List (Text × Json)) (fault : CoercionFault) :
    priorityOf ((Json.member? members "priority").getD (.int 1)) = .error (.coercion fault) ↔
      fault = .wholeOfInfinity ∧ ∃ x negative,
        Json.member? members "priority" = some (.real x) ∧
          Number.parts x = .infinite negative := by
  have stated : ∀ x, (Json.member? members "priority").getD (.int 1) = .real x ↔
      Json.member? members "priority" = some (.real x) := by
    intro x
    cases Json.member? members "priority" <;> simp
  simp only [priorityOf_eq_coercion_iff, stated]

/-- Reading an object as a variation fails in a conversion exactly for the misfits. -/
theorem ofJson_object_eq_coercion_iff {members : List (Text × Json)} {fault : CoercionFault} :
    ofJson room (.object members) = .error (.coercion fault) ↔
      Misfit room (.object members) fault := by
  have named : Misfit room (.object members) fault →
      ∃ selector, Json.memberOrNull members "selector" = .string selector ∧
        Text.isBlankText selector = false := by
    rintro (⟨_, bare⟩ | ⟨_, selector, named, seen, _⟩ | ⟨_, selector, _, _, named, seen, _⟩)
    · exact absurd rfl (bare members)
    · exact ⟨selector, named, seen⟩
    · exact ⟨selector, named, seen⟩
  rw [ofJson]
  split
  · rename_i selector stated
    split
    · rename_i blank
      refine iff_of_false (by simp) fun misfit => ?_
      obtain ⟨other, same, seen⟩ := named misfit
      obtain rfl := Json.string.inj (stated.symm.trans same)
      simp [blank] at seen
    · rename_i seen
      rw [Bool.not_eq_true] at seen
      simp only
      split
      · rename_i failed
        obtain ⟨deep, rfl⟩ := VariationKind.ofJson_eq_error_iff.1 failed
        rw [Except.error.injEq, ReadFault.coercion.injEq]
        constructor
        · rintro rfl
          exact .kind members selector stated seen deep
        · rintro (⟨_, bare⟩ | _ | ⟨_, _, _, _, _, _, shallow, _⟩)
          · exact absurd rfl (bare members)
          · rfl
          · exact absurd deep shallow
      · rename_i kind read
        have shallow : ((Json.member? members "type").getD
            (Json.memberOrNull members "kind")).display room ≠ .error .tooDeep := fun deep => by
          simp [VariationKind.ofJson_eq_error_iff.2 ⟨deep, rfl⟩] at read
        have priority := priorityOf_member_eq_coercion_iff members fault
        refine Iff.trans ?_ (priority.trans ⟨?_, ?_⟩)
        · cases priorityOf ((Json.member? members "priority").getD (.int 1)) <;> simp
        · rintro ⟨rfl, x, negative, given, endless⟩
          exact .endless members selector x negative stated seen shallow given endless
        · rintro (⟨_, bare⟩ | ⟨_, _, _, _, deep⟩ | ⟨_, _, x, negative, _, _, _, given, endless⟩)
          · exact absurd rfl (bare members)
          · exact absurd deep shallow
          · exact ⟨rfl, x, negative, given, endless⟩
  · rename_i unnamed
    refine iff_of_false (by simp) fun misfit => ?_
    obtain ⟨selector, same, _⟩ := named misfit
    exact unnamed selector same

/-- Reading a variation fails in a conversion exactly for the misfits. -/
theorem ofJson_eq_coercion_iff {value : Json} {fault : CoercionFault} :
    ofJson room value = .error (.coercion fault) ↔ Misfit room value fault := by
  by_cases bare : ∀ members, value ≠ .object members
  · have failed : ofJson room value = .error (.coercion (.noMembers value.kindName)) := by
      cases value with
      | object members => exact absurd rfl (bare members)
      | _ => rfl
    rw [failed]
    constructor
    · intro same
      obtain rfl := ReadFault.coercion.inj (Except.error.inj same)
      exact .bare value bare
    · rintro (_ | _ | _)
      · rfl
      · exact absurd rfl (bare _)
      · exact absurd rfl (bare _)
  · obtain ⟨members, rfl⟩ := not_forall_not.1 bare
    exact ofJson_object_eq_coercion_iff

end Variation

namespace Event

variable {room : Nat} {rooms : Json.Rooms}

/-- A class list that cannot be converted, with the fault of it. -/
inductive ClassMisfit (room : Nat) : Json → CoercionFault → Prop where
  /-- It is given and is a truth value or a number. -/
  | single (value : Json) (given : value.isGiven = true) (single : value.Single) :
    ClassMisfit room value (.notASequence value.kindName)
  /-- It is a list with an item that has no text, and those before it have one. -/
  | item (front back : List Json) (item : Json) (fault : Json.DisplayFault)
    (before : ∀ earlier ∈ front, ∃ text, earlier.display room = .ok text)
    (shown : item.display room = .error fault) :
    ClassMisfit room (.list (front ++ item :: back)) (.undisplayed fault)

/-- A value with a part that reading an event cannot convert, with the fault of it. What is read
before that part is valid. -/
inductive Misfit (rooms : Json.Rooms) : Json → CoercionFault → Prop where
  /-- A variation is a misfit, and those before it are variations. -/
  | variation (members stated : List (Text × Json)) (front back : List Json) (item : Json)
    (fault : CoercionFault) (given : Json.memberOrNull members "changes" = .object stated)
    (some : stated ≠ [])
    (listed : Json.memberOrNull members "selectorVariations" = .list (front ++ item :: back))
    (before : ∀ earlier ∈ front, ∃ variation, Variation.ofJson rooms.kind earlier = .ok variation)
    (misfit : Variation.Misfit rooms.kind item fault) : Misfit rooms (.object members) fault
  /-- A change with a name is a misfit, and those before it are changes. -/
  | change (members stated front back : List (Text × Json)) (variations : List Variation)
    (selector : Text) (change : Text × Json) (fault : Json.DisplayFault)
    (given : Json.memberOrNull members "changes" = .object stated) (some : stated ≠ [])
    (varied : variationsOf rooms.kind (Json.memberOrNull members "selectorVariations") =
      .ok variations)
    (named : selectorOf (Json.memberOrNull members "selector") variations = .ok selector)
    (listed : (stated.filter fun member => !Text.isBlankText member.1) = front ++ change :: back)
    (before : ∀ earlier ∈ front,
      ∃ change, PropertyChange.ofJson rooms.change earlier.2 = .ok change)
    (misfit : PropertyChange.Misfit rooms.change change.2 fault) :
    Misfit rooms (.object members) (.undisplayed fault)
  /-- The class list cannot be converted. -/
  | classes (members stated : List (Text × Json)) (variations : List Variation) (selector : Text)
    (changes : Changes) (fault : CoercionFault)
    (given : Json.memberOrNull members "changes" = .object stated) (some : stated ≠ [])
    (varied : variationsOf rooms.kind (Json.memberOrNull members "selectorVariations") =
      .ok variations)
    (named : selectorOf (Json.memberOrNull members "selector") variations = .ok selector)
    (changed : changesOf rooms.change stated = .ok changes)
    (misfit : ClassMisfit rooms.className (Json.memberOrNull members "classList") fault) :
    Misfit rooms (.object members) fault

/-- Variations cannot be converted exactly when one of them cannot and those before it can. -/
theorem variationsOf_eq_coercion_iff {value : Json} {fault : CoercionFault} :
    variationsOf room value = .error (.coercion fault) ↔
      ∃ front item back, value = .list (front ++ item :: back) ∧
        (∀ earlier ∈ front, ∃ variation, Variation.ofJson room earlier = .ok variation) ∧
        Variation.Misfit room item fault := by
  cases value with
  | list items =>
    simp only [← Variation.ofJson_eq_coercion_iff, Json.list.injEq]
    rw [← mapM_eq_error_iff]
    cases items <;> rfl
  | _ =>
    rw [variationsOf, given?]
    split <;> simp_all

/-- Changes cannot be converted exactly when one with a name cannot and those before it can. -/
theorem changesOf_eq_coercion_iff {stated : List (Text × Json)} {fault : CoercionFault} :
    changesOf room stated = .error (.coercion fault) ↔
      ∃ front change back cause,
        (stated.filter fun member => !Text.isBlankText member.1) = front ++ change :: back ∧
        (∀ earlier ∈ front, ∃ change, PropertyChange.ofJson room earlier.2 = .ok change) ∧
        PropertyChange.Misfit room change.2 cause ∧ fault = .undisplayed cause := by
  let read (member : Text × Json) : Except ReadFault (Text × PropertyChange) :=
    do return (Text.trim member.1, ← PropertyChange.ofJson room member.2)
  have reads : ∀ member, (∃ entry, read member = .ok entry) ↔
      ∃ change, PropertyChange.ofJson room member.2 = .ok change := by
    intro member
    cases made : PropertyChange.ofJson room member.2 <;>
      simp [read, made, bind, Except.bind, pure, Except.pure]
  have fails : ∀ member, read member = .error (.coercion fault) ↔
      PropertyChange.ofJson room member.2 = .error (.coercion fault) := by
    intro member
    cases made : PropertyChange.ofJson room member.2 <;>
      simp [read, made, bind, Except.bind, pure, Except.pure]
  have whole : changesOf room stated = .error (.coercion fault) ↔
      (stated.filter fun member => !Text.isBlankText member.1).mapM read =
        .error (.coercion fault) := by
    rw [changesOf]
    split
    · rename_i failed
      rw [show List.mapM read _ = _ from failed]
      simp
    · rename_i entries made
      rw [show List.mapM read _ = _ from made]
      split <;> simp
  simp only [whole, mapM_eq_error_iff, reads, fails, PropertyChange.ofJson_eq_coercion_iff]
  constructor
  · rintro ⟨front, change, back, listed, before, cause, misfit, same⟩
    exact ⟨front, change, back, cause, listed, before, misfit, same⟩
  · rintro ⟨front, change, back, cause, listed, before, misfit, same⟩
    exact ⟨front, change, back, listed, before, cause, misfit, same⟩

/-- A truth value or a number that is given is no class list. -/
theorem classesOf_single_eq_error_iff {value : Json} (single : value.Single)
    (given : value.isGiven = true) (fault : ReadFault) :
    classesOf room value = .error fault ↔
      ∃ cause, ClassMisfit room value cause ∧ fault = .coercion cause := by
  have kept : given? value = some value := if_pos given
  have failed : classesOf room value = .error (.coercion (.notASequence value.kindName)) := by
    cases single <;> rw [classesOf, kept] <;> rfl
  rw [failed, Except.error.injEq]
  constructor
  · rintro rfl
    exact ⟨_, .single value given single, rfl⟩
  · rintro ⟨cause, misfit, rfl⟩
    cases misfit with
    | single _ _ _ => rfl
    | item _ _ _ _ _ _ => cases single

/-- A list with items is no class list exactly when one of them has no text. -/
theorem classesOf_list_eq_error_iff (items : List Json) (given : (Json.list items).isGiven = true)
    (fault : ReadFault) :
    classesOf room (.list items) = .error fault ↔
      ∃ cause, ClassMisfit room (.list items) cause ∧ fault = .coercion cause := by
  have kept : given? (.list items) = some (.list items) := if_pos given
  have parts : classesOf room (.list items) =
      (items.mapM (Json.readable room)).map fun texts => texts.filter (!·.isEmpty) := by
    rw [classesOf, kept]
    rfl
  have same : classesOf room (.list items) = .error fault ↔
      items.mapM (Json.readable room) = .error fault := by
    rw [parts]
    exact ⟨eq_error_of_map_eq_error, fun failed => by rw [failed]; rfl⟩
  have reads : ∀ item : Json, (∃ text, item.readable room = .ok text) ↔
      ∃ text, item.display room = .ok text := by
    intro item
    rw [Json.readable]
    cases item.display room <;> simp [Except.mapError]
  simp only [same, mapM_eq_error_iff, reads, Json.readable_eq_error_iff]
  constructor
  · rintro ⟨front, item, back, rfl, before, cause, shown, rfl⟩
    exact ⟨_, .item front back item cause before shown, rfl⟩
  · rintro ⟨cause, misfit, rfl⟩
    cases misfit with
    | single _ _ single => cases single
    | item front back item cause before shown =>
      exact ⟨front, item, back, rfl, before, cause, shown, rfl⟩

/-- A class list cannot be converted exactly when it is a misfit. -/
theorem classesOf_eq_error_iff {value : Json} {fault : ReadFault} :
    classesOf room value = .error fault ↔
      ∃ cause, ClassMisfit room value cause ∧ fault = .coercion cause := by
  by_cases given : value.isGiven = true
  · have kept : given? value = some value := if_pos given
    cases value with
    | null => simp [Json.isGiven] at given
    | string text =>
      rw [classesOf, kept]
      refine iff_of_false (by simp) ?_
      rintro ⟨_, ⟨_, _, ⟨⟩⟩, _⟩
    | list items => exact classesOf_list_eq_error_iff items given fault
    | object members =>
      refine iff_of_false ?_ ?_
      · rw [classesOf, kept]
        have read : (members.map fun entry => Json.string entry.1).mapM (Json.readable room) =
            .ok (members.map Prod.fst) := by
          rw [List.mapM_map]
          exact mapM_eq_ok fun _ _ => rfl
        simp [Json.toItems, Except.mapError, Except.bind, classNames, read, Except.map]
      · rintro ⟨_, ⟨_, _, ⟨⟩⟩, _⟩
    | bool value => exact classesOf_single_eq_error_iff (.bool value) given fault
    | int n => exact classesOf_single_eq_error_iff (.int n) given fault
    | real x => exact classesOf_single_eq_error_iff (.real x) given fault
  · have none : given? value = none := if_neg given
    refine iff_of_false (by simp [classesOf, none]) ?_
    rintro ⟨cause, ⟨_, held, _⟩ | ⟨front, back, item, _, _, _⟩, _⟩
    · exact given held
    · simp [Json.isGiven] at given

/-- A missing selector is no fault of a conversion. -/
theorem mapError_event_ne_coercion {α : Type} {outcome : Except EventFault α}
    {fault : CoercionFault} : outcome.mapError ReadFault.event ≠ .error (.coercion fault) := by
  cases outcome <;> simp [Except.mapError]

/-- Reading an event fails in a conversion exactly for the misfits. -/
theorem ofJson_eq_coercion_iff {value : Json} {fault : CoercionFault} :
    ofJson rooms value = .error (.coercion fault) ↔ Misfit rooms value fault := by
  constructor
  · intro failed
    cases value with
    | object members =>
      rw [ofJson] at failed
      split at failed
      · simp [bind, Except.bind] at failed
      · rename_i stated some given
        obtain ⟨_, taken, failed⟩ := (bind_eq_error_iff.1 failed).resolve_left (by simp)
        obtain rfl := Except.ok.inj taken
        rcases bind_eq_error_iff.1 failed with failed | ⟨variations, varied, failed⟩
        · obtain ⟨front, item, back, listed, before, misfit⟩ :=
            variationsOf_eq_coercion_iff.1 failed
          exact .variation members stated front back item fault given some listed before misfit
        · obtain ⟨selector, named, failed⟩ :=
            (bind_eq_error_iff.1 failed).resolve_left mapError_event_ne_coercion
          have named := eq_ok_of_mapError_eq_ok named
          rcases bind_eq_error_iff.1 failed with failed | ⟨changes, changed, failed⟩
          · obtain ⟨front, change, back, cause, listed, before, misfit, rfl⟩ :=
              changesOf_eq_coercion_iff.1 failed
            exact .change members stated front back variations selector change cause given some
              varied named listed before misfit
          · rcases bind_eq_error_iff.1 failed with failed | ⟨classes, _, done⟩
            · obtain ⟨cause, misfit, same⟩ := classesOf_eq_error_iff.1 failed
              obtain rfl := ReadFault.coercion.inj same
              exact .classes members stated variations selector changes fault given some varied
                named changed misfit
            · simp [pure, Except.pure] at done
      · simp [bind, Except.bind] at failed
    | _ => simp [ofJson] at failed
  · intro misfit
    cases misfit with
    | variation members stated front back item fault given some listed before misfit =>
      obtain ⟨first, rest, rfl⟩ := List.exists_cons_of_ne_nil some
      have failed := variationsOf_eq_coercion_iff.2 ⟨front, item, back, listed, before, misfit⟩
      simp only [ofJson, given, failed, bind, Except.bind]
    | change members stated front back variations selector change fault given some varied named
        listed before misfit =>
      obtain ⟨first, rest, rfl⟩ := List.exists_cons_of_ne_nil some
      have failed :=
        changesOf_eq_coercion_iff.2 ⟨front, change, back, fault, listed, before, misfit, rfl⟩
      simp only [ofJson, given, varied, named, failed, Except.mapError, bind, Except.bind]
    | classes members stated variations selector changes fault given some varied named changed
        misfit =>
      obtain ⟨first, rest, rfl⟩ := List.exists_cons_of_ne_nil some
      have failed := classesOf_eq_error_iff.2 ⟨fault, misfit, rfl⟩
      simp only [ofJson, given, varied, named, changed, failed, Except.mapError, bind, Except.bind]

end Event

namespace Service

/-- What validation promises of a value: it is read as an event with its texts in order, or it is
refused as no event, and every service answers that it is invalid and is left as it was. -/
inductive Validated (rooms : Json.Rooms) (value : Json) : Prop where
  /-- It is read as an event with its texts in order. -/
  | accepted (event : Event) (read : Event.ofJson rooms value = .ok event)
    (selector : Text.Tidy event.selector) (changed : event.changes.entries ≠ [])
    (distinct : event.changes.keys.Nodup) (names : ∀ name ∈ event.changes.keys, Text.Tidy name)
    (classes : ∀ name ∈ event.classes, name ≠ [])
  /-- It is refused as no event. -/
  | refused (fault : EventFault) (failed : Event.ofJson rooms value = .error (.event fault))
    (answered : ∀ (service : Service) (disk : Disk), service.index.place.rooms = rooms →
      service.applyJson disk value = {
        answer := .failed fault.message .invalidEvent, service, disk
        notices := [.changeFailed [] fault.message] })

/-- A value that cannot be read is answered by its fault, and changes nothing. -/
theorem applyJson_of_error {rooms : Json.Rooms} {value : Json} {fault : ReadFault}
    (failed : Event.ofJson rooms value = .error fault) (service : Service) (disk : Disk)
    (placed : service.index.place.rooms = rooms) :
    service.applyJson disk value = {
      answer := .failed (Fault.ofRead fault).message (Fault.ofRead fault).reason, service, disk
      notices := [.changeFailed [] (Fault.ofRead fault).message] } := by
  rw [applyJson, placed, failed]
  rfl

/-- Validation keeps its promise for every value but the misfits. A misfit fails in a conversion,
and every service answers it as a fault of its own and is left as it was. -/
theorem validated_iff (rooms : Json.Rooms) (value : Json) :
    (Validated rooms value ↔ ∀ fault, ¬ Event.Misfit rooms value fault) ∧
      ∀ fault, Event.Misfit rooms value fault ↔
        Event.ofJson rooms value = .error (.coercion fault) ∧
          ∀ (service : Service) (disk : Disk), service.index.place.rooms = rooms →
            service.applyJson disk value = {
              answer := .failed fault.message .internal, service, disk
              notices := [.changeFailed [] fault.message] } := by
  refine ⟨⟨?_, fun fits => ?_⟩, fun fault => ⟨fun misfit => ?_, fun failed => ?_⟩⟩
  · rintro (⟨event, read, _⟩ | ⟨refusal, failed, _⟩) fault misfit
    · simp [Event.ofJson_eq_coercion_iff.2 misfit] at read
    · simp [Event.ofJson_eq_coercion_iff.2 misfit] at failed
  · cases read : Event.ofJson rooms value with
    | ok event =>
      have sendable := Event.sendable_of_ofJson read
      exact .accepted event read sendable.selector sendable.changed event.changes.distinct
        sendable.names sendable.classes
    | error fault =>
      cases fault with
      | event fault => exact .refused fault read (applyJson_of_error read)
      | coercion fault => exact absurd (Event.ofJson_eq_coercion_iff.1 read) (fits fault)
  · have failed := Event.ofJson_eq_coercion_iff.2 misfit
    exact ⟨failed, applyJson_of_error failed⟩
  · exact Event.ofJson_eq_coercion_iff.1 failed.1

/-- A variation with the priority `1e400` escapes: it is not refused for a priority that is no
whole number, but fails in the conversion of it. -/
theorem not_validated_endless :
    let value := Json.record [("selector", .ofString ".a"),
      ("changes", .record [("x", .ofString "1")]),
      ("selectorVariations", .list [.record [("selector", .ofString ".a"),
        ("priority", .real (Number.ofDecimal false 1 400))]])]
    Event.ofJson {} value = .error (.coercion .wholeOfInfinity) ∧ ¬ Validated {} value ∧
      ∀ (service : Service) (disk : Disk), service.index.place.rooms = {} →
        (service.applyJson disk value).answer =
          .failed "cannot convert float infinity to integer".toText .internal := by
  intro value
  have endless : Number.parts (Number.ofDecimal false 1 400) = .infinite false := by
    decide +kernel
  have misfit : Event.Misfit {} value .wholeOfInfinity :=
    .variation _ _ [] [] _ _ rfl (by simp) rfl (by simp)
      (.endless _ _ _ _ rfl rfl (by decide) rfl endless)
  have failed := Event.ofJson_eq_coercion_iff.2 misfit
  refine ⟨failed, ?_, fun service disk placed => ?_⟩
  · rintro (⟨event, read, _⟩ | ⟨refusal, refused, _⟩)
    · simp [failed] at read
    · simp [failed] at refused
  · rw [applyJson_of_error failed service disk placed]
    rfl

end Service

end Restyle
