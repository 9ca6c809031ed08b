import Mathlib.Data.List.Basic
import Mathlib.Data.List.TakeWhile
import Mathlib.Tactic.IntervalCases
import Restyle.Text.Utf8

/-!
# Reading what was written as UTF-8

A sequence of bytes has one, two, three or four of them, and its first byte says how many. Each
of the four forms is the written form of one character, so reading and writing undo each other. Main
statements: a text is written exactly when it holds no surrogate (`encode_eq_ok_iff`), and what is
read are these texts, each from its bytes (`decode_eq_ok_iff`).
-/
namespace Restyle.Utf8

/-- The promise of the byte that starts a sequence of two. -/
def leadOfTwo (bits : Nat) : Lead := ⟨1, 0x80, 0xBF, bits⟩

/-- The promise of the byte that starts a sequence of three: no code point below the least, no
surrogate. -/
def leadOfThree (bits : Nat) : Lead :=
  ⟨2, if bits = 0 then 0xA0 else 0x80, if bits = 13 then 0x9F else 0xBF, bits⟩

/-- The promise of the byte that starts a sequence of four: no code point below the least, none
above the last. -/
def leadOfFour (bits : Nat) : Lead :=
  ⟨3, if bits = 0 then 0x90 else 0x80, if bits = 4 then 0x8F else 0xBF, bits⟩

/-- Whether a byte continues a sequence. -/
def Continues (b : UInt8) : Prop := 0x80 ≤ b.toNat ∧ b.toNat < 0xC0

/-- A code point's number is that of its character. -/
theorem toNat_ofNat {code : Nat} (valid : code < 0xD800 ∨ (0xDFFF < code ∧ code < 0x110000)) :
    (Char.ofNat code).val.toNat = code := by
  have isValid : code.isValidChar := valid
  rw [Char.ofNat, dif_pos isValid]
  rfl

/-- A byte that is a code point. -/
theorem lead?_one {bits : Nat} (bound : bits < 0x80) :
    lead? (UInt8.ofNat bits) = some ⟨0, 0, 0, bits⟩ := by
  interval_cases bits <;> rfl

/-- The first bytes of sequences of two. -/
theorem lead?_two {bits : Nat} (least : 2 ≤ bits) (bound : bits < 32) :
    lead? (UInt8.ofNat (0xC0 + bits)) = some (leadOfTwo bits) := by
  interval_cases bits <;> rfl

/-- The first bytes of sequences of three. -/
theorem lead?_three {bits : Nat} (bound : bits < 16) :
    lead? (UInt8.ofNat (0xE0 + bits)) = some (leadOfThree bits) := by
  interval_cases bits <;> rfl

/-- The first bytes of sequences of four. -/
theorem lead?_four {bits : Nat} (bound : bits < 5) :
    lead? (UInt8.ofNat (0xF0 + bits)) = some (leadOfFour bits) := by
  interval_cases bits <;> rfl

/-- The other bytes start no sequence. -/
theorem lead?_other {code : Nat}
    (other : (0x80 ≤ code ∧ code < 0xC2) ∨ (0xF5 ≤ code ∧ code < 0x100)) :
    lead? (UInt8.ofNat code) = none := by
  obtain ⟨low, high⟩ | ⟨low, high⟩ := other <;> interval_cases code <;> rfl

/-- Every first byte makes one of the four promises. -/
theorem exists_of_lead? {first : UInt8} {lead : Lead} (promised : lead? first = some lead) :
    (∃ bits < 0x80, first = UInt8.ofNat bits ∧ lead = ⟨0, 0, 0, bits⟩) ∨
    (∃ bits, 2 ≤ bits ∧ bits < 32 ∧ first = UInt8.ofNat (0xC0 + bits) ∧ lead = leadOfTwo bits) ∨
    (∃ bits < 16, first = UInt8.ofNat (0xE0 + bits) ∧ lead = leadOfThree bits) ∨
    (∃ bits < 5, first = UInt8.ofNat (0xF0 + bits) ∧ lead = leadOfFour bits) := by
  obtain ⟨code, bound, rfl⟩ : ∃ code < 0x100, first = UInt8.ofNat code :=
    ⟨first.toNat, first.toNat_lt, UInt8.ofNat_toNat.symm⟩
  by_cases one : code < 0x80
  · rw [lead?_one one, Option.some.injEq] at promised
    exact .inl ⟨code, one, rfl, promised.symm⟩
  by_cases two : 0xC2 ≤ code ∧ code < 0xE0
  · obtain ⟨bits, rfl⟩ := Nat.exists_eq_add_of_le (Nat.le_trans (by decide : 0xC0 ≤ 0xC2) two.1)
    rw [lead?_two (by omega) (by omega), Option.some.injEq] at promised
    exact .inr (.inl ⟨bits, by omega, by omega, rfl, promised.symm⟩)
  by_cases three : 0xE0 ≤ code ∧ code < 0xF0
  · obtain ⟨bits, rfl⟩ := Nat.exists_eq_add_of_le three.1
    rw [lead?_three (by omega), Option.some.injEq] at promised
    exact .inr (.inr (.inl ⟨bits, by omega, rfl, promised.symm⟩))
  by_cases four : 0xF0 ≤ code ∧ code < 0xF5
  · obtain ⟨bits, rfl⟩ := Nat.exists_eq_add_of_le four.1
    rw [lead?_four (by omega), Option.some.injEq] at promised
    exact .inr (.inr (.inr ⟨bits, by omega, rfl, promised.symm⟩))
  · rw [lead?_other (by omega)] at promised
    contradiction

/-- A code point of one byte. -/
theorem encode_one {bits : Nat} (bound : bits < 0x80) :
    String.utf8EncodeChar (Char.ofNat bits) = [UInt8.ofNat bits] := by
  rw [String.utf8EncodeChar, toNat_ofNat (by omega), if_pos (by omega)]

/-- A continuing byte by the bits it carries. -/
theorem ofNat_eq_of_continues {b : UInt8} (continues : Continues b) {code : Nat}
    (bits : code % 64 = b.toNat - 0x80) : UInt8.ofNat (code % 64 + 0x80) = b := by
  obtain ⟨low, high⟩ := continues
  rw [← UInt8.toNat_inj, UInt8.toNat_ofNat']
  omega

/-- A code point of two bytes. -/
theorem encode_two {bits : Nat} {next : UInt8} (least : 2 ≤ bits) (bound : bits < 32)
    (continues : Continues next) :
    String.utf8EncodeChar (Char.ofNat (bits * 64 + (next.toNat - 0x80))) =
      [UInt8.ofNat (0xC0 + bits), next] := by
  have ⟨low, high⟩ := continues
  have first : (bits * 64 + (next.toNat - 0x80)) / 64 % 0x20 + 0xC0 = 0xC0 + bits := by omega
  rw [String.utf8EncodeChar, toNat_ofNat (by omega), if_neg (by omega), if_pos (by omega), first,
    ofNat_eq_of_continues continues (by omega)]

/-- A code point of three bytes. -/
theorem encode_three {bits : Nat} {next last : UInt8} (bound : bits < 16)
    (continues : Continues next) (ends : Continues last) (least : bits = 0 → 0xA0 ≤ next.toNat)
    (plain : bits = 13 → next.toNat < 0xA0) :
    String.utf8EncodeChar
        (Char.ofNat ((bits * 64 + (next.toNat - 0x80)) * 64 + (last.toNat - 0x80))) =
      [UInt8.ofNat (0xE0 + bits), next, last] := by
  have ⟨low, high⟩ := continues
  have ⟨lowest, highest⟩ := ends
  have first : ((bits * 64 + (next.toNat - 0x80)) * 64 + (last.toNat - 0x80)) / 4096 % 0x10 +
      0xE0 = 0xE0 + bits := by omega
  rw [String.utf8EncodeChar, toNat_ofNat (by omega), if_neg (by omega), if_neg (by omega),
    if_pos (by omega), first, ofNat_eq_of_continues continues (by omega),
    ofNat_eq_of_continues ends (by omega)]

/-- A code point of four bytes. -/
theorem encode_four {bits : Nat} {next third last : UInt8} (bound : bits < 5)
    (continues : Continues next) (goesOn : Continues third) (ends : Continues last)
    (least : bits = 0 → 0x90 ≤ next.toNat) (greatest : bits = 4 → next.toNat < 0x90) :
    String.utf8EncodeChar
        (Char.ofNat (((bits * 64 + (next.toNat - 0x80)) * 64 + (third.toNat - 0x80)) * 64 +
          (last.toNat - 0x80))) =
      [UInt8.ofNat (0xF0 + bits), next, third, last] := by
  have ⟨low, high⟩ := continues
  have ⟨lower, higher⟩ := goesOn
  have ⟨lowest, highest⟩ := ends
  have first : (((bits * 64 + (next.toNat - 0x80)) * 64 + (third.toNat - 0x80)) * 64 +
      (last.toNat - 0x80)) / 262144 % 0x08 + 0xF0 = 0xF0 + bits := by omega
  rw [String.utf8EncodeChar, toNat_ofNat (by omega), if_neg (by omega), if_neg (by omega),
    if_neg (by omega), first, ofNat_eq_of_continues continues (by omega),
    ofNat_eq_of_continues goesOn (by omega), ofNat_eq_of_continues ends (by omega)]

/-- Whether a byte is within the bounds that a promise sets for the next one. -/
def Lead.Admits (lead : Lead) (b : UInt8) : Prop :=
  lead.least.toNat ≤ b.toNat ∧ b.toNat ≤ lead.greatest.toNat

/-- What may follow the first byte of two. -/
theorem leadOfTwo_admits {bits : Nat} {b : UInt8} : (leadOfTwo bits).Admits b ↔ Continues b := by
  have least : (leadOfTwo bits).least.toNat = 0x80 := rfl
  have greatest : (leadOfTwo bits).greatest.toNat = 0xBF := rfl
  rw [Lead.Admits, least, greatest, Continues]
  omega

/-- What may follow the first byte of three. -/
theorem leadOfThree_admits {bits : Nat} {b : UInt8} :
    (leadOfThree bits).Admits b ↔
      Continues b ∧ (bits = 0 → 0xA0 ≤ b.toNat) ∧ (bits = 13 → b.toNat < 0xA0) := by
  have least : (leadOfThree bits).least.toNat = if bits = 0 then 0xA0 else 0x80 :=
    apply_ite UInt8.toNat _ _ _
  have greatest : (leadOfThree bits).greatest.toNat = if bits = 13 then 0x9F else 0xBF :=
    apply_ite UInt8.toNat _ _ _
  rw [Lead.Admits, least, greatest, Continues]
  split <;> split <;> omega

/-- What may follow the first byte of four. -/
theorem leadOfFour_admits {bits : Nat} {b : UInt8} :
    (leadOfFour bits).Admits b ↔
      Continues b ∧ (bits = 0 → 0x90 ≤ b.toNat) ∧ (bits = 4 → b.toNat < 0x90) := by
  have least : (leadOfFour bits).least.toNat = if bits = 0 then 0x90 else 0x80 :=
    apply_ite UInt8.toNat _ _ _
  have greatest : (leadOfFour bits).greatest.toNat = if bits = 4 then 0x8F else 0xBF :=
    apply_ite UInt8.toNat _ _ _
  rw [Lead.Admits, least, greatest, Continues]
  split <;> split <;> omega

/-- The bytes that a promise asks for are taken, whatever follows them. -/
theorem continuation_append {lead : Lead} {next : UInt8} {others : List UInt8} (rest : List UInt8)
    (full : others.length + 1 = lead.following) (admitted : lead.Admits next)
    (continues : ∀ b ∈ others, Continues b) :
    lead.continuation (next :: others ++ rest) = next :: others := by
  have taken : (next :: others ++ rest).take lead.following = next :: others := by
    rw [← full]
    simp
  have kept : others.takeWhile (fun b => 0x80 ≤ b && b < 0xC0) = others := by
    rw [List.takeWhile_eq_self_iff]
    intro b held
    have ⟨least, greatest⟩ := continues b held
    simp [UInt8.le_iff_toNat_le, UInt8.lt_iff_toNat_lt, least, greatest]
  have bounds : (lead.least ≤ next && next ≤ lead.greatest) = true := by
    simpa [UInt8.le_iff_toNat_le, Lead.Admits] using admitted
  rw [Lead.continuation, taken]
  simp only [bounds, if_true, kept]

/-- The bytes taken for a promise that is kept are within its bounds. -/
theorem of_continuation {lead : Lead} {rest : List UInt8} (promise : 0 < lead.following)
    (full : (lead.continuation rest).length = lead.following) :
    ∃ next others, lead.continuation rest = next :: others ∧
      rest = next :: others ++ rest.drop lead.following ∧
      lead.Admits next ∧ ∀ b ∈ others, Continues b := by
  cases taken : rest.take lead.following with
  | nil =>
    rw [Lead.continuation, taken] at full
    simp only [List.length_nil] at full
    omega
  | cons next others =>
    have size := congrArg List.length taken
    rw [List.length_take, List.length_cons] at size
    rw [Lead.continuation, taken] at full ⊢
    simp only at full ⊢
    split at full
    · rename_i bounds
      rw [if_pos bounds]
      rw [Bool.and_eq_true, decide_eq_true_eq, decide_eq_true_eq, UInt8.le_iff_toNat_le,
        UInt8.le_iff_toNat_le] at bounds
      rw [List.length_cons] at full
      have front := List.takeWhile_prefix (l := others) fun b : UInt8 => 0x80 ≤ b && b < 0xC0
      have bound := front.length_le
      have whole := front.eq_of_length (by omega)
      refine ⟨next, others, by rw [whole], ?_, bounds, ?_⟩
      · rw [← taken, List.take_append_drop]
      · intro b held
        rw [← whole] at held
        simpa [UInt8.le_iff_toNat_le, UInt8.lt_iff_toNat_lt, Continues] using
          List.mem_takeWhile_imp held
    · simp only [List.length_nil] at full
      omega

/-- A byte that carries six bits. -/
theorem exists_continues {bits : Nat} (bound : bits < 64) :
    ∃ b : UInt8, Continues b ∧ b.toNat - 0x80 = bits := by
  have number : (UInt8.ofNat (bits + 0x80)).toNat = bits + 0x80 := by
    rw [UInt8.toNat_ofNat']
    omega
  refine ⟨UInt8.ofNat (bits + 0x80), ⟨?_, ?_⟩, ?_⟩ <;> omega

/-- A character is written as a first byte and the bytes it promises, which make its code
point. -/
theorem exists_utf8EncodeChar (c : Char) :
    ∃ first lead continuation, String.utf8EncodeChar c = first :: continuation ∧
      lead? first = some lead ∧ continuation.length = lead.following ∧
      (∀ rest, lead.continuation (continuation ++ rest) = continuation) ∧
      Char.ofNat (lead.code continuation) = c := by
  obtain ⟨code, valid, rfl⟩ : ∃ code, (code < 0xD800 ∨ (0xDFFF < code ∧ code < 0x110000)) ∧
      c = Char.ofNat code := ⟨c.val.toNat, c.valid, (Char.ofNat_toNat c).symm⟩
  by_cases one : code < 0x80
  · exact ⟨_, _, [], encode_one one, lead?_one one, rfl, fun rest => rfl, rfl⟩
  by_cases two : code < 0x800
  · obtain ⟨next, continues, carried⟩ := exists_continues (show code % 64 < 64 by omega)
    have split : code / 64 * 64 + (next.toNat - 0x80) = code := by omega
    refine ⟨_, _, [next], ?_, lead?_two (show 2 ≤ code / 64 by omega) (by omega), rfl, ?_, ?_⟩
    · rw [← encode_two (by omega) (by omega) continues, split]
    · intro rest
      exact continuation_append rest rfl (leadOfTwo_admits.2 continues) (by simp)
    · simp [Lead.code, leadOfTwo, split]
  by_cases three : code < 0x10000
  · obtain ⟨next, continues, carried⟩ := exists_continues (show code / 64 % 64 < 64 by omega)
    obtain ⟨last, ends, carries⟩ := exists_continues (show code % 64 < 64 by omega)
    have split : (code / 4096 * 64 + (next.toNat - 0x80)) * 64 + (last.toNat - 0x80) = code := by
      omega
    have ⟨low, high⟩ := continues
    have least : code / 4096 = 0 → 0xA0 ≤ next.toNat := by omega
    have plain : code / 4096 = 13 → next.toNat < 0xA0 := by omega
    refine ⟨_, _, [next, last], ?_, lead?_three (show code / 4096 < 16 by omega), rfl, ?_, ?_⟩
    · rw [← encode_three (by omega) continues ends least plain, split]
    · intro rest
      exact continuation_append rest rfl (leadOfThree_admits.2 ⟨continues, least, plain⟩)
        (by simp [ends])
    · simp [Lead.code, leadOfThree, split]
  · obtain ⟨next, continues, carried⟩ := exists_continues (show code / 4096 % 64 < 64 by omega)
    obtain ⟨third, goesOn, carry⟩ := exists_continues (show code / 64 % 64 < 64 by omega)
    obtain ⟨last, ends, carries⟩ := exists_continues (show code % 64 < 64 by omega)
    have split : ((code / 262144 * 64 + (next.toNat - 0x80)) * 64 + (third.toNat - 0x80)) * 64 +
        (last.toNat - 0x80) = code := by omega
    have ⟨low, high⟩ := continues
    have least : code / 262144 = 0 → 0x90 ≤ next.toNat := by omega
    have greatest : code / 262144 = 4 → next.toNat < 0x90 := by omega
    refine ⟨_, _, [next, third, last], ?_, lead?_four (show code / 262144 < 5 by omega), rfl, ?_,
      ?_⟩
    · rw [← encode_four (by omega) continues goesOn ends least greatest, split]
    · intro rest
      exact continuation_append rest rfl (leadOfFour_admits.2 ⟨continues, least, greatest⟩)
        (by simp [goesOn, ends])
    · simp [Lead.code, leadOfFour, split]

/-- A first byte and the bytes it promises are the written form of the character they make. -/
theorem utf8EncodeChar_ofNat_code {first : UInt8} {lead : Lead} {rest : List UInt8}
    (promised : lead? first = some lead)
    (full : (lead.continuation rest).length = lead.following) :
    String.utf8EncodeChar (Char.ofNat (lead.code (lead.continuation rest))) =
        first :: lead.continuation rest ∧
      rest = lead.continuation rest ++ rest.drop lead.following := by
  obtain ⟨bits, bound, rfl, rfl⟩ | ⟨bits, least, bound, rfl, rfl⟩ | ⟨bits, bound, rfl, rfl⟩ |
    ⟨bits, bound, rfl, rfl⟩ := exists_of_lead? promised
  · have nothing : Lead.continuation ⟨0, 0, 0, bits⟩ rest = [] := List.eq_nil_of_length_eq_zero full
    rw [nothing]
    exact ⟨encode_one bound, rfl⟩
  all_goals
    obtain ⟨next, others, taken, parted, admitted, continues⟩ :=
      of_continuation (Nat.succ_pos _) full
    rw [taken] at full ⊢
    refine ⟨?_, parted⟩
  · obtain rfl : others = [] := List.eq_nil_of_length_eq_zero (Nat.succ.inj full)
    exact encode_two least bound (leadOfTwo_admits.1 admitted)
  · obtain ⟨last, rfl⟩ := List.length_eq_one_iff.1 (Nat.succ.inj full)
    obtain ⟨goesOn, least, plain⟩ := leadOfThree_admits.1 admitted
    exact encode_three bound goesOn (continues last (by simp)) least plain
  · obtain ⟨third, last, rfl⟩ := List.length_eq_two.1 (Nat.succ.inj full)
    obtain ⟨goesOn, least, greatest⟩ := leadOfFour_admits.1 admitted
    exact encode_four bound goesOn (continues third (by simp)) (continues last (by simp)) least
      greatest

/-- A written character is read, and then what follows it. -/
theorem decodeAt_utf8EncodeChar (position : Nat) (c : Char) (rest : List UInt8) {text : Text}
    (read : decodeAt (position + (String.utf8EncodeChar c).length) rest = .ok text) :
    decodeAt position (String.utf8EncodeChar c ++ rest) = .ok (c :: text) := by
  obtain ⟨first, lead, continuation, written, promised, full, taken, made⟩ :=
    exists_utf8EncodeChar c
  rw [written, List.length_cons] at read
  rw [written, List.cons_append, decodeAt, promised]
  simp only [taken rest, full, if_true]
  rw [← full, List.drop_left, read, made]

/-- A text that can be written: it holds no surrogate. -/
def Writable (text : Text) : Prop := ∀ c ∈ text, c.isSurrogate = false

instance (text : Text) : Decidable (Writable text) := inferInstanceAs (Decidable (∀ c ∈ text, _))

/-- Texts put together can be written when each of them can. -/
theorem writable_append_iff {first second : Text} :
    Writable (first ++ second) ↔ Writable first ∧ Writable second :=
  List.forall_mem_append

/-- A text of characters alone can be written. -/
theorem writable_map_char (characters : List Char) : Writable (characters.map .char) := by
  intro c listed
  obtain ⟨character, _, rfl⟩ := List.mem_map.1 listed
  rfl

/-- The text of a string can be written. -/
theorem writable_toText (source : String) : Writable source.toText := writable_map_char _

/-- Nothing is refused of a text exactly when all its surrogates are allowed. -/
theorem refused?_eq_none_iff {isAllowed : CodePoint → Bool} {position : Nat} {text : Text} :
    refused? isAllowed position text = none ↔
      ∀ c ∈ text, c.isSurrogate = true → isAllowed c = true := by
  induction text generalizing position with
  | nil => simp [refused?]
  | cons c rest ih =>
    rw [refused?, List.forall_mem_cons]
    split
    · rename_i found
      rw [Bool.and_eq_true, Bool.not_eq_true'] at found
      simp [found.1, found.2]
    · rename_i passed
      rw [ih]
      refine ⟨fun others => ⟨fun found => ?_, others⟩, And.right⟩
      simpa [found] using passed

/-- A text is written when it can be, and then as its bytes. -/
theorem encode_eq_ok_iff {text : Text} {written : List UInt8} :
    encode text = .ok written ↔ Writable text ∧ written = bytes text := by
  have none : refused? (fun _ => false) 0 text = none ↔ Writable text := by
    rw [refused?_eq_none_iff, Writable]
    simp
  rw [encode]
  cases refusal : refused? (fun _ => false) 0 text with
  | none => simp [none.1 refusal, eq_comm]
  | some refused =>
    have surrogates : ¬ Writable text := fun writable => by simp [none.2 writable] at refusal
    simp [surrogates]

/-- A text that can be written is. -/
theorem encode_eq {text : Text} (writable : Writable text) : encode text = .ok (bytes text) :=
  encode_eq_ok_iff.2 ⟨writable, rfl⟩

/-- A text that can be written is read back, wherever it stands. -/
theorem decodeAt_bytes (position : Nat) {text : Text} (writable : Writable text) :
    decodeAt position (bytes text) = .ok text := by
  induction text generalizing position with
  | nil => rw [bytes, List.flatMap_nil, decodeAt]
  | cons c rest ih =>
    rw [Writable, List.forall_mem_cons] at writable
    rw [bytes, List.flatMap_cons]
    cases c with
    | char c => exact decodeAt_utf8EncodeChar position c _ (ih _ writable.2)
    | surrogate offset => simp [CodePoint.isSurrogate] at writable

/-- A text that can be written is read back. -/
theorem decode_bytes {text : Text} (writable : Writable text) : decode (bytes text) = .ok text :=
  decodeAt_bytes 0 writable

/-- Only the bytes of texts that can be written are read, wherever they stand. -/
theorem of_decodeAt {position : Nat} {source : List UInt8} {text : Text}
    (read : decodeAt position source = .ok text) : Writable text ∧ source = bytes text := by
  fun_induction decodeAt position source generalizing text with
  | case1 =>
    simp only [Except.ok.injEq] at read
    rw [← read]
    exact ⟨by simp [Writable], rfl⟩
  | case3 position first rest lead promised _ _ full inner found =>
    rename_i ih
    simp only [Except.ok.injEq] at read
    subst read
    obtain ⟨writable, whole⟩ := ih found
    obtain ⟨written, parted⟩ := utf8EncodeChar_ofNat_code promised full
    refine ⟨List.forall_mem_cons.2 ⟨rfl, writable⟩, ?_⟩
    calc
      first :: rest = first :: lead.continuation rest ++ rest.drop lead.following := by
        rw [List.cons_append, ← parted]
      _ = bytes (Char.ofNat (lead.code (lead.continuation rest)) :: inner) := by
        rw [bytes, List.flatMap_cons, bytesOf, written, whole, bytes]
  | case2 | case4 | case5 | case6 => simp at read

/-- What is read are the texts that can be written, each from its bytes. -/
theorem decode_eq_ok_iff {source : List UInt8} {text : Text} :
    decode source = .ok text ↔ Writable text ∧ source = bytes text := by
  refine ⟨of_decodeAt, ?_⟩
  rintro ⟨writable, rfl⟩
  exact decode_bytes writable

/-- Texts put together are written one after the other. -/
theorem bytes_append (first second : Text) :
    bytes (first ++ second) = bytes first ++ bytes second := by
  simp [bytes]

end Restyle.Utf8
