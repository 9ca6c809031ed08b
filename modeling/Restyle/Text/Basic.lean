/-!
# Texts

A text is the list of its code points in order, so a length, an offset or a cut counts code
points. A code point is a character or a surrogate; texts that are read from files hold characters
alone, but an escape can spell a surrogate, so texts that come from elsewhere may hold them. This
module holds the searches and cuts that the rest of the library is written with: finding a mark,
cutting at it, splitting at every separator, and asking whether one text occurs in another. Main
statements: a cut is where the mark first stands (`eq_of_cut?`), and fails only where there is none
(`cut?_eq_none_iff`).
-/
namespace Restyle

/-- A code point: a character, or a surrogate. Two surrogates in a row spell a character in an
encoding of sixteen bits; one by itself is none. -/
inductive CodePoint where
  /-- A character. -/
  | char (c : Char)
  /-- A surrogate, by its distance from the first one. -/
  | surrogate (offset : Fin 2048)
deriving DecidableEq, Repr

namespace CodePoint

instance : Coe Char CodePoint := ⟨char⟩

/-- The number of a code point. -/
def toNat : CodePoint → Nat
  | char c => c.toNat
  | surrogate offset => 0xD800 + offset

/-- The code point with a number below 0x110000. -/
def ofNat (code : Nat) : CodePoint :=
  if inside : 0xD800 ≤ code ∧ code < 0xE000 then surrogate ⟨code - 0xD800, by omega⟩
  else char (Char.ofNat code)

/-- Whether a code point is a surrogate. -/
def isSurrogate : CodePoint → Bool
  | char _ => false
  | surrogate _ => true

/-- The character that stands for a code point where only characters can: for a surrogate it is
the replacement character. -/
def toChar : CodePoint → Char
  | char c => c
  | surrogate _ => '\uFFFD'

/-- The capital of an ASCII letter; any other code point is itself. -/
def toUpper : CodePoint → CodePoint
  | char c => char c.toUpper
  | surrogate offset => surrogate offset

instance : LE CodePoint := ⟨fun a b => a.toNat ≤ b.toNat⟩

instance (a b : CodePoint) : Decidable (a ≤ b) := inferInstanceAs (Decidable (a.toNat ≤ b.toNat))

@[simp] theorem toNat_char (c : Char) : (char c).toNat = c.toNat := rfl

@[simp] theorem char_le_char (a b : Char) : char a ≤ char b ↔ a ≤ b := Iff.rfl

theorem le_iff (a b : CodePoint) : a ≤ b ↔ a.toNat ≤ b.toNat := Iff.rfl

end CodePoint

/-- A text is its code points in order. -/
abbrev Text := List CodePoint

end Restyle

/-- The text of a string: its characters. -/
def String.toText (source : String) : Restyle.Text := source.toList.map .char

namespace Restyle.Text

/-- Strings with the same text are the same. -/
@[simp] theorem toText_inj {first second : String} :
    first.toText = second.toText ↔ first = second := by
  rw [String.toText, String.toText, List.map_inj_right fun _ _ same => CodePoint.char.inj same,
    String.toList_inj]

/-- The string of a text, whose surrogates are replaced. -/
def toString (text : Text) : String := String.ofList (text.map CodePoint.toChar)

/-- Whether `part` stands somewhere in the text, as one unbroken piece. -/
def occursIn (part : Text) : Text → Bool
  | [] => part.isEmpty
  | c :: rest => part.isPrefixOf (c :: rest) || occursIn part rest

/-- The text before the first `mark` and the text after it. -/
def cut? (mark : CodePoint) (text : Text) : Option (Text × Text) :=
  match text.dropWhile (· != mark) with
  | [] => none
  | _ :: after => some (text.takeWhile (· != mark), after)

/-- The text after the last `mark`; the whole text when `mark` does not occur. -/
def afterLast (mark : CodePoint) (text : Text) : Text :=
  (text.reverse.takeWhile (· != mark)).reverse

/-- The pieces between separators; a text without one is a single piece, so there is always
one more piece than there are separators. -/
def split (isSeparator : CodePoint → Bool) (text : Text) : List Text :=
  text.foldr
    (fun c pieces =>
      if isSeparator c then [] :: pieces
      else match pieces with
        | [] => [[c]]
        | first :: others => (c :: first) :: others)
    [[]]

/-- The pieces that hold something. -/
def splitNonempty (isSeparator : CodePoint → Bool) (text : Text) : List Text :=
  (split isSeparator text).filter (!·.isEmpty)

/-- The pieces put together with `separator` between neighbours. -/
def join (separator : Text) (pieces : List Text) : Text :=
  (pieces.intersperse separator).flatten

/-- Whether `text` starts with `start`. -/
def startsWith (text start : Text) : Bool := start.isPrefixOf text

/-- Whether `text` ends with `ending`. -/
def endsWith (text ending : Text) : Bool := ending.isSuffixOf text

/-- The decimal digits of a natural number, without leading zeros. -/
def ofNat (n : Nat) : Text := (Nat.toDigits 10 n).map .char

/-- The decimal digits of an integer, after `-` when it is negative. -/
def ofInt (n : Int) : Text :=
  if n < 0 then .char '-' :: ofNat n.natAbs else ofNat n.natAbs

/-- Whether one text comes no later than another in the lexicographic order of code points. -/
def le : Text → Text → Bool
  | [], _ => true
  | _ :: _, [] => false
  | a :: as, b :: bs => if a = b then le as bs else decide (a.toNat < b.toNat)

/-- A split has at least one piece. -/
theorem split_ne_nil (isSeparator : CodePoint → Bool) (text : Text) :
    split isSeparator text ≠ [] := by
  cases text with
  | nil => simp [split]
  | cons c rest =>
    simp only [split, List.foldr_cons]
    split
    · simp
    · split <;> simp

/-- A text without the mark is not cut. -/
theorem cut?_eq_none_iff {mark : CodePoint} {text : Text} :
    cut? mark text = none ↔ mark ∉ text := by
  induction text with
  | nil => simp [cut?]
  | cons c rest ih =>
    by_cases same : c = mark
    · simp [cut?, same]
    · have other : mark ≠ c := fun equal => same equal.symm
      have step : cut? mark (c :: rest) = none ↔ cut? mark rest = none := by
        cases kept : rest.dropWhile (· != mark) <;> simp [cut?, same, kept]
      rw [step, ih]
      simp [other]

/-- A cut is where the mark first stands. -/
theorem eq_of_cut? {mark : CodePoint} {text before after : Text}
    (found : cut? mark text = some (before, after)) :
    text = before ++ mark :: after ∧ mark ∉ before := by
  induction text generalizing before with
  | nil => simp [cut?] at found
  | cons c rest ih =>
    by_cases same : c = mark
    · simp [cut?, same] at found
      obtain ⟨rfl, rfl⟩ := found
      simp [same]
    · have other : mark ≠ c := fun equal => same equal.symm
      cases inner : cut? mark rest with
      | none =>
        have absent := cut?_eq_none_iff.1 inner
        have none_cut : cut? mark (c :: rest) = none :=
          cut?_eq_none_iff.2 (by simp [other, absent])
        simp [none_cut] at found
      | some parts =>
        obtain ⟨front, back⟩ := parts
        have step : cut? mark (c :: rest) = some (c :: front, back) := by
          cases kept : rest.dropWhile (· != mark) with
          | nil => simp [cut?, kept] at inner
          | cons d tail =>
            simp only [cut?, kept, Option.some.injEq, Prod.mk.injEq] at inner
            simp [cut?, same, kept, inner.1, inner.2]
        rw [step, Option.some.injEq, Prod.mk.injEq] at found
        obtain ⟨rfl, rfl⟩ := found
        obtain ⟨whole, absent⟩ := ih inner
        exact ⟨by rw [whole, List.cons_append], by simp [other, absent]⟩

end Restyle.Text
