import Restyle.Text.Class

/-!
# Punycode

A text written with ASCII letters, digits and hyphens alone: first its ASCII characters, then,
after a hyphen, where the others go. The others are taken in the order of their code points. Each
is written as the distance from the one before it, counted over all places that it might have
gone to, in digits whose base shifts with the distances written so far.
-/
namespace Restyle.Punycode

/-- The character of a digit: a letter up to 25, an ASCII digit above. -/
def digitChar (digit : Nat) : CodePoint :=
  if digit < 26 then Char.ofNat ('a'.toNat + digit) else Char.ofNat ('0'.toNat + digit - 26)

/-- The threshold of the digit at a place: digits below it end a number. Places are counted in
steps of 36. -/
def threshold (bias place : Nat) : Nat :=
  if place ≤ bias then 1 else if bias + 26 ≤ place then 26 else place - bias

/-- A threshold leaves more than one value to the digits above it. -/
theorem threshold_bounds (bias place : Nat) :
    1 ≤ threshold bias place ∧ threshold bias place ≤ 26 := by
  unfold threshold
  split
  · omega
  · split <;> omega

/-- The digits of a number from a place on. -/
def digits (bias place number : Nat) : Text :=
  let least := threshold bias place
  if number < least then [digitChar number]
  else
    digitChar (least + (number - least) % (36 - least)) ::
      digits bias (place + 36) ((number - least) / (36 - least))
termination_by number
decreasing_by
  have bounds := threshold_bounds bias place
  have smaller := Nat.div_le_self (number - threshold bias place) (36 - threshold bias place)
  omega

/-- A distance made small by halving the range of a digit, and how often that took. -/
def settle (distance taken : Nat) : Nat × Nat :=
  if distance ≤ 455 then (distance, taken) else settle (distance / 35) (taken + 1)
termination_by distance
decreasing_by omega

/-- The bias after a distance was written, with `count` characters in place. -/
def adapt (distance count : Nat) (isFirst : Bool) : Nat :=
  let damped := if isFirst then distance / 700 else distance / 2
  let (small, taken) := settle (damped + damped / count) 0
  36 * taken + 36 * small / (small + 38)

/-- What is known while a text is written. -/
structure State where
  /-- What is written, last character first. -/
  written : List CodePoint
  /-- The distance since the character that was written last. -/
  distance : Nat := 0
  /-- The bias. -/
  bias : Nat := 72
  /-- How many characters of the text are in place. -/
  count : Nat

/-- Pass a character of the text while those of a code point are written. -/
def State.pass (basic code : Nat) (state : State) (c : CodePoint) : State :=
  if c.toNat < code then { state with distance := state.distance + 1 }
  else if c.toNat = code then
    { written := (digits state.bias 36 state.distance).reverse ++ state.written
      bias := adapt state.distance (state.count + 1) (state.count = basic)
      count := state.count + 1 }
  else state

/-- Write the characters of code points, given in increasing order; `next` is the least code
point that may come. -/
def writeCodes (text : Text) (basic next : Nat) (state : State) : List Nat → State
  | [] => state
  | code :: rest =>
    let far := { state with distance := state.distance + (code - next) * (state.count + 1) }
    let passed := text.foldl (State.pass basic code) far
    writeCodes text basic (code + 1) { passed with distance := passed.distance + 1 } rest

/-- A text in ASCII. -/
def encode (text : Text) : Text :=
  let basic := text.filter (·.toNat < 0x80)
  let codes := ((text.filter (0x80 ≤ ·.toNat)).map CodePoint.toNat).mergeSort (Nat.ble · ·)
  let start : State := { written := [], count := basic.length }
  basic ++ (if basic.isEmpty then [] else [.char '-']) ++
    (writeCodes text basic.length 0x80 start codes.eraseDups).written.reverse

/-- The digit of a character. -/
def digitOf? (c : CodePoint) : Option Nat :=
  if 'a' ≤ c && c ≤ 'z' then some (c.toNat - 'a'.toNat)
  else if 'A' ≤ c && c ≤ 'Z' then some (c.toNat - 'A'.toNat)
  else if Text.isAsciiDigit c then some (c.toNat - '0'.toNat + 26)
  else none

/-- The number that digits write from a place on, where a digit counts `weight` times, and the
digits behind it; none when they do not end it. -/
def readNumber (bias place weight : Nat) : List Nat → Option (Nat × List Nat)
  | [] => none
  | digit :: rest =>
    let least := threshold bias place
    if digit < least then some (digit * weight, rest)
    else match readNumber bias (place + 36) (weight * (36 - least)) rest with
      | none => none
      | some (number, behind) => some (digit * weight + number, behind)

/-- A number takes at least one digit. -/
theorem length_of_readNumber {bias place weight number : Nat} {digits behind : List Nat}
    (read : readNumber bias place weight digits = some (number, behind)) :
    behind.length < digits.length := by
  induction digits generalizing place weight number behind with
  | nil => simp [readNumber] at read
  | cons digit rest shorter =>
    simp only [readNumber] at read
    split at read
    · simp only [Option.some.injEq, Prod.mk.injEq] at read
      simp [read.2]
    · split at read
      · simp at read
      · next found =>
        have known := shorter found
        simp only [Option.some.injEq, Prod.mk.injEq] at read
        rw [← read.2, List.length_cons]
        exact Nat.lt_succ_of_lt known

/-- The greatest code point. -/
def greatestCode : Nat := 0x10FFFF

/-- Put the code points that digits state into a text. The code point and the place are those of
the one that was put there last, the place counted up by one. -/
def place? (text : List Nat) (code place bias : Nat) (isFirst : Bool) (digits : List Nat) :
    Option (List Nat) :=
  if digits.isEmpty then some text
  else match _found : readNumber bias 36 1 digits with
    | none => none
    | some (distance, behind) =>
      let count := text.length + 1
      let code := code + (place + distance) / count
      let place := (place + distance) % count
      if code ≤ greatestCode then
        place? (text.take place ++ code :: text.drop place) code (place + 1)
          (adapt distance count isFirst) false behind
      else none
termination_by digits.length
decreasing_by exact length_of_readNumber _found

/-- The code points that a text in ASCII stands for, not all of them those of characters; none
when it stands for none. -/
def decode? (text : Text) : Option (List Nat) :=
  let written := Text.afterLast '-' text
  let basic := text.take (text.length - written.length - 1)
  (written.mapM digitOf?).bind (place? (basic.map CodePoint.toNat) 0x80 0 72 true)

end Restyle.Punycode
