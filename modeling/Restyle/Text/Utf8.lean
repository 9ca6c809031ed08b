import Restyle.Text.Quoted

/-!
# UTF-8

Files hold bytes, stylesheets are texts. `Utf8.decode` reads the well-formed sequences only:
no overlong form, no surrogate, nothing above the last code point. A refusal names the first
offending sequence: the byte no sequence starts with, or the longest start of a sequence that
the next byte, or the end of the data, does not continue. `Utf8.encode` writes the texts that hold
no surrogate; a refusal names the first surrogates in a row. In the names of items on a disk, whose
bytes need not be a text, some surrogates stand for a byte each.
-/
namespace Restyle.Utf8

/-- Why a sequence of bytes is not read. -/
inductive Cause where
  /-- No sequence starts with this byte. -/
  | invalidStart
  /-- The next byte does not continue the sequence. -/
  | invalidContinuation
  /-- The data ends inside the sequence. -/
  | unexpectedEnd
deriving DecidableEq, Repr

/-- The first sequence that cannot be read: its bytes stand from `start` to just before
`stop`, and `first` is the byte at `start`. -/
structure Fault where
  /-- Position of the first byte. -/
  start : Nat
  /-- Position after the last byte. -/
  stop : Nat
  /-- The first byte. -/
  first : UInt8
  /-- What is wrong. -/
  cause : Cause
deriving DecidableEq, Repr

/-- The wording of a cause. -/
def Cause.message : Cause → String
  | .invalidStart => "invalid start byte"
  | .invalidContinuation => "invalid continuation byte"
  | .unexpectedEnd => "unexpected end of data"

/-- The wording of a fault: one byte is shown, several are counted. -/
def Fault.message (fault : Fault) : Text :=
  let place :=
    if fault.stop = fault.start + 1 then
      "byte 0x".toText ++ Text.hex 2 fault.first.toNat ++ " in position ".toText ++
        Text.ofNat fault.start
    else
      "bytes in position ".toText ++ Text.ofNat fault.start ++ "-".toText ++
        Text.ofNat (fault.stop - 1)
  "'utf-8' codec can't decode ".toText ++ place ++ ": ".toText ++ fault.cause.message.toText

/-- What a first byte promises: how many bytes follow, the bounds of the next one, and the
bits of the code point it carries. -/
structure Lead where
  /-- Number of bytes that follow. -/
  following : Nat
  /-- Least value of the next byte. -/
  least : UInt8
  /-- Greatest value of the next byte. -/
  greatest : UInt8
  /-- Upper bits of the code point. -/
  bits : Nat

/-- The promise of a first byte; none for a byte that starts no sequence. -/
def lead? (b : UInt8) : Option Lead :=
  if b < 0x80 then some ⟨0, 0, 0, b.toNat⟩
  else if b < 0xC2 then none
  else if b < 0xE0 then some ⟨1, 0x80, 0xBF, b.toNat - 0xC0⟩
  else if b = 0xE0 then some ⟨2, 0xA0, 0xBF, 0⟩
  else if b = 0xED then some ⟨2, 0x80, 0x9F, 0xD⟩
  else if b < 0xF0 then some ⟨2, 0x80, 0xBF, b.toNat - 0xE0⟩
  else if b = 0xF0 then some ⟨3, 0x90, 0xBF, 0⟩
  else if b < 0xF4 then some ⟨3, 0x80, 0xBF, b.toNat - 0xF0⟩
  else if b = 0xF4 then some ⟨3, 0x80, 0x8F, 4⟩
  else none

/-- The following bytes that continue the sequence: the next within its bounds, the others
within the bounds of every continuation. -/
def Lead.continuation (lead : Lead) (bytes : List UInt8) : List UInt8 :=
  match bytes.take lead.following with
  | [] => []
  | next :: others =>
    if lead.least ≤ next && next ≤ lead.greatest then
      next :: others.takeWhile fun b => 0x80 ≤ b && b < 0xC0
    else []

/-- The code point that the promised bits and the continuation make. -/
def Lead.code (lead : Lead) (continuation : List UInt8) : Nat :=
  continuation.foldl (fun code b => code * 64 + (b.toNat - 0x80)) lead.bits

/-- Read bytes that stand at `position` of the data. -/
def decodeAt (position : Nat) : List UInt8 → Except Fault Text
  | [] => .ok []
  | first :: rest =>
    match lead? first with
    | none => .error ⟨position, position + 1, first, .invalidStart⟩
    | some lead =>
      let continuation := lead.continuation rest
      let read := continuation.length + 1
      if continuation.length = lead.following then
        match decodeAt (position + read) (rest.drop lead.following) with
        | .ok text => .ok (Char.ofNat (lead.code continuation) :: text)
        | .error fault => .error fault
      else if continuation.length = rest.length then
        .error ⟨position, position + read, first, .unexpectedEnd⟩
      else
        .error ⟨position, position + read, first, .invalidContinuation⟩
termination_by bytes => bytes.length
decreasing_by
  simp only [List.length_drop, List.length_cons]
  omega

/-- Read bytes as a text. -/
def decode (bytes : List UInt8) : Except Fault Text := decodeAt 0 bytes

/-- The surrogate that three bytes at the front would spell if it were a character. -/
def surrogate? : List UInt8 → Option CodePoint
  | first :: next :: last :: _ =>
    if first = 0xED && 0xA0 ≤ next && next < 0xC0 && 0x80 ≤ last && last < 0xC0 then
      some (.ofNat (0xD800 + (next.toNat - 0xA0) * 64 + (last.toNat - 0x80)))
    else none
  | _ => none

/-- Read bytes as a text in which surrogates are spelled as if they were characters. -/
def decodePassing? : List UInt8 → Option Text
  | [] => some []
  | first :: rest =>
    match surrogate? (first :: rest), lead? first with
    | some found, _ => (decodePassing? (rest.drop 2)).map (found :: ·)
    | none, none => none
    | none, some lead =>
      let continuation := lead.continuation rest
      if continuation.length = lead.following then
        (decodePassing? (rest.drop lead.following)).map (Char.ofNat (lead.code continuation) :: ·)
      else none
termination_by bytes => bytes.length
decreasing_by all_goals
  simp only [List.length_drop, List.length_cons]
  omega

/-- Read bytes as a text; each sequence that is not read becomes the replacement character. -/
def decodeLoosely : List UInt8 → Text
  | [] => []
  | first :: rest =>
    match lead? first with
    | none => .char '\uFFFD' :: decodeLoosely rest
    | some lead =>
      let continuation := lead.continuation rest
      if continuation.length = lead.following then
        Char.ofNat (lead.code continuation) :: decodeLoosely (rest.drop lead.following)
      else .char '\uFFFD' :: decodeLoosely (rest.drop continuation.length)
termination_by bytes => bytes.length
decreasing_by
  · simp
  · simp only [List.length_drop, List.length_cons]
    omega
  · simp only [List.length_drop, List.length_cons]
    omega

/-- Surrogates in a row, for which there are no bytes. They stand from `start` to just before
`stop` of the text, and `first` is the one at `start`. -/
structure Surrogates where
  /-- Position of the first one. -/
  start : Nat
  /-- Position after the last one. -/
  stop : Nat
  /-- The first one. -/
  first : CodePoint
deriving DecidableEq, Repr

/-- The wording of a refusal: one surrogate is shown, several are counted. -/
def Surrogates.message (refused : Surrogates) : Text :=
  let place :=
    if refused.stop = refused.start + 1 then
      "character '".toText ++ Text.codeEscape refused.first.toNat ++ "' in position ".toText ++
        Text.ofNat refused.start
    else
      "characters in position ".toText ++ Text.ofNat refused.start ++ "-".toText ++
        Text.ofNat (refused.stop - 1)
  "'utf-8' codec can't encode ".toText ++ place ++ ": surrogates not allowed".toText

/-- Whether a code point stands for a byte above those of ASCII in a name whose bytes are no
text. -/
def isEscapedByte (c : CodePoint) : Bool := 0xDC80 ≤ c.toNat && c.toNat ≤ 0xDCFF

/-- The bytes of a code point. A surrogate has none, unless it stands for a byte. -/
def bytesOf : CodePoint → List UInt8
  | .char c => String.utf8EncodeChar c
  | .surrogate offset =>
    if isEscapedByte (.surrogate offset) then [UInt8.ofNat (offset - 0x400)] else []

/-- The bytes of the code points of a text, one after the other. -/
def bytes (text : Text) : List UInt8 := text.flatMap bytesOf

/-- The first surrogates of a text that are not allowed, if there are any. A run of surrogates is
refused from the first one that is not allowed to the end of the run; `position` is that of the
text. -/
def refused? (isAllowed : CodePoint → Bool) (position : Nat) : Text → Option Surrogates
  | [] => none
  | c :: rest =>
    if c.isSurrogate && !isAllowed c then
      some ⟨position, position + 1 + (rest.takeWhile CodePoint.isSurrogate).length, c⟩
    else refused? isAllowed (position + 1) rest

/-- Write a text. -/
def encode (text : Text) : Except Surrogates (List UInt8) :=
  match refused? (fun _ => false) 0 text with
  | some refused => .error refused
  | none => .ok (bytes text)

end Restyle.Utf8

namespace Restyle.Text

/-- The text with every line end, whether return and feed, return alone or feed alone, made a
single feed. -/
def feedLines : Text → Text
  | '\r' :: '\n' :: rest => .char '\n' :: feedLines rest
  | '\r' :: rest => .char '\n' :: feedLines rest
  | c :: rest => c :: feedLines rest
  | [] => []

/-- The text without the returns that stand right before a feed. -/
def dropReturns : Text → Text
  | '\r' :: '\n' :: rest => .char '\n' :: dropReturns rest
  | c :: rest => c :: dropReturns rest
  | [] => []

end Restyle.Text
