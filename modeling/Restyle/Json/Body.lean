import Restyle.Json.Reader
import Restyle.Text.Utf8

/-!
# Bodies

The body of a message holds JSON as bytes. The first bytes of a JSON text are ASCII, so the
places of zero bytes among them tell the width and the order of its units. A byte order mark may
stand in front of a text in UTF-8. Surrogates are let pass.
-/
namespace Restyle.Json

/-- How a text is held in bytes. -/
inductive Encoding where
  /-- In UTF-8. -/
  | utf8
  /-- In units of two bytes. -/
  | wide (order : Wide.Order)
  /-- In units of four bytes. -/
  | wider (order : Wide.Order)
deriving DecidableEq, Repr

/-- How the text of a body is held. -/
def Encoding.ofBytes : List UInt8 → Encoding
  | [a, b] =>
    if a = 0 then .wide .greatestFirst
    else if b = 0 then .wide .leastFirst
    else .utf8
  | a :: b :: c :: d :: _ =>
    if a = 0 then if b = 0 then .wider .greatestFirst else .wide .greatestFirst
    else if b = 0 then if c = 0 ∧ d = 0 then .wider .leastFirst else .wide .leastFirst
    else .utf8
  | _ => .utf8

/-- Read bytes as a text; none when they are no text. -/
def Encoding.decode? (encoding : Encoding) (bytes : List UInt8) : Option Text :=
  match encoding with
  | .utf8 => (Utf8.decodePassing? bytes).map fun
    | '\uFEFF' :: rest => rest
    | text => text
  | .wide order => Wide.decode16? order bytes
  | .wider order => Wide.decode32? order bytes

/-- Why a body holds no value. -/
inductive BodyFault where
  /-- Its bytes are no text, or its text is not JSON. -/
  | malformed
  /-- A list or an object stands inside too many others. -/
  | tooDeep (holder : Holder)
deriving DecidableEq, Repr

/-- The value that the bytes of a body hold. -/
def ofBytes (bytes : List UInt8) : Except BodyFault Json :=
  match (Encoding.ofBytes bytes).decode? bytes with
  | none => .error .malformed
  | some text =>
    match read text with
    | .ok value => .ok value
    | .error (.tooDeep holder) => .error (.tooDeep holder)
    | .error _ => .error .malformed

/-- The value that a body holds. -/
def readBody (body : Text) : Except BodyFault Json :=
  match Utf8.encode body with
  | .error _ => .error .malformed
  | .ok bytes => ofBytes bytes

end Restyle.Json
