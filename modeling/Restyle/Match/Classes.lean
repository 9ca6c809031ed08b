import Restyle.Text.Word

/-!
# Class names

A class name follows a point: an ASCII letter or a low line, maybe after a minus sign, and then
any word characters and minus signs.
-/
namespace Restyle.Match

/-- Whether a class name may begin with the character. -/
def startsName (c : CodePoint) : Bool := Text.isAsciiLetter c || c = '_'

/-- Whether a class name may go on with the character. -/
def continuesName (c : CodePoint) : Bool := Text.isWord c || c = '-'

/-- The class name at the front of a text. -/
def className? : Text → Option Text
  | '-' :: c :: rest =>
    if startsName c then some (.char '-' :: c :: rest.takeWhile continuesName) else none
  | c :: rest => if startsName c then some (c :: rest.takeWhile continuesName) else none
  | [] => none

/-- The class names of a selector, in order, with repeats. A name is passed over whole; a point
inside one starts no other name, since no name holds a point. -/
def allClasses : Text → List Text
  | [] => []
  | c :: rest =>
    if c = '.' then
      match className? rest with
      | some name => name :: allClasses rest
      | none => allClasses rest
    else allClasses rest

/-- The class names that a selector mentions, in order of appearance. -/
def classesOf (selector : Text) : List Text :=
  (allClasses selector).foldl (fun seen name => if seen.contains name then seen else seen ++ [name])
    []

end Restyle.Match
