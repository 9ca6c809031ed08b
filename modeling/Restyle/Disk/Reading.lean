import Restyle.Disk.Basic

/-!
# Reading texts

A text is read from a file as UTF-8. Either the file is not there to be read, or its bytes are
no text.
-/
namespace Restyle

/-- Why no text is read from a file. -/
inductive TextFault where
  /-- The file at the path is not read. -/
  | file (path : Text) (fault : DiskFault)
  /-- The bytes are no text. -/
  | encoding (fault : Utf8.Fault)
deriving DecidableEq, Repr

/-- The wording of a fault. -/
def TextFault.message : TextFault → Text
  | .file path fault => fault.message path
  | .encoding fault => fault.message

namespace Disk

/-- The text of the file at a path. -/
def readText (disk : Disk) (place : Place) (path : Text) : Except TextFault Text :=
  match disk.read place path with
  | .error fault => .error (.file path fault)
  | .ok bytes => (Utf8.decode bytes).mapError .encoding

/-- The text of the file at a path, its line ends made feeds. -/
def readLines (disk : Disk) (place : Place) (path : Text) : Except TextFault Text :=
  (disk.readText place (Path.tidy path)).map Text.feedLines

end Disk

end Restyle
