import Restyle.Disk.Path
import Restyle.OrderedMap
import Restyle.Text.Utf8

/-!
# The disk

A disk holds folders and files by their trails, the lists of names from the top down to them. Each
item stands at one trail, so no file has two names, and a name is the one text that its bytes read
as. Folders stand inside one another to any depth. A path is followed name by name: through folders
that may be entered, and up again at `..`. Reading and writing have the faults that an operating
system reports, with its numbers and wording. A disk may also refuse a write, because the file may
not be written or for other reasons; its verdicts on the coming writes are part of it.
-/
namespace Restyle

/-- Names from the top of the disk down to an item. -/
abbrev Trail := List Text

/-- What may be done with a folder. -/
structure Access where
  /-- Its names may be listed. -/
  listable : Bool := true
  /-- What stands in it may be reached. -/
  enterable : Bool := true
deriving DecidableEq, Repr

/-- What a disk holds at a trail. -/
inductive Node where
  /-- A folder, and what may be done with it. -/
  | folder (access : Access)
  /-- A file, its bytes, and whether they may be read. -/
  | file (bytes : List UInt8) (readable : Bool)
  /-- Something else that has a name, such as a socket: it cannot be opened. -/
  | special
deriving DecidableEq, Repr

/-- Whether an item is a folder. -/
def Node.isFolder : Node → Bool
  | .folder _ => true
  | _ => false

/-- Why a path is not read or written. -/
inductive DiskFault where
  /-- Nothing is there. -/
  | missing
  /-- A name on the way is not that of a folder. -/
  | notAFolder
  /-- A folder is there, not a file. -/
  | isAFolder
  /-- A folder on the way may not be entered, or the file may not be read. -/
  | denied
  /-- What is there cannot be opened. -/
  | noDevice
  /-- A name, or the whole path, has too many bytes. -/
  | nameTooLong
  /-- The path names nothing. -/
  | unnamed (fault : NameFault)
deriving DecidableEq, Repr

namespace DiskFault

/-- The system's number of a fault. -/
def code : DiskFault → Nat
  | .missing => 2
  | .notAFolder => 20
  | .isAFolder => 21
  | .denied => 13
  | .noDevice => 6
  | .nameTooLong => 36
  | .unnamed _ => 0

/-- The system's wording of a fault. -/
def wording : DiskFault → Text
  | .missing => "No such file or directory".toText
  | .notAFolder => "Not a directory".toText
  | .isAFolder => "Is a directory".toText
  | .denied => "Permission denied".toText
  | .noDevice => "No such device or address".toText
  | .nameTooLong => "File name too long".toText
  | .unnamed fault => fault.message

/-- A fault at a path, as messages show it. -/
def message (path : Text) : DiskFault → Text
  | .unnamed fault => fault.message
  | fault =>
    "[Errno ".toText ++ Text.ofNat fault.code ++ "] ".toText ++ fault.wording ++
      ": ".toText ++ Text.quoted path

end DiskFault

/-- A refusal to write, by its number and, if it has one, its wording. -/
structure Refusal where
  /-- The number. -/
  code : Int
  /-- The wording. -/
  wording : Option Text
deriving DecidableEq, Repr

/-- What messages say of a refusal: its wording; without one its number. -/
def Refusal.message (refusal : Refusal) : Text :=
  match refusal.wording with
  | none => Text.ofInt refusal.code
  | some [] => "[Errno ".toText ++ Text.ofInt refusal.code ++ "] ".toText
  | some wording => wording

/-- Why a file is not written. -/
inductive WriteFault where
  /-- The path does not lead to a file. -/
  | path (fault : DiskFault)
  /-- The disk refuses. -/
  | refused (refusal : Refusal)
  /-- The text cannot be written: the file is left empty. -/
  | surrogates (refused : Utf8.Surrogates)
deriving DecidableEq, Repr

/-- Folders and files, and the disk's verdicts on the coming writes. -/
structure Disk where
  /-- What stands at each trail. The top is a folder that may be entered, and has no entry. -/
  nodes : OrderedMap Trail Node
  /-- The verdicts on the coming writes, first one first; beyond them writes are accepted. -/
  verdicts : List (Option Refusal) := []
deriving DecidableEq

namespace Disk

/-- A name has at most this many bytes. -/
def nameLimit : Nat := 255

/-- A path has at most this many bytes. -/
def pathLimit : Nat := 4095

/-- The disk with nothing but its top folder. -/
def empty : Disk := ⟨.empty, []⟩

/-- What stands at a trail. -/
def node? (disk : Disk) (trail : Trail) : Option Node :=
  if trail = [] then some (.folder {}) else disk.nodes.get? trail

/-- What may be done with the folder at a trail, if one stands there. -/
def access? (disk : Disk) (trail : Trail) : Option Access :=
  match disk.node? trail with
  | some (.folder access) => some access
  | _ => none

/-- Whether a folder stands at a trail. -/
def hasFolder (disk : Disk) (trail : Trail) : Bool := (disk.access? trail).isSome

/-- Whether a folder that may be listed stands at a trail. -/
def canList (disk : Disk) (trail : Trail) : Bool := (disk.access? trail).any Access.listable

/-- Whether a folder that may be entered stands at a trail. -/
def canEnter (disk : Disk) (trail : Trail) : Bool := (disk.access? trail).any Access.enterable

/-- Follow one component from the folder at a trail. An empty one stays in any folder; the others
are looked for in it. -/
def advance (disk : Disk) (here : Trail) (step : Text) : Except DiskFault Trail :=
  if !disk.hasFolder here then .error .notAFolder
  else if step = [] then .ok here
  else if !disk.canEnter here then .error .denied
  else if step = [.char '.'] then .ok here
  else if step = [.char '.', .char '.'] then .ok here.dropLast
  else if (Utf8.bytes step).length > nameLimit then .error .nameTooLong
  else if (disk.node? (here ++ [step])).isSome then .ok (here ++ [step])
  else .error .missing

/-- Follow components from the folder at a trail. -/
def follow (disk : Disk) (here : Trail) (steps : List Text) : Except DiskFault Trail :=
  steps.foldlM disk.advance here

/-- Whether a path can be one at all. -/
def checkPath (path : Text) : Except DiskFault Unit :=
  match nameFault? path with
  | some fault => .error (.unnamed fault)
  | none =>
    if path.isEmpty then .error .missing
    else if (Utf8.bytes path).length > pathLimit then .error .nameTooLong
    else .ok ()

/-- The trail that a path starts from. -/
def startOf (place : Place) (path : Text) : Trail :=
  if path.startsWith ['/'] then [] else Path.names place.folder

/-- The trail that a path leads to. -/
def locate (disk : Disk) (place : Place) (path : Text) : Except DiskFault Trail :=
  match checkPath path with
  | .error fault => .error fault
  | .ok () => disk.follow (startOf place path) (Path.components path)

/-- Whether a path leads to something. -/
def leadsSomewhere (disk : Disk) (place : Place) (path : Text) : Bool :=
  (disk.locate place path).isOk

/-- Whether a path leads to a folder. -/
def leadsToFolder (disk : Disk) (place : Place) (path : Text) : Bool :=
  match disk.locate place path with
  | .error _ => false
  | .ok trail => disk.hasFolder trail

/-- Whether a path leads to a folder that may be listed and entered. -/
def leadsToOpenFolder (disk : Disk) (place : Place) (path : Text) : Bool :=
  match disk.locate place path with
  | .error _ => false
  | .ok trail => disk.canList trail && disk.canEnter trail

/-- The bytes of the file at a path. -/
def read (disk : Disk) (place : Place) (path : Text) : Except DiskFault (List UInt8) :=
  match disk.locate place path with
  | .error fault => .error fault
  | .ok trail =>
    match disk.node? trail with
    | some (.file bytes readable) => if readable then .ok bytes else .error .denied
    | some (.folder access) => .error (if access.listable then .isAFolder else .denied)
    | some .special => .error .noDevice
    | none => .error .missing

/-- Where a write to a path goes: an existing file, or a new one in an existing folder. -/
def writeTrail (disk : Disk) (place : Place) (path : Text) : Except DiskFault Trail := do
  checkPath path
  let steps := Path.components path
  let folder ← disk.follow (startOf place path) steps.dropLast
  let name := steps.getLastD []
  if !disk.hasFolder folder then .error .notAFolder
  else if name = [] then .error .isAFolder
  else if !disk.canEnter folder then .error .denied
  else if name = [.char '.'] ∨ name = [.char '.', .char '.'] then .error .isAFolder
  else if (Utf8.bytes name).length > nameLimit then .error .nameTooLong
  else
    let trail := folder ++ [name]
    match disk.node? trail with
    | some (.folder _) => .error .isAFolder
    | some .special => .error .noDevice
    | _ => .ok trail

/-- The disk with an item at a trail. -/
def set (disk : Disk) (trail : Trail) (node : Node) : Disk :=
  { disk with nodes := disk.nodes.insert trail node }

/-- Whether the file at a trail may be read; a new one may. -/
def isReadable (disk : Disk) (trail : Trail) : Bool :=
  match disk.node? trail with
  | some (.file _ readable) => readable
  | _ => true

/-- The disk with other bytes in the file at a trail, or a new file with them. -/
def fill (disk : Disk) (trail : Trail) (bytes : List UInt8) : Disk :=
  disk.set trail (.file bytes (disk.isReadable trail))

/-- Write a text to a file. The disk gives its verdict first; a refused write changes nothing else.
The file is emptied before the text is written, so a text that cannot be leaves it empty. -/
def write (disk : Disk) (place : Place) (path content : Text) : Except WriteFault Unit × Disk :=
  let judged := { disk with verdicts := disk.verdicts.drop 1 }
  match disk.verdicts.head?.join with
  | some refusal => (.error (.refused refusal), judged)
  | none =>
    match disk.writeTrail place path with
    | .error fault => (.error (.path fault), judged)
    | .ok trail =>
      match Utf8.encode content with
      | .error refused => (.error (.surrogates refused), judged.fill trail [])
      | .ok bytes => (.ok (), judged.fill trail bytes)

/-- The disk with folders down to a trail. -/
def withFolders (disk : Disk) (trail : Trail) : Disk :=
  ((List.range' 1 trail.length).map trail.take).foldl
    (fun disk trail => if (disk.node? trail).isSome then disk else disk.set trail (.folder {})) disk

/-- The disk with an item at a trail and folders down to it. -/
def put (disk : Disk) (trail : Trail) (node : Node) : Disk :=
  (disk.withFolders trail.dropLast).set trail node

/-- The disk without the item at a trail and everything below it. -/
def remove (disk : Disk) (trail : Trail) : Disk :=
  { disk with nodes := disk.nodes.keepKeys fun other => !trail.isPrefixOf other }

/-- The files, by trail. -/
def files (disk : Disk) : List (Trail × List UInt8) :=
  disk.nodes.entries.filterMap fun
    | (trail, .file bytes _) => some (trail, bytes)
    | _ => none

/-- The disk with an item, and everything below it, moved from one trail to another. -/
def move (disk : Disk) (source goal : Trail) : Disk :=
  let moved := disk.nodes.entries.filterMap fun entry =>
    if source.isPrefixOf entry.1 then some (goal ++ entry.1.drop source.length, entry.2) else none
  moved.foldl (fun disk entry => disk.put entry.1 entry.2) (disk.remove source)

/-- The bytes of the file at a trail. -/
def bytes? (disk : Disk) (trail : Trail) : Option (List UInt8) :=
  match disk.node? trail with
  | some (.file bytes _) => some bytes
  | _ => none

/-- The trails of the files that differ from an earlier state, each with the bytes it has now;
none for a file that is gone. -/
def changesSince (after before : Disk) : List (Trail × Option (List UInt8)) :=
  let trails := ((before.files ++ after.files).map Prod.fst).eraseDups
  (trails.filter fun trail => before.bytes? trail != after.bytes? trail).map fun trail =>
    (trail, after.bytes? trail)

end Disk

end Restyle
