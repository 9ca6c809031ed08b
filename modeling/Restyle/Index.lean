import Restyle.Disk.Reading
import Restyle.Disk.Stylesheets
import Restyle.Sheet.Scan

/-!
# The index

The index caches parsed stylesheets by absolute path. An entry holds the text a file had when it
was read and the rules of that text; an entry is only ever replaced as a whole. Loading a root
reads every stylesheet below it and forgets those that are gone; a file that cannot be read or
parsed is left out.
-/
namespace Restyle

/-- A parsed stylesheet. -/
structure Entry where
  /-- Absolute path of the file. -/
  path : Text
  /-- The text that was read. -/
  content : Text
  /-- The rules of that text. -/
  rules : List Rule
deriving DecidableEq

/-- The number of characters of a stylesheet. -/
def Entry.size (entry : Entry) : Nat := entry.content.length

/-- Why a file is left out of the index. -/
inductive SkipFault where
  /-- It could not be read. -/
  | unreadable (path detail : Text)
  /-- It could not be parsed. -/
  | unparsable (path detail : Text)
  /-- Its path names nothing. -/
  | badPath (fault : NameFault)
deriving DecidableEq, Repr

/-- The wording of a fault. -/
def SkipFault.message : SkipFault → Text
  | .unreadable path detail => "Cannot read ".toText ++ path ++ ": ".toText ++ detail
  | .unparsable path detail => "Cannot parse ".toText ++ path ++ ": ".toText ++ detail
  | .badPath fault => fault.message

/-- A cache of parsed stylesheets. -/
structure Index where
  /-- Where paths are read from. -/
  place : Place
  /-- The entries by absolute path, in the order in which they were first loaded. -/
  entries : OrderedMap Text Entry := .empty
  /-- Names of folders that loading passes by. -/
  skipped : List Text
  /-- The rules of a text, or why it has none. -/
  parse : Text → Except Text (List Rule) := fun text => .ok (Sheet.rules text)

namespace Index

/-- The folders that loading passes by: those of packages, of version control, of editors and of
builds. -/
def standardSkipped : List Text :=
  ["node_modules", ".git", ".vscode", ".idea", "dist", "build", ".next", ".cache", "coverage",
    "__pycache__", ".venv"].map String.toText

/-- The index without entries. -/
def new (place : Place) : Index := { place, skipped := standardSkipped }

/-- Read and parse the file at an absolute path. -/
def readEntry (index : Index) (disk : Disk) (path : Text) : Except SkipFault Entry :=
  match disk.readText index.place path with
  | .error (.file _ (.unnamed fault)) => .error (.badPath fault)
  | .error fault => .error (.unreadable path fault.message)
  | .ok content =>
    match index.parse content with
    | .error detail => .error (.unparsable path detail)
    | .ok rules => .ok ⟨path, content, rules⟩

/-- The absolute path of a root that can be gone through. -/
def rootOf (index : Index) (root : Text) : Except NameFault Text := do
  let path ← Path.resolve index.place root
  match nameFault? path with
  | some fault => .error fault
  | none => .ok path

/-- The paths of the stylesheets below a root. -/
def discover (index : Index) (disk : Disk) (root : Text) : List Text :=
  disk.stylesheets index.place index.skipped (Path.absolute index.place root)

/-- Put an entry under its path. -/
def store (index : Index) (entry : Entry) : Index :=
  { index with entries := index.entries.insert entry.path entry }

/-- Take the entry at an absolute path away. -/
def forget (index : Index) (path : Text) : Index :=
  { index with entries := index.entries.erase path }

/-- Load one file of a root: store it, or forget it when it cannot be read. -/
def reload (index : Index) (disk : Disk) (path : Text) : Index :=
  match index.readEntry disk path with
  | .ok entry => index.store entry
  | .error _ => index.forget path

/-- Load every stylesheet below a root and forget those that are gone. The number is that of the
files that were loaded. -/
def loadRoot (index : Index) (disk : Disk) (root : Text) : Nat × Index :=
  let root := Path.absolute index.place root
  let paths := index.discover disk root
  let kept := { index with
    entries := index.entries.keepKeys fun path => !Path.isUnder path root || paths.contains path }
  let count := paths.countP fun path => (index.readEntry disk path).isOk
  (count, paths.foldl (fun index path => index.reload disk path) kept)

/-- Whether an entry lies below a root. -/
def hasUnder (index : Index) (root : Text) : Bool :=
  index.entries.keys.any fun path => Path.isUnder path (Path.absolute index.place root)

/-- Load a root unless an entry lies below it; whether it was loaded. -/
def ensureLoaded (index : Index) (disk : Disk) (root : Text) : Bool × Index :=
  if index.hasUnder root then (false, index) else (true, (index.loadRoot disk root).2)

/-- Read one file again, in place of any entry for it. -/
def loadFile (index : Index) (disk : Disk) (path : Text) : Except SkipFault (Entry × Index) :=
  match Path.resolve index.place path with
  | .error fault => .error (.badPath fault)
  | .ok path =>
    match index.readEntry disk path with
    | .error fault => .error fault
    | .ok entry => .ok (entry, index.store entry)

/-- The entry of a file. -/
def get? (index : Index) (path : Text) : Option Entry :=
  index.entries.get? (Path.absolute index.place path)

/-- The absolute paths of all entries, in order. -/
def paths (index : Index) : List Text := index.entries.keys

/-- The entries below a root, in order. -/
def filesUnder (index : Index) (root : Text) : List Entry :=
  let root := Path.absolute index.place root
  (index.entries.entries.filter fun entry => Path.isUnder entry.1 root).map Prod.snd

/-- The rules below a root with the paths of their files, in order. -/
def rulesUnder (index : Index) (root : Text) : List (Text × Rule) :=
  (index.filesUnder root).flatMap fun entry => entry.rules.map fun rule => (entry.path, rule)

/-- The longer of two stylesheets, the first of equals. -/
def longer (best : Option Entry) (entry : Entry) : Option Entry :=
  match best with
  | none => some entry
  | some known => if known.size < entry.size then some entry else some known

/-- The longest stylesheet below a root, the first of equals. -/
def largest? (index : Index) (root : Text) : Option Entry :=
  (index.filesUnder root).foldl longer none

/-- Take the entry of a file away. -/
def remove (index : Index) (path : Text) : Index :=
  index.forget (Path.absolute index.place path)

/-- Take all entries away. -/
def clear (index : Index) : Index := { index with entries := .empty }

/-- The number of entries. -/
def size (index : Index) : Nat := index.entries.size

/-- Whether a file has an entry. -/
def contains (index : Index) (path : Text) : Bool := (index.get? path).isSome

end Index

end Restyle
