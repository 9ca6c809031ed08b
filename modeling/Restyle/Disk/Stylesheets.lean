import Restyle.Disk.Basic

/-!
# Stylesheets of a folder

The stylesheets below a folder are the items other than folders whose name ends in `.css`, found by
going through the folders that are not skipped. They are listed folder by folder: a folder's own
items in the order of their names, then those of its folders in the order of theirs. A folder that
may not be listed shows nothing, and one that may not be entered shows nothing of its folders.
-/
namespace Restyle.Disk

/-- Whether one file of a folder is listed no later than another, by their trails from the
folder. -/
def listedBefore : Trail → Trail → Bool
  | [], _ => true
  | _ :: _, [] => false
  | [a], [b] => Text.le a b
  | [_], _ :: _ :: _ => true
  | _ :: _ :: _, [_] => false
  | a :: as, b :: bs => if a = b then listedBefore as bs else Text.le a b

/-- The trail from a folder down to an item below it. -/
def below? (folder trail : Trail) : Option Trail :=
  if folder.isPrefixOf trail then some (trail.drop folder.length) else none

/-- Whether a file is a stylesheet of a folder that it lies below by the given trail. -/
def isListed (skipped : List Text) (trail : Trail) : Bool :=
  (trail.getLastD []).endsWith ".css".toText && !trail.dropLast.any skipped.contains

/-- The trails of the items that are no folders. -/
def leaves (disk : Disk) : List Trail :=
  (disk.nodes.entries.filter fun item => !item.2.isFolder).map Prod.fst

/-- Whether one gets to list a folder that lies below another one by the given trail. -/
def isShown (disk : Disk) (folder : Trail) : Trail → Bool
  | [] => disk.canList folder
  | name :: rest =>
    disk.canList folder && disk.canEnter folder && isShown disk (folder ++ [name]) rest

/-- The trails from a folder down to its stylesheets, in order. -/
def listing (disk : Disk) (skipped : List Text) (folder : Trail) : List Trail :=
  ((disk.leaves.filterMap (below? folder)).filter fun trail =>
    isListed skipped trail && disk.isShown folder trail.dropLast).mergeSort listedBefore

/-- The paths of the stylesheets below a path, in order. -/
def stylesheets (disk : Disk) (place : Place) (skipped : List Text) (root : Text) : List Text :=
  match disk.locate place root with
  | .error _ => []
  | .ok folder =>
    (disk.listing skipped folder).map fun trail => Path.append root (Text.join ['/'] trail)

end Restyle.Disk
