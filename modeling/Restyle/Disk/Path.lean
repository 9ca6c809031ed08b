import Restyle.Json.Display
import Restyle.Text.Utf8

/-!
# Paths

A path is a text. Its absolute form starts at the top of the disk, has no empty, `.` or `..`
component and no separator at its end; two leading separators are kept as they are, three or
more are one. Absolute forms are made from the place that a program runs at: its working folder,
the home folder and the home folders of named accounts. The system is asked for paths and accounts
by their bytes, so a text that has none, or that holds the null character, names nothing.
-/
namespace Restyle

/-- Why a text names nothing. -/
inductive NameFault where
  /-- It holds the null character. -/
  | embeddedNull
  /-- It holds surrogates that stand for no byte. -/
  | surrogates (refused : Utf8.Surrogates)
deriving DecidableEq, Repr

/-- The wording of a fault. -/
def NameFault.message : NameFault → Text
  | .embeddedNull => "embedded null byte".toText
  | .surrogates refused => refused.message

/-- Why a text names nothing, if that is so. -/
def nameFault? (name : Text) : Option NameFault :=
  match Utf8.refused? Utf8.isEscapedByte 0 name with
  | some refused => some (.surrogates refused)
  | none => if name.contains '\x00' then some .embeddedNull else none

/-- Where a program runs: where its paths are read from, and what its stack holds. -/
structure Place where
  /-- Absolute path of the working folder. -/
  folder : Text
  /-- Path of the home folder. -/
  home : Text
  /-- Home folders of named accounts. -/
  accounts : List (Text × Text) := []
  /-- How deep the values may be that it displays. -/
  rooms : Json.Rooms := {}
deriving DecidableEq, Repr

namespace Path

/-- The components of a path, empty ones included. -/
def components (path : Text) : List Text := Text.split (· = .char '/') path

/-- The components that name something. -/
def names (path : Text) : List Text := Text.splitNonempty (· = .char '/') path

/-- The name of the account whose home folder a tilde at the front of a path stands for. -/
def accountOf (path : Text) : Text :=
  match path with
  | '~' :: rest => rest.takeWhile (· != .char '/')
  | _ => []

/-- The path with a tilde at its front put into full. A tilde stands for the home folder, and
before a name for the home folder of that account; of an unknown account nothing is put. -/
def expandHome (place : Place) (path : Text) : Text :=
  match path with
  | '~' :: rest =>
    let account := accountOf path
    let tail := rest.drop account.length
    let home? := if account.isEmpty then some place.home else place.accounts.lookup account
    match home? with
    | none => path
    | some home =>
      let bare := (home.reverse.dropWhile (· = .char '/')).reverse
      if (bare ++ tail).isEmpty then ['/'] else bare ++ tail
  | _ => path

/-- The separators that an absolute path keeps at its front: two of exactly two, else one. -/
def leading (path : Text) : Text :=
  match path with
  | '/' :: '/' :: '/' :: _ => ['/']
  | '/' :: '/' :: _ => ['/', '/']
  | _ => ['/']

/-- The names that are left after empty and `.` components are dropped and each `..` has taken
away the name before it; `kept` holds the earlier names, last one first. -/
def settle (kept : List Text) : List Text → List Text
  | [] => kept.reverse
  | step :: rest =>
    if step = [] ∨ step = [.char '.'] then settle kept rest
    else if step = [.char '.', .char '.'] then settle (kept.drop 1) rest
    else settle (step :: kept) rest

/-- The absolute form of a path that starts at the top. -/
def clean (path : Text) : Text :=
  leading path ++ Text.join ['/'] (settle [] (components path))

/-- A path that is followed from a folder. -/
def append (folder path : Text) : Text :=
  if path.startsWith ['/'] then path
  else if folder.isEmpty || folder.endsWith ['/'] then folder ++ path
  else folder ++ .char '/' :: path

/-- The absolute form of a path. -/
def absolute (place : Place) (path : Text) : Text :=
  clean (append place.folder (expandHome place path))

/-- The absolute form of a path, unless the account at its front is one that cannot be looked up. -/
def resolve (place : Place) (path : Text) : Except NameFault Text :=
  match nameFault? (accountOf path) with
  | some fault => .error fault
  | none => .ok (absolute place path)

/-- Whether a path is a given one or lies below it. -/
def isUnder (path root : Text) : Bool :=
  path == root || path.startsWith ((root.reverse.dropWhile (· = .char '/')).reverse ++ [.char '/'])

/-- The number of items that two lists have in common at their front. -/
def commonLength : List Text → List Text → Nat
  | a :: as, b :: bs => if a = b then commonLength as bs + 1 else 0
  | _, _ => 0

/-- An absolute path as seen from an absolute folder. -/
def relative (path folder : Text) : Text :=
  let goal := names path
  let start := names folder
  let shared := commonLength start goal
  let steps := List.replicate (start.length - shared) [.char '.', .char '.'] ++ goal.drop shared
  if steps.isEmpty then ['.'] else Text.join ['/'] steps

/-- A path with repeated separators and `.` components dropped; `..` stays. -/
def tidy (path : Text) : Text :=
  let absolute := path.startsWith ['/']
  let kept := (names path).filter (· != [.char '.'])
  let front := if absolute then leading path else []
  if kept.isEmpty && !absolute then ['.'] else front ++ Text.join ['/'] kept

end Path

end Restyle
