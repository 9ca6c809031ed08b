import Restyle.Notice

/-!
# The activity log

The log keeps an entry for each notice, up to its capacity, and answers the latest ones, newest
first.
-/
namespace Restyle

/-- What the log says of one notice, by named members. -/
abbrev ActivityEntry := List (String × Json)

/-- The entry of a notice. -/
def Notice.describe : Notice → ActivityEntry
  | .changeApplied _ result => ("type", .ofString "success") :: result.members
  | .changeFailed selector error =>
    [("type", .ofString "error"), ("selector", .string selector), ("error", .string error)]
  | .projectConfigured root _ =>
    [("type", .ofString "info"), ("message", .string ("Project path set to ".toText ++ root))]
  | .filesIndexed root count =>
    [("type", .ofString "info"),
      ("message", .string ("Loaded ".toText ++ Text.ofNat count ++ " CSS files from ".toText ++
        root))]

/-- The latest entries. -/
structure ActivityLog where
  /-- How many entries are kept; all when there is no capacity. -/
  capacity : Option Nat
  /-- The entries, newest first. -/
  entries : List ActivityEntry := []

/-- Why a number is no capacity. -/
inductive CapacityFault where
  /-- It is negative. -/
  | negative
  /-- It has too many digits to be a count. -/
  | tooGreat
deriving DecidableEq, Repr

/-- The wording of a fault. -/
def CapacityFault.message : CapacityFault → String
  | .negative => "maxlen must be non-negative"
  | .tooGreat => "Python int too large to convert to C ssize_t"

namespace ActivityLog

/-- Counts lie below this number. -/
def capacityLimit : Int := 0x8000000000000000

/-- A log without entries. -/
def ofCapacity : Option Int → Except CapacityFault ActivityLog
  | none => .ok { capacity := none }
  | some capacity =>
    if capacityLimit ≤ capacity || capacity < -capacityLimit then .error .tooGreat
    else if capacity < 0 then .error .negative
    else .ok { capacity := some capacity.toNat }

/-- The capacity of a log that none is asked for. -/
def standard : ActivityLog := { capacity := some 100 }

/-- Add the entry of a notice; past the capacity the oldest one goes. -/
def add (log : ActivityLog) (notice : Notice) : ActivityLog :=
  let entries := notice.describe :: log.entries
  { log with entries := match log.capacity with
      | none => entries
      | some capacity => entries.take capacity }

/-- Add the entries of notices in order. -/
def addAll (log : ActivityLog) (notices : List Notice) : ActivityLog := notices.foldl add log

/-- The latest entries, newest first: at most `limit` of them; all but the oldest `-limit` when
it is negative; all when it is zero or not given. -/
def latest (log : ActivityLog) (limit : Option Int) : List ActivityEntry :=
  match limit with
  | none => log.entries
  | some limit =>
    if limit = 0 then log.entries
    else if limit < 0 then log.entries.take (log.entries.length - limit.natAbs)
    else log.entries.take limit.toNat

/-- The number of entries. -/
def size (log : ActivityLog) : Nat := log.entries.length

end ActivityLog

end Restyle
