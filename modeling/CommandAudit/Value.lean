import CommandAudit.Calendar
import CommandAudit.Number.Binary64
import CommandAudit.Text
import Std.Data.HashMap

/-!
# Untyped data

Data as a configuration file or a caller gives it, before any field is checked. The keys of a
mapping may be any scalar. Two scalars are the same key if they have the same `Key`: numbers and
truth values are compared by their values, and times with a known distance from universal time by
the instant they name.
-/

namespace CommandAudit

/-- Untyped data. -/
inductive Value
  | null
  | bool (b : Bool)
  | int (n : Int)
  | real (x : Binary64)
  /-- An undefined number. It equals no other one but itself, so its origin is kept. -/
  | undefined (origin : Nat)
  | text (t : Text)
  | bytes (bs : List UInt8)
  | date (d : Date)
  | instant (d : Date) (t : DayTime)
  | list (items : List Value)
  /-- A collection of distinct values. -/
  | set (items : List Value)
  | mapping (entries : List (Value × Value))
  deriving Repr, Inhabited

/-- What makes two scalars the same key. -/
inductive Key
  | null
  | integer (n : Int)
  | real (x : Binary64)
  | undefined (origin : Nat)
  | text (t : Text)
  | bytes (bs : List UInt8)
  | date (d : Date)
  /-- A time whose distance from universal time is not known. -/
  | localTime (instant : Int)
  /-- A point in universal time. -/
  | universalTime (instant : Int)
  deriving DecidableEq, Repr, Hashable

namespace Value

/-- The number `x`, which comes from the given origin. -/
def ofReal (origin : Nat) (x : Binary64) : Value :=
  if x = .nan then .undefined origin else .real x

/-- The key a value is; a collection can be none. -/
def key? : Value → Option Key
  | .null => some .null
  | .bool b => some (.integer (if b then 1 else 0))
  | .int n => some (.integer n)
  | .real x => some (x.toInt?.elim (.real x) .integer)
  | .undefined origin => some (.undefined origin)
  | .text t => some (.text t)
  | .bytes bs => some (.bytes bs)
  | .date d => some (.date d)
  | .instant d t =>
    some (if t.offset.isSome then .universalTime (t.instant d) else .localTime (t.instant d))
  | .list _ | .set _ | .mapping _ => none

/-- Whether two values are the same key. -/
def sameKey (a b : Value) : Bool :=
  a.key?.isSome && a.key? == b.key?

/-- Whether the value counts as absent: nothing, zero, false, or empty. -/
def isEmpty : Value → Bool
  | .null => true
  | .bool b => !b
  | .int n => n == 0
  | .real x => x.toInt? == some 0
  | .text t => t.isEmpty
  | .bytes bs => bs.isEmpty
  | .undefined _ | .date _ | .instant _ _ => false
  | .list items | .set items => items.isEmpty
  | .mapping entries => entries.isEmpty

end Value

/-! ## Entries with distinct keys -/

/-- The entries met so far and, by the identity of its key, the place of each of them. -/
abbrev Entries (ι κ α : Type) [BEq ι] [Hashable ι] :=
  Array (κ × α) × Std.HashMap ι Nat

/-- Adds an entry. If there is one with the same key, it keeps its place and its key, and gets the
new value. -/
def putEntry {ι κ α : Type} [BEq ι] [Hashable ι] (identity : κ → ι) (acc : Entries ι κ α)
    (entry : κ × α) : Entries ι κ α :=
  match acc.2[identity entry.1]? with
  | some place => (acc.1.modify place fun (key, _) => (key, entry.2), acc.2)
  | none => (acc.1.push entry, acc.2.insert (identity entry.1) acc.1.size)

/-- The entries of a mapping from all entries given for it, in order. -/
def distinctEntries {ι κ α : Type} [BEq ι] [Hashable ι] (identity : κ → ι)
    (entries : List (κ × α)) : List (κ × α) :=
  (entries.foldl (putEntry identity) (#[], {})).1.toList

end CommandAudit
