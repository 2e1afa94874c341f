/-!
# Options of a scan

How quotes are escaped, which lines are read, and for which lines the decisions of the scanner are
of interest. Line numbers are counted from one and both ends of a range belong to it.
-/

namespace CommandAudit

/-- How a backslash in front of a quote is understood. -/
inductive EscapeMode
  /-- A quote is escaped by one backslash that has no backslash in front of it. -/
  | legacy
  /-- A quote is escaped by an odd run of backslashes, and never inside single quotes. -/
  | strict
  deriving DecidableEq, Repr, Inhabited

/-- The written name of an escape mode. -/
def EscapeMode.label : EscapeMode → String
  | .legacy => "legacy"
  | .strict => "strict"

/-- The escape mode written `s`. -/
def EscapeMode.ofLabel? (s : String) : Option EscapeMode :=
  if s = "legacy" then some .legacy else if s = "strict" then some .strict else none

theorem EscapeMode.ofLabel?_label (m : EscapeMode) : ofLabel? m.label = some m := by
  cases m <;> rfl

/-- A range of line numbers, both ends included. -/
structure LineRange where
  /-- The first line. -/
  first : Int
  /-- The last line. -/
  last : Int
  deriving DecidableEq, Repr

/-- Whether line `n` lies in the range. -/
def LineRange.contains (r : LineRange) (n : Nat) : Bool :=
  r.first ≤ n && n ≤ r.last

/-- The choices for a single scan. -/
structure ScanOptions where
  /-- How quotes are escaped. -/
  escapeMode : EscapeMode := .legacy
  /-- The lines that are read; all of them if absent. -/
  window : Option LineRange := none
  /-- The lines whose decisions are listed in the trace; none if absent. -/
  trace : Option LineRange := none
  deriving DecidableEq, Repr

namespace ScanOptions

/-- Whether line `n` is read. -/
def inWindow (o : ScanOptions) (n : Nat) : Bool :=
  o.window.all (·.contains n)

/-- Whether decisions on line `n` are traced. -/
def isTraced (o : ScanOptions) (n : Nat) : Bool :=
  o.trace.any (·.contains n)

end ScanOptions

end CommandAudit
