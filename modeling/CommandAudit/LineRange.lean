import CommandAudit.Scan.Options
import CommandAudit.Text.Integer

/-!
# Line ranges in text

A range is written `FIRST:LAST`, or as a single line. Both are integers; the first line is at least
one and the last is not before it.
-/

namespace CommandAudit

/-- Why a text is no line range. -/
inductive LineRangeError
  /-- The text has not the form of a range. -/
  | malformed (text : String)
  /-- The numbers do not make a range. -/
  | outOfOrder (text : String)
  deriving DecidableEq, Repr

/-- The wording of an error. -/
def LineRangeError.message : LineRangeError → String
  | .malformed text => s!"expected LINE or FIRST:LAST, got '{text}'"
  | .outOfOrder text => s!"invalid line range '{text}'"

/-- The two numbers of a range; a single number is both. -/
def LineRange.bounds? (r : IntegerRules) (cs : List Char) : Option (Int × Int) :=
  let first := cs.takeWhile (· != ':')
  match cs.dropWhile (· != ':') with
  | [] => (integerBy? r first).map fun n => (n, n)
  | _ :: last =>
    match integerBy? r first, integerBy? r last with
    | some a, some b => some (a, b)
    | _, _ => none

/-- The range written in a text with numbers that follow the given rules. -/
def LineRange.ofTextBy (r : IntegerRules) (s : String) : Except LineRangeError LineRange :=
  match LineRange.bounds? r s.toList with
  | none => .error (.malformed s)
  | some (first, last) =>
    if first < 1 ∨ last < first then .error (.outOfOrder s) else .ok ⟨first, last⟩

/-- The range written in a text. -/
def LineRange.ofText (s : String) : Except LineRangeError LineRange :=
  LineRange.ofTextBy .usual s

end CommandAudit
