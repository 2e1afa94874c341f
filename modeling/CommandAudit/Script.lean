/-!
# Scripts

A script is a named text. Only the newline character ends a line, so the lines of a script are
the pieces between newlines. A final empty piece is not counted as a line. A single line is cut out
of the text between the offset it starts at and the offset of its newline.
-/

namespace CommandAudit

/-- A script: a text and the name it is reported under. -/
structure Script where
  /-- The whole text. -/
  text : String
  /-- The name shown in reports. -/
  name : String := "<script>"
  deriving DecidableEq, Repr

namespace Script

/-- The pieces of the text between newlines; there is always at least one. -/
def pieces (s : Script) : List (List Char) :=
  s.text.toList.splitOn '\n'

/-- The pieces of the text that count as lines: all but a final empty one. -/
def lineTexts (s : Script) : List (List Char) :=
  if s.pieces.getLast? = some [] then s.pieces.dropLast else s.pieces

/-- The number of characters. -/
def length (s : Script) : Nat :=
  s.text.length

/-! ## The index of lines -/

/-- The offsets at which lines start: that of the text itself, and one after every newline. -/
def lineStarts (s : Script) : List Nat :=
  0 :: s.text.toList.zipIdx.filterMap fun (c, i) => if c = '\n' then some (i + 1) else none

/-- The offset at which line `n` ends: that of its newline, or the end of the text. -/
def lineEnd (s : Script) (n : Nat) : Nat :=
  match s.lineStarts[n]? with
  | some next => next - 1
  | none => s.length

/-- The number of lines: one for every newline, and one for an unterminated rest. -/
def lineCount (s : Script) : Nat :=
  let newlines := s.lineStarts.length - 1
  if s.text.toList.getLast?.any (· != '\n') then newlines + 1 else newlines

/-- Line `n`, counted from one; empty outside the text. -/
def line (s : Script) (n : Int) : String :=
  if n < 1 then ""
  else
    match s.lineStarts[n.toNat - 1]? with
    | some start => String.ofList (s.text.toList.extract start (s.lineEnd n.toNat))
    | none => ""

/-- The lines with their numbers, counted from one. They are over at the end of the text, even if a
line starts there. -/
def lines (s : Script) : List (Nat × String) :=
  let isOver (n : Nat) : Bool :=
    n == s.lineStarts.length && s.lineStarts.getLast? == some s.length
  ((List.range' 1 s.lineStarts.length).takeWhile (!isOver ·)).map fun n => (n, s.line n)

end Script

end CommandAudit
