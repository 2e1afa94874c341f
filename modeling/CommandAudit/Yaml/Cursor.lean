import CommandAudit.Yaml.Source

/-!
# Places in a YAML text

A cursor is a place in a text together with its line and column. It moves forward one character at
a time; line breaks are the newline, the carriage return, the next-line character and the two
Unicode separators.
-/

namespace CommandAudit.Yaml

/-- Whether `c` ends a line. -/
def isBreak (c : Char) : Bool :=
  c == '\n' || c == '\r' || c == '\x85' || c == '\u2028' || c == '\u2029'

/-- Whether there is nothing, or a line break. -/
def isEndOrBreak (c : Option Char) : Bool :=
  c.all isBreak

/-- Whether there is nothing, a space or a line break. -/
def isEndOrSpace (c : Option Char) : Bool :=
  c.all fun c => c == ' ' || isBreak c

/-- Whether there is nothing, a space, a tab or a line break. -/
def isEndOrBlank (c : Option Char) : Bool :=
  c.all fun c => c == ' ' || c == '\t' || isBreak c

/-- A place in a text. -/
structure Cursor where
  /-- The text from here on. -/
  rest : List Char
  /-- The length of the whole text. -/
  size : Nat
  /-- The number of characters before. -/
  index : Nat := 0
  /-- The number of line breaks before. -/
  line : Nat := 0
  /-- The number of characters since the last line break. -/
  column : Nat := 0
  deriving Repr

namespace Cursor

/-- The start of a text. -/
def start (cs : List Char) : Cursor :=
  { rest := cs, size := cs.length }

/-- More than the number of characters from here on, which bounds every loop that moves forward. -/
def fuel (k : Cursor) : Nat :=
  k.size - k.index + 1

/-- The character here. -/
def peek (k : Cursor) : Option Char :=
  k.rest.head?

/-- The character `n` places ahead. -/
def peekAt (k : Cursor) (n : Nat) : Option Char :=
  k.rest[n]?

/-- Moves over one character. A byte-order mark has no width. -/
def advance (k : Cursor) : Cursor :=
  match k.rest with
  | [] => k
  | c :: rest =>
    let k := { k with rest, index := k.index + 1 }
    if isBreak c && !(c == '\r' && rest.head? == some '\n') then
      { k with line := k.line + 1, column := 0 }
    else if c == '\uFEFF' then k
    else { k with column := k.column + 1 }

/-- Moves over `n` characters. -/
def skip (n : Nat) (k : Cursor) : Cursor :=
  n.repeat advance k

/-- Moves over the characters that satisfy `p` and returns them. -/
def takeWhile (p : Char → Bool) (k : Cursor) : List Char × Cursor :=
  let taken := k.rest.takeWhile p
  (taken, k.skip taken.length)

/-- Moves over the characters that satisfy `p`. -/
def skipWhile (p : Char → Bool) (k : Cursor) : Cursor :=
  (k.takeWhile p).2

/-- Moves over spaces. -/
def skipSpaces (k : Cursor) : Cursor :=
  k.skipWhile (· == ' ')

/-- Moves over a comment that starts here. -/
def skipComment (k : Cursor) : Cursor :=
  if k.peek = some '#' then k.skipWhile fun c => !isBreak c else k

/-- Moves over a line break and returns how it counts in a value: the Unicode separators stand for
themselves, all others for a newline. -/
def lineBreak (k : Cursor) : Option Char × Cursor :=
  match k.rest with
  | '\r' :: '\n' :: _ => (some '\n', k.skip 2)
  | c :: _ =>
    if c == '\u2028' || c == '\u2029' then (some c, k.advance)
    else if isBreak c then (some '\n', k.advance)
    else (none, k)
  | [] => (none, k)

/-- Whether a document marker starts here: three equal characters and then a blank or the end. -/
def atMarker (k : Cursor) (c : Char) : Bool :=
  k.peek == some c && k.peekAt 1 == some c && k.peekAt 2 == some c && isEndOrBlank (k.peekAt 3)

/-- Whether a line that separates documents starts here. -/
def atSeparator (k : Cursor) : Bool :=
  k.atMarker '-' || k.atMarker '.'

end Cursor

/-! ## Readers -/

/-- An error and the place where it is met. -/
structure Fault where
  /-- What is wrong. -/
  error : YamlError
  /-- The number of characters before the place. -/
  index : Nat
  deriving DecidableEq, Repr

/-- A reader of one element: it returns the element and the place after it. -/
abbrev Reader (α : Type) :=
  Cursor → Except Fault (α × Cursor)

namespace Cursor

/-- Fails at this place. -/
def fail {α : Type} (k : Cursor) (error : YamlError := .badToken) : Except Fault α :=
  .error ⟨error, k.index⟩

/-- Moves over the rest of a line that may hold a comment only. -/
def skipIgnoredLine (k : Cursor) : Except Fault Cursor :=
  let k := k.skipSpaces.skipComment
  if isEndOrBreak k.peek then .ok k.lineBreak.2 else k.fail

end Cursor

end CommandAudit.Yaml
