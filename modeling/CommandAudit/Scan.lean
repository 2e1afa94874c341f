import CommandAudit.Scan.State
import CommandAudit.Script

/-!
# Scanning a script for commands

One pass over the lines of a script. Every line is looked at as a whole and then, unless it lies
outside the window or inside a here-document, read character by character. The pass yields the
list of all decisions with their lines; tokens and trace are views of that list.
-/

namespace CommandAudit

/-! ## One line -/

/-- The scanner inside a line. -/
structure LineScan where
  /-- The state so far. -/
  state : ScanState
  /-- The characters read, latest first. -/
  past : List Char := []
  /-- How many characters were read. -/
  width : Nat := 0
  /-- The decisions taken on the line, latest first. -/
  taken : List Decision := []
  deriving DecidableEq, Repr

namespace LineScan

/-- Takes over the outcome of a transition. -/
def apply (k : LineScan) (outcome : ScanState × List Decision) : LineScan :=
  { k with state := outcome.1, taken := outcome.2.reverse ++ k.taken }

/-- Reads a character that is code after its own effect on the context. -/
def readCode (k : LineScan) (hasParen : Bool) (c : Char) : LineScan :=
  let k := k.apply (k.state.markReady k.past c)
  let k := k.apply (k.state.trackCase hasParen k.past c)
  { k with state := k.state.extendWord k.past (k.width + 1) c }

/-- Reads the context of a character. -/
def readContext (k : LineScan) (mode : EscapeMode) (c : Char) : LineScan :=
  let context := k.state.context.next mode k.past c
  k.apply ({ k.state with context }, contextDecision c (k.width + 1) k.state.context context)

/-- Ends the word being read at a character that cannot continue it. -/
def breakWord (k : LineScan) (line : Nat) (c : Char) : LineScan :=
  if isWordChar c then k else k.apply (k.state.closeWord line)

/-- Reads one character. -/
def step (mode : EscapeMode) (line : Nat) (hasParen : Bool) (k : LineScan) (c : Char) : LineScan :=
  let k := (k.breakWord line c).readContext mode c
  let k := if k.state.context = .code then k.readCode hasParen c else k
  { k with past := c :: k.past, width := k.width + 1 }

/-- Reads the characters of a line. -/
def run (mode : EscapeMode) (line : Nat) (hasParen : Bool) (k : LineScan) (text : List Char) :
    LineScan :=
  text.foldl (step mode line hasParen) k

end LineScan

/-- Reads line number `n`, from the state before it to the state after its last character. -/
def scanLine (o : ScanOptions) (n : Nat) (s : ScanState) (text : List Char) :
    ScanState × List Decision :=
  let ahead := s.lookAhead (o.inWindow n) text
  if o.inWindow n ∧ ahead.1.heredoc = none then
    let hasParen := text.contains ')'
    let settled := ahead.1.settle hasParen
    let k := LineScan.run o.escapeMode n hasParen { state := settled.1 } text
    let closed := k.apply (k.state.closeWord n)
    (closed.state, ahead.2 ++ settled.2 ++ closed.taken.reverse)
  else ahead

/-! ## All lines -/

/-- A decision and the line it was taken on. -/
structure ScanEvent where
  /-- The line. -/
  line : Nat
  /-- The decision. -/
  decision : Decision
  deriving DecidableEq, Repr

/-- The scanner between two lines. -/
structure ScriptScan where
  /-- The state at the start of the next line. -/
  state : ScanState := {}
  /-- The number of the next line. -/
  line : Nat := 1
  /-- The events of the lines before. -/
  events : Array ScanEvent := #[]

/-- Reads the next line. -/
def ScriptScan.step (o : ScanOptions) (k : ScriptScan) (text : List Char) : ScriptScan :=
  let outcome := scanLine o k.line k.state text
  { state := outcome.1.endLine
    line := k.line + 1
    events := k.events ++ outcome.2.map (ScanEvent.mk k.line) }

/-- The tokens of the lines before. -/
def ScriptScan.tokens (k : ScriptScan) : List Token :=
  k.events.toList.filterMap (·.decision.token?)

namespace Script

/-- All decisions of a scan, in the order in which they are taken. -/
def scanEvents (s : Script) (o : ScanOptions) : List ScanEvent :=
  (s.pieces.foldl (ScriptScan.step o) {}).events.toList

/-- The words in command position, in the order of the text. -/
def tokens (s : Script) (o : ScanOptions := {}) : List Token :=
  (s.scanEvents o).filterMap (·.decision.token?)

/-- The wording of the decisions on traced lines. -/
def trace (s : Script) (o : ScanOptions) : List String :=
  (s.scanEvents o).filter (o.isTraced ·.line) |>.map fun e => e.decision.describe e.line

end Script

/-! ## Progress -/

/-- Reads further lines, the last of which no newline ends, and reports the number of every line
that is finished: a line with a newline, and a last one that holds a character. -/
def ScriptScan.follow {m : Type → Type} [Monad m] (o : ScanOptions) (report : Nat → m Unit)
    (k : ScriptScan) : List (List Char) → m ScriptScan
  | [] => pure k
  | [last] => do
    unless last.isEmpty do report k.line
    pure (k.step o last)
  | text :: next :: rest => do
    report k.line
    follow o report (k.step o text) (next :: rest)

namespace Script

/-- The words in command position, found by a scan that reports the lines it finishes. -/
def tokensReporting {m : Type → Type} [Monad m] (s : Script) (o : ScanOptions)
    (report : Nat → m Unit) : m (List Token) := do
  let k ← ScriptScan.follow o report {} s.pieces
  pure k.tokens

/-- The numbers of the lines in the order in which the scan finishes them. -/
def progress (s : Script) (o : ScanOptions) : List Nat :=
  let record (n : Nat) : StateM (Array Nat) Unit := modify (·.push n)
  ((s.tokensReporting o record).run #[]).2.toList

end Script

end CommandAudit
