import CommandAudit.Heredoc
import CommandAudit.Scan.Decision
import CommandAudit.Scan.Options
import CommandAudit.Text.Blank

/-!
# The state of a scan

The scanner does not parse the shell language. It carries the quoting context, the open
here-document, the place inside a case statement and whether the next word would be a command.
The transitions below act on that state alone; each also returns the decisions it takes, and
`past` stands for the characters already read on the line, latest first.
-/

namespace CommandAudit

/-- What the characters being read belong to. -/
inductive Context
  | code
  | comment
  | singleQuoted
  | doubleQuoted
  deriving DecidableEq, Repr

/-- The place inside a case statement. -/
inductive CaseBlock
  /-- Not inside a case statement. -/
  | outside
  /-- Before the `)` that ends the pattern of a branch. -/
  | pattern
  /-- After the pattern of a branch. -/
  | body
  deriving DecidableEq, Repr

/-- A word being read. -/
structure OpenWord where
  /-- Its characters so far, latest first. -/
  chars : List Char
  /-- The column of its first character. -/
  column : Nat
  /-- It started inside a case pattern. -/
  isPattern : Bool
  deriving DecidableEq, Repr

/-- What the scanner carries from one character to the next. -/
structure ScanState where
  /-- The quoting context. -/
  context : Context := .code
  /-- The here-document whose body is being passed. -/
  heredoc : Option Heredoc := none
  /-- The here-document whose body starts on the next line. -/
  pending : Option Heredoc := none
  /-- The place inside a case statement. -/
  block : CaseBlock := .outside
  /-- The next word is a command. -/
  ready : Bool := true
  /-- The word before was one that runs the next word as a command. -/
  wrapped : Bool := false
  /-- No word has been read on the line yet. -/
  fresh : Bool := true
  /-- The word being read. -/
  word : Option OpenWord := none
  deriving DecidableEq, Repr

/-! ## Quotes and comments -/

/-- Whether the quote `q` is escaped by the backslashes in front of it. -/
def quoteEscaped (mode : EscapeMode) (context : Context) (past : List Char) (q : Char) : Bool :=
  match mode with
  | .legacy => past.head? == some '\\' && past.tail.head? != some '\\'
  | .strict =>
    !(q == '\'' && context == .singleQuoted) && (past.takeWhile (· == '\\')).length % 2 == 1

/-- The context after the character `c`. -/
def Context.next (mode : EscapeMode) (past : List Char) (c : Char) (context : Context) : Context :=
  match context with
  | .comment => .comment
  | .code =>
    if c == '#' then
      if past.head? = some '$' ∨ past.head? = some '\x7b' then .code else .comment
    else if quoteEscaped mode .code past c then .code
    else if c == '\'' then .singleQuoted
    else if c == '"' then .doubleQuoted
    else .code
  | .singleQuoted =>
    if c == '\'' && !quoteEscaped mode .singleQuoted past c then .code else .singleQuoted
  | .doubleQuoted =>
    if c == '"' && !quoteEscaped mode .doubleQuoted past c then .code else .doubleQuoted

/-- The decision behind a change of context at the given column. -/
def contextDecision (c : Char) (column : Nat) (before after : Context) : List Decision :=
  if before = after then []
  else if c == '#' then [.commentEntered]
  else if c == '\'' then [.quoteToggled .single column]
  else [.quoteToggled .double column]

/-! ## Command position -/

/-- A character that, directly in front of a word, makes it part of a path, an assignment, an
expansion or an option. -/
def disqualifies (c : Char) : Bool :=
  c.isAlphanum || c == '[' || c == '=' || c == '/' || c == '\x7d' || c == ':' || c == '.' ||
    c == '_' || c == '-'

/-- The reasons for which a command may start at the character `c`. -/
def readiness (fresh : Bool) (past : List Char) (c : Char) : List Decision :=
  (if past.head?.all isBlank && fresh && c.isAlpha then [.firstWord] else []) ++
    match past with
    | ' ' :: '|' :: ' ' :: _ => [.afterPipe]
    | ';' :: _ => [.afterSemicolon]
    | '(' :: '$' :: _ => [.afterSubstitution]
    | '\x60' :: _ => [.afterSubstitution]
    | _ => []

/-- The words that run the word after them as a command. -/
def wrapperWords : List String :=
  ["sudo", "time"]

namespace ScanState

/-- Notes whether a command may start at `c`. -/
def markReady (s : ScanState) (past : List Char) (c : Char) : ScanState × List Decision :=
  let reasons := readiness s.fresh past c
  ({ s with ready := s.ready || !reasons.isEmpty }, reasons)

/-- Follows the branches of a case statement: `)` ends a pattern, as does a line that has none, and
`;;` starts the next pattern on a line that has a `)`. -/
def trackCase (s : ScanState) (hasParen : Bool) (past : List Char) (c : Char) :
    ScanState × List Decision :=
  match s.block with
  | .outside => (s, [])
  | .pattern =>
    if c == ')' then ({ s with block := .body, ready := true }, [.pastPattern])
    else if !hasParen then ({ s with block := .body }, [.pastPattern])
    else (s, [])
  | .body =>
    if c == ';' && past.head? == some ';' && hasParen then ({ s with block := .pattern }, [])
    else (s, [])

/-- Whether a word may start at `c`. -/
def startsWord (s : ScanState) (past : List Char) (c : Char) : Bool :=
  c.isAlpha && (s.ready || s.wrapped) && !past.head?.any disqualifies

/-- Adds `c` to the word being read, or starts a word with it. -/
def extendWord (s : ScanState) (past : List Char) (column : Nat) (c : Char) : ScanState :=
  match s.word with
  | some w =>
    { s with word := some { w with chars := c :: w.chars }, fresh := s.fresh && w.isPattern }
  | none =>
    if s.startsWord past c then
      let isPattern := decide (s.block = .pattern)
      { s with word := some ⟨[c], column, isPattern⟩, fresh := s.fresh && isPattern }
    else s

/-- Ends the word being read. A word of a case pattern other than `esac` is dropped, and so is a
word of one character; any other word is a token. -/
def closeWord (s : ScanState) (line : Nat) : ScanState × List Decision :=
  match s.word with
  | none => (s, [])
  | some w =>
    let text := String.ofList w.chars.reverse
    if w.isPattern ∧ text ≠ "esac" then ({ s with word := none }, [.patternSkipped text])
    else
      let rested := { s with word := none, ready := false, fresh := false }
      if w.chars.length ≤ 1 then (rested, [])
      else
        let found := Decision.termFound ⟨text, line, w.column⟩
        let kept := { rested with wrapped := wrapperWords.contains text }
        if text = "case" then ({ kept with block := .pattern }, [found, .caseEntered])
        else if text = "esac" then ({ kept with block := .outside }, [found, .caseLeft])
        else (kept, [found])

/-! ## Lines -/

/-- Looks at a whole line before its characters: a pending here-document becomes the open one, an
open one may be closed, and the line may open another if it is read. -/
def lookAhead (s : ScanState) (isRead : Bool) (line : List Char) : ScanState × List Decision :=
  let current := s.pending <|> s.heredoc
  let closed := current.filter (·.closedBy line)
  let remaining := if closed.isSome then none else current
  let opened :=
    if remaining.isNone && isRead then Heredoc.openedBy? line else none
  ({ s with heredoc := remaining, pending := opened },
    closed.toList.map (Decision.heredocEnded ·.terminator) ++
      opened.toList.map (Decision.heredocStarted ·.terminator))

/-- Gives up a case pattern left open by the lines before if the line has no `)`. -/
def settle (s : ScanState) (hasParen : Bool) : ScanState × List Decision :=
  if s.context = .code ∧ s.block = .pattern ∧ hasParen = false then
    ({ s with block := .body }, [.pastPattern])
  else (s, [])

/-- Forgets what concerns one line only. -/
def endLine (s : ScanState) : ScanState :=
  { s with
    context := if s.context = .comment then .code else s.context
    block := if s.block = .body then .pattern else s.block
    ready := false
    wrapped := false
    fresh := true }

end ScanState

end CommandAudit
