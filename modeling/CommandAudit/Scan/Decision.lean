/-!
# Tokens and decisions

A token is a word found in command position. While a script is scanned every decision of the
scanner is recorded; finding a token is one of them. `Decision.describe` gives a decision's wording.
-/

namespace CommandAudit

/-- A word in command position; line and column of its first character are counted from one. -/
structure Token where
  /-- The word. -/
  text : String
  /-- The line the word stands on. -/
  line : Nat
  /-- The column of the first character. -/
  column : Nat
  deriving DecidableEq, Repr

/-- The two kinds of quotes. -/
inductive Quote
  | single
  | double
  deriving DecidableEq, Repr

/-- A decision of the scanner. -/
inductive Decision
  /-- A comment starts. -/
  | commentEntered
  /-- A quoted string starts or ends at the column. -/
  | quoteToggled (quote : Quote) (column : Nat)
  /-- A letter begins the first word of its line. -/
  | firstWord
  /-- The place comes after a pipe between two spaces. -/
  | afterPipe
  /-- The place comes after a semicolon. -/
  | afterSemicolon
  /-- The place comes after the start of a command substitution. -/
  | afterSubstitution
  /-- The pattern of a case branch is over. -/
  | pastPattern
  /-- A word that belongs to a case pattern is dropped. -/
  | patternSkipped (text : String)
  /-- A word in command position is kept. -/
  | termFound (token : Token)
  /-- A case statement starts. -/
  | caseEntered
  /-- A case statement ends. -/
  | caseLeft
  /-- The line opens a here-document. -/
  | heredocStarted (terminator : String)
  /-- The line closes a here-document. -/
  | heredocEnded (terminator : String)
  deriving DecidableEq, Repr

namespace Decision

/-- The token found by a decision, if any. -/
def token? : Decision → Option Token
  | .termFound t => some t
  | _ => none

/-- The wording of a decision taken on line `n`. -/
def describe (n : Nat) : Decision → String
  | .commentEntered => s!"Entered comment on line {n}"
  | .quoteToggled .single column => s!"Single quote toggled on line {n} col {column}"
  | .quoteToggled .double column => s!"Double quote toggled on line {n} col {column}"
  | .firstWord => s!"Possible command: first word on line {n}"
  | .afterPipe => s!"Possible command after ' | ' on line {n}"
  | .afterSemicolon => s!"Possible command after ';' on line {n}"
  | .afterSubstitution => s!"Possible command after command substitution on line {n}"
  | .pastPattern => s!"Past case pattern on line {n}"
  | .patternSkipped text => s!"Skipped case pattern '{text}' on line {n}"
  | .termFound token => s!"Found term '{token.text}' on line {n}"
  | .caseEntered => s!"Entering case statement on line {n}"
  | .caseLeft => s!"Exiting case statement on line {n}"
  | .heredocStarted terminator => s!"Found start of heredoc '{terminator}' on line {n}"
  | .heredocEnded terminator => s!"Found end of heredoc '{terminator}' on line {n}"

end Decision

end CommandAudit
