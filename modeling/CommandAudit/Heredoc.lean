import CommandAudit.Text.Search
import CommandAudit.Text.Word

/-!
# Here-documents

The operator `<<NAME` on a line opens a here-document that ends at a line starting with `NAME`.
`Heredoc.occurrence?` reads an operator at a given place, `Heredoc.leftmost?` finds the first one
on a line, and `Heredoc.openedBy?` refuses it when it stands inside `((…))`, where `<<` shifts.
-/

namespace CommandAudit

/-- What opens a here-document: its closing word, and whether that word may be indented by tabs. -/
structure Heredoc where
  /-- The word that closes the body. -/
  terminator : String
  /-- Written `<<-`: tabs before the closing word are ignored. -/
  stripTabs : Bool
  deriving DecidableEq, Repr

namespace Heredoc

/-- An identifier at the start of `cs`, and what follows it. -/
def identifier? (cs : List Char) : Option (List Char × List Char) :=
  match cs with
  | c :: _ => if isNameStart c then some (leadingWord cs, afterLeadingWord cs) else none
  | [] => none

/-- The closing word written after the operator: an identifier, bare or between equal quotes. -/
def delimiter? (cs : List Char) : Option (List Char) :=
  match cs with
  | c :: rest =>
    if c == '"' || c == '\'' then
      match identifier? rest with
      | some (name, after) => if after.head? = some c then some name else none
      | none => none
    else (identifier? cs).map Prod.fst
  | [] => none

/-- Removes one leading `c`, if there is one. -/
def skipOne (c : Char) (cs : List Char) : List Char :=
  if cs.head? = some c then cs.tail else cs

/-- The operator at the start of `cs`, where `before` is the character in front of it. -/
def occurrence? (before : Option Char) (cs : List Char) : Option Heredoc :=
  match cs with
  | '<' :: '<' :: rest =>
    if before = some '<' ∨ rest.head? = some '<' then none
    else
      let dashed := rest.head? = some '-'
      let operand := skipOne '\\' ((skipOne '-' rest).dropWhile fun c => c == ' ' || c == '\t')
      (delimiter? operand).map fun name => ⟨String.ofList name, dashed⟩
  | _ => none

/-- The leftmost operator at or after the present place, with the text in front of it;
`past` holds the characters already passed, latest first. -/
def leftmost? (past : List Char) : List Char → Option (List Char × Heredoc)
  | [] => none
  | c :: cs =>
    match occurrence? past.head? (c :: cs) with
    | some h => some (past.reverse, h)
    | none => leftmost? (c :: past) cs

/-- Whether more `((` than `))` stand in the text before an operator, so that it is a shift. -/
def isArithmetic (before : List Char) : Bool :=
  countPairs '(' before > countPairs ')' before

/-- The here-document opened on `line`: the leftmost operator, unless it is a shift. -/
def openedBy? (line : List Char) : Option Heredoc :=
  match leftmost? [] line with
  | some (before, h) => if isArithmetic before then none else some h
  | none => none

/-- Whether `line` closes the body of `h`: it starts with the closing word. -/
def closedBy (h : Heredoc) (line : List Char) : Bool :=
  let start := if h.stripTabs then line.dropWhile (· == '\t') else line
  h.terminator.toList.isPrefixOf start

end Heredoc

end CommandAudit
