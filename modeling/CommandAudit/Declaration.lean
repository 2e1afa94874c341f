import CommandAudit.Heredoc
import CommandAudit.Script
import CommandAudit.Text.Blank

/-!
# Declarations

The names a script binds itself. Every line is read on its own, without regard to quotes and
comments, and five forms are recognised: an assignment at the start of the line, assignments on a
line that starts with `declare`, loop variables, functions, and the closing word of a here-document.
-/

namespace CommandAudit

/-- The form in which a name is bound. -/
inductive DeclarationKind
  | variable
  | array
  | loopVariable
  | function
  | heredocDelimiter
  deriving DecidableEq, Repr

/-- The wording of a form in messages. -/
def DeclarationKind.label : DeclarationKind → String
  | .variable => "variable"
  | .array => "array"
  | .loopVariable => "loop variable"
  | .function => "function"
  | .heredocDelimiter => "heredoc delimiter"

/-- A name bound on some line. -/
structure Declaration where
  /-- The form of the binding. -/
  kind : DeclarationKind
  /-- The bound name. -/
  name : String
  deriving DecidableEq, Repr

namespace Declaration

/-! ## Names on one line -/

/-- The name assigned at the start of the line, blanks apart. -/
def assigned? (line : List Char) : Option (List Char) :=
  let rest := line.dropWhile isBlank
  if leadingWord rest ≠ [] ∧ (afterLeadingWord rest).head? = some '=' then some (leadingWord rest)
  else none

/-- The words directly followed by `=`; `run` holds the word characters just passed, latest
first. -/
def namesBeforeEquals (run : List Char) : List Char → List (List Char)
  | [] => []
  | c :: cs =>
    if isWordChar c then namesBeforeEquals (c :: run) cs
    else if c == '=' && !run.isEmpty then run.reverse :: namesBeforeEquals [] cs
    else namesBeforeEquals [] cs

/-- The words that follow `keyword`, found from the left without overlap; the first `skip`
characters belong to the previous find. -/
def namesAfter (keyword : List Char) (skip : Nat) : List Char → List (List Char)
  | [] => []
  | c :: cs =>
    match skip with
    | k + 1 => namesAfter keyword k cs
    | 0 =>
      if keyword.isPrefixOf (c :: cs) then
        match leadingWord ((c :: cs).drop keyword.length) with
        | [] => namesAfter keyword 0 cs
        | name => name :: namesAfter keyword (keyword.length + name.length - 1) cs
      else namesAfter keyword 0 cs

/-- Whether the line starts with `declare`, blanks apart. -/
def startsDeclare (line : List Char) : Bool :=
  "declare".toList.isPrefixOf (line.dropWhile isBlank)

/-- A character after which the word `for` is taken to be quoted or commented out. -/
def hidesFor (c : Char) : Bool :=
  c == '#' || c == '"' || c == '\''

/-- Whether some `for` on the line comes after a quote or a comment sign. -/
def hasHiddenFor (line : List Char) : Bool :=
  occursIn "for".toList (line.dropWhile fun c => !hidesFor c).tail

/-- The loop variables of the line: none at all if some `for` is hidden. -/
def loopVariables (line : List Char) : List (List Char) :=
  if hasHiddenFor line then [] else namesAfter "for ".toList 0 line

/-- All declarations of a line, form by form. -/
def ofLine (line : List Char) : List Declaration :=
  let all (kind : DeclarationKind) (names : List (List Char)) : List Declaration :=
    names.map fun name => ⟨kind, String.ofList name⟩
  all .variable (assigned? line).toList ++
    all .array (if startsDeclare line then namesBeforeEquals [] line else []) ++
    all .loopVariable (loopVariables line) ++
    all .function (namesAfter "function ".toList 0 line) ++
    ((Heredoc.openedBy? line).toList.map fun h => ⟨.heredocDelimiter, h.terminator⟩)

end Declaration

/-! ## Declarations of a script -/

namespace Script

/-- All declarations of the script with the numbers of their lines. -/
def declarations (s : Script) : List (Nat × Declaration) :=
  (s.lineTexts.zipIdx 1).flatMap fun (line, n) => (Declaration.ofLine line).map fun d => (n, d)

/-- The names the script binds, in the order of their declarations. -/
def declaredNames (s : Script) : List String :=
  s.declarations.map fun d => d.2.name

end Script

end CommandAudit
