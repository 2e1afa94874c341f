import CommandAudit.Failure
import CommandAudit.Report
import CommandAudit.Text.Blank
import CommandAudit.Text.Markup

/-!
# Text for the terminal

Reports as plain lines. A panel is a title and then its lines between bars; a table is a title, a
header and its rows. Every line is trimmed, blanks inside it are single spaces, and empty lines are
left out. Texts may hold style marks, which are not shown; the names of scripts are shown literally.
What is written for a text with marks is for the terminal to say: `Terminal.plain` is one that reads
marks as `Markup` does and never breaks a line.
-/

namespace CommandAudit

/-! ## Lines -/

/-- A control character that rings the bell or moves the cursor; it is not written. -/
def isUnshown (c : Char) : Bool :=
  let n := c.toNat
  n == 0x07 || n == 0x08 || n == 0x0B || n == 0x0C || n == 0x0D

/-- Whether `c` is one of the characters for drawing boxes. -/
def isBoxDrawing (c : Char) : Bool :=
  0x2500 ≤ c.toNat && c.toNat ≤ 0x257F

/-- A character in plain lines: of the characters for drawing boxes only vertical bars are kept. -/
def plainChar (c : Char) : Char :=
  if c == '│' || c == '┃' then '|' else if isBoxDrawing c then ' ' else c

/-- One step of making runs of blanks one space: the characters so far, latest first, and whether
a blank was passed since the last of them. -/
def squeezeStep (acc : List Char × Bool) (c : Char) : List Char × Bool :=
  let c := plainChar c
  if isUnshown c then acc
  else if isBlank c then (acc.1, true)
  else if acc.2 && !acc.1.isEmpty then (c :: ' ' :: acc.1, false)
  else (c :: acc.1, false)

/-- A line in its plain form: no blanks at its ends, and single spaces inside. -/
def plainLine (s : String) : String :=
  String.ofList (s.toList.foldl squeezeStep ([], false)).1.reverse

/-- Whether a plain line ends at `c`: a newline, or a separator of lines or larger parts. -/
def endsPlainLine (c : Char) : Bool :=
  let n := c.toNat
  n == 0x0A || (0x1C ≤ n && n ≤ 0x1E) || n == 0x85 || n == 0x2028 || n == 0x2029

/-- The lines of a text in their plain form, without the empty ones. -/
def plainLines (s : String) : List String :=
  ((s.toList.splitOnP endsPlainLine).map fun cs => plainLine (String.ofList cs)).filter (· ≠ "")

/-- The lines of a cell. -/
def cellLines (cell : String) : List String :=
  (cell.toList.splitOn '\n').map String.ofList

/-- The lines of a row of a table: as many as its highest cell has. -/
def tableRow (cells : List String) : List String :=
  let columns := cells.map cellLines
  let height := (columns.map List.length).foldl max 0
  (List.range height).map fun i =>
    "| " ++ String.intercalate " | " (columns.map fun lines => lines.getD i "") ++ " |"

/-- A panel with a title on one line, and the lines of its body. -/
def framed (title body : String) : List String :=
  String.intercalate " " (cellLines title) :: (cellLines body).flatMap fun line => tableRow [line]

/-- A word with the ending that its count asks for. -/
def plural (count : Nat) (word : String) : String :=
  if count = 1 then word else word ++ "s"

/-! ## Blocks -/

/-- Something that is written at one time. Its texts may hold style marks. -/
inductive Block
  /-- Plain lines. -/
  | lines (text : Text)
  /-- A panel with a title. -/
  | panel (title body : Text)
  /-- A table with a title. -/
  | table (title : Text) (header : List String) (rows : List (List Text))
  deriving DecidableEq, Repr

/-- The outcome of reading a marked-up text. -/
def ofMarkup {α : Type} : Except Markup.Fault α → Except Breakdown α
  | .ok a => .ok a
  | .error .unbalanced | .error .badEvent => .error .unbalancedStyle
  | .error .incompleteColour => .error .incompleteColour

section

variable (hasValue : List Char → Bool)

/-- A text without its style marks; `hasValue` tells the parameters of events that have a value. -/
def unmarked (t : Text) : Except Breakdown String :=
  ofMarkup (Markup.plain hasValue t.lossy)

namespace Block

/-- The texts of a block. -/
def texts : Block → List Text
  | .lines t => [t]
  | .panel title body => [title, body]
  | .table title _ rows => title :: rows.flatten

/-- The layout of a block, once its texts are without style marks. -/
def layout : Block → Except Breakdown (List String)
  | .lines t => do .ok [← unmarked hasValue t]
  | .panel title body => do
    .ok (framed (← unmarked hasValue title) (← unmarked hasValue body))
  | .table title header rows => do
    let title ← unmarked hasValue title
    let rows ← rows.mapM fun row => row.mapM (unmarked hasValue)
    .ok (title :: tableRow header ++ rows.flatMap tableRow)

/-- The plain lines of a block. Nothing of it is written if one of its texts cannot be. -/
def plainLines (b : Block) : Except Breakdown (List String) := do
  let lines ← b.layout hasValue
  if b.texts.all Text.isEncodable then .ok (lines.flatMap CommandAudit.plainLines)
  else .error .notEncodable

end Block

end

/-! ## Reports -/

/-- A text that is not meant to hold style marks. One with surrogates cannot be written anyway, so
nothing else of it matters. -/
def literally : Text → Text
  | .string s => Markup.escape s
  | .broken points => .broken (points.filter isSurrogate)

/-- The lines for an error. -/
def errorBlock (e : InputError) : Block :=
  .lines (Text.join "" ["[red]Error: ", literally e.message, "[/red]"])

/-- The line that announces the scan of a single script. -/
def startBlock : Block :=
  .lines "Prescanning script for variables and functions..."

/-- What is shown while a script is scanned, and then removed. -/
def progressText (name : String) : String :=
  s!"Parsing [bold]{name}[/bold] for terms"

/-- What is written for a stage. -/
def Stage.blocks (s : Stage) : List Block :=
  let count := s.before.length
  let noun := plural count "term"
  let terms := String.intercalate " " s.before
  [.lines s!"{count} {noun} left to filter: [dim]{terms}[/dim].",
    .lines (Text.join "" ["Now filtering against ", s.label, "."])] ++
  if s.remaining.isEmpty then
    [.lines (Text.join "" ["No terms left to evaluate after removing ", s.label, "."])]
  else []

/-- The name of a platform for readers. -/
def platformTitle (platform : Text) : Text :=
  if platform = "macos" then "macOS" else if platform = "linux" then "Linux" else platform

/-- The marks in front of a verdict, and their colours. -/
def statusMark : ScanStatus → String × String
  | .resolved => ("[bold green][OK][/bold green]", "green")
  | .unresolved => ("[bold yellow][WARN][/bold yellow]", "yellow")
  | .noTokens => ("[bold blue][INFO][/bold blue]", "blue")

/-- The panel with the verdict on a script. -/
def ScriptReport.verdict (r : ScriptReport) (platform : Text) : Block :=
  let remainder := r.classification.remainder
  let (mark, colour) := statusMark r.classification.status
  let shell := Text.join "" [platformTitle platform, " Bash shell"]
  let names := String.intercalate "\n" (remainder.map fun name => s!"    [bold]{name}[/bold]")
  let body : Text :=
    match r.classification.status with
    | .noTokens => "Found no terms to evaluate!"
    | .resolved =>
      Text.join "" ["All the commands used in this script are built into the ", shell, "."]
    | .unresolved =>
      let opening :=
        if remainder.length = 1 then
          "The following command appears to be a third-party program not built into the "
        else
          s!"The following {remainder.length} commands appear to be " ++
            "third-party programs not built into the "
      Text.join "" [opening, shell, ":\n\n", names]
  let name := Markup.escape r.script
  .panel s!"[bold {colour}]{name}[/bold {colour}]" (Text.join "" ["  ", mark, "  ", body])

/-- What is written for the names a script binds. -/
def ScriptReport.declarationBlocks (r : ScriptReport) : List Block :=
  let names := String.intercalate ", " r.declarations
  if r.declarations.isEmpty then []
  else [.lines s!"[dim]Declared in script ({r.declarations.length}): {names}[/dim]"]

/-- What is written for all stages of a script and the verdict on it. -/
def ScriptReport.detailBlocks (r : ScriptReport) (platform : Text) : List Block :=
  r.classification.stages.flatMap Stage.blocks ++ [r.verdict platform]

/-- The table of all scripts, and the names that are left. -/
def Report.summaryBlocks (r : Report) : List Block :=
  let rows : List (List Text) := r.scripts.map fun s =>
    let status := s.classification.status
    let (_, colour) := statusMark status
    [Markup.escape s.script, toString s.lineCount, s!"[{colour}]{status.label}[/{colour}]",
      String.intercalate ", " s.classification.remainder]
  let unresolved := r.unresolved
  let noun := plural unresolved.length "command"
  let names := String.intercalate ", " unresolved
  let verdict :=
    if unresolved.isEmpty then
      let (mark, _) := statusMark .resolved
      s!"\n  {mark}  No unresolved commands."
    else
      let (mark, _) := statusMark .unresolved
      s!"\n  {mark}  {unresolved.length} distinct unresolved {noun}: [bold]{names}[/bold]"
  let title := Markup.escape r.target
  [.table s!"cmdscan: {title}" ["Script", "Lines", "Status", "Unresolved"] rows, .lines verdict]

/-- The table of the sets a scan consults. -/
def setsBlock (sets : List KnownNames) : Block :=
  let rows : List (List Text) := (sets.zipIdx 1).map fun (k, i) =>
    let size := if k.name = "declared" then "per script" else toString k.distinctNames.length
    [toString i, k.name, k.label, size]
  .table "Reference sets (consulted in order)" ["#", "Name", "Label", "Names"] rows

/-! ## Terminals -/

/-- Where a run writes what it has to say. -/
structure Terminal where
  /-- Writes a block: the plain lines that are seen, or what keeps it from being written. -/
  write : Block → Except Breakdown (List String)
  /-- Shows the progress on the script with the given name, and removes it again. -/
  showProgress : String → Except Breakdown Unit

/-- A terminal that breaks no line; `hasValue` tells the parameters of events that have a value. -/
def Terminal.plain (hasValue : List Char → Bool := fun _ => true) : Terminal where
  write := Block.plainLines hasValue
  showProgress name := do
    let _ ← ofMarkup (Markup.read hasValue (progressText name))
    .ok ()

end CommandAudit
