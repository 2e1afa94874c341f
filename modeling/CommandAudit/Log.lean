import CommandAudit.Loading
import CommandAudit.Report

/-!
# Log records

What the parts of the program have to say about a run, from single decisions to skipped scripts.
A run shows the records from a threshold on.
-/

namespace CommandAudit

/-- The weight of a record. -/
inductive LogLevel
  | debug
  | info
  | warning
  | error
  deriving DecidableEq, Repr

/-- The rank of a level. -/
def LogLevel.rank : LogLevel → Nat
  | .debug => 0
  | .info => 1
  | .warning => 2
  | .error => 3

/-- The written name of a level. -/
def LogLevel.label : LogLevel → String
  | .debug => "DEBUG"
  | .info => "INFO"
  | .warning => "WARNING"
  | .error => "ERROR"

/-- The part of the program that speaks. -/
inductive LogSource
  | program
  | settings
  | catalogue
  | classification
  | scripts
  | scanner
  | declarations
  | report
  deriving DecidableEq, Repr

/-- The written name of a part. -/
def LogSource.label : LogSource → String
  | .program => "cmdscan"
  | .settings => "cmdscan.config"
  | .catalogue => "cmdscan.policy.reference_sets"
  | .classification => "cmdscan.policy.pipeline"
  | .scripts => "cmdscan.scanner.coordinator"
  | .scanner => "cmdscan.scanner.lexer"
  | .declarations => "cmdscan.scanner.prescan"
  | .report => "cmdscan.reporter.json_out"

/-- A record. -/
structure LogRecord where
  /-- Its weight. -/
  level : LogLevel
  /-- The part that speaks. -/
  source : LogSource
  /-- What it says. -/
  text : Text
  deriving DecidableEq, Repr

/-- The records from a threshold on. -/
def shownRecords (threshold : LogLevel) (log : List LogRecord) : List LogRecord :=
  log.filter fun r => threshold.rank ≤ r.level.rank

/-! ## Records of the parts -/

/-- What is said about the source of the settings. -/
def FileTree.SettingsSource.record : FileTree.SettingsSource → LogRecord
  | .loaded path => ⟨.debug, .settings, Text.join "" ["Loaded config from ", path.toText]⟩
  | .defaults path =>
    ⟨.debug, .settings, Text.join "" ["No config at ", path.toText, ", using defaults"]⟩

/-- What is said about the bundled catalogue, which is said to be at `place`. -/
def bundledRecord (place : String) : LogRecord :=
  let c := Catalogue.bundled
  ⟨.debug, .catalogue, s!"Loaded {c.stages.length} reference stages and " ++
    s!"{c.platforms.length} platforms from {place}"⟩

/-- What is said about a stage. -/
def Stage.records (s : Stage) : List LogRecord :=
  ⟨.debug, .classification, Text.join "" [s!"Filtered {s.before.length} terms against ", s.label,
    s!": {s.removed.length} removed, {s.remaining.length} left"]⟩ ::
  if s.remaining.isEmpty then
    [⟨.debug, .classification,
      Text.join "" ["No terms left to evaluate after removing ", s.label]⟩]
  else []

/-- What is said about the audit of a script. -/
def ScriptReport.records (r : ScriptReport) (s : Script) (o : ScanOptions) : List LogRecord :=
  ⟨.info, .scripts, s!"Prescanning {s.name} for variables and functions"⟩ ::
    s.declarations.map (fun (n, d) =>
      ⟨.debug, .declarations, s!"Picked up {d.kind.label} '{d.name}' on line {n}"⟩) ++
    ⟨.info, .scripts, s!"Parsing {s.name} for terms"⟩ ::
    (s.trace o).map (fun line => ⟨.debug, .scanner, line⟩) ++
    (if r.tokenCount = 0 then
      [⟨.info, .scripts, s!"Found no terms to evaluate in {s.name}"⟩] else []) ++
    r.classification.stages.flatMap Stage.records

/-- What is said about a search for scripts. -/
def discoveryRecord (count : Nat) (directory : Path) : LogRecord :=
  ⟨.info, .scripts, s!"Found {count} shell scripts under {directory.toString}"⟩

/-- What is said about a script that cannot be loaded. -/
def skippedRecord (e : InputError) : LogRecord :=
  ⟨.warning, .program, Text.join "" ["Skipping ", e.message]⟩

/-- What is said about a saved report. -/
def savedRecord (count : Nat) (path : Path) : LogRecord :=
  ⟨.info, .report, s!"Wrote JSON report for {count} script(s) to {path.toString}"⟩

end CommandAudit
