import CommandAudit.Command.Invocation
import CommandAudit.Console
import CommandAudit.Discovery
import CommandAudit.Log

/-!
# Running a command

A command is a function of the files it finds: it yields the lines and the report it writes, its
log, its exit code and the files as it leaves them. A run stops at the first failure, but keeps what
was written and logged before.
-/

namespace CommandAudit

/-- What a command finds when it starts. -/
structure Environment where
  /-- The files. -/
  files : FileTree
  /-- The file of the settings named by the environment. -/
  configVariable : Option String := none
  /-- The time to put into reports. -/
  timestamp : String
  /-- Where the bundled catalogue is said to be. -/
  bundledPlace : String
  /-- The terminal. -/
  terminal : Terminal := .plain

/-- What a command leaves behind. -/
structure RunState where
  /-- The files. -/
  files : FileTree
  /-- The lines written. -/
  lines : List String := []
  /-- The report written to the standard output. -/
  json : Option String := none
  /-- The file the report was saved to, with its text. -/
  saved : Option (Path × String) := none
  /-- All log records. -/
  log : List LogRecord := []

/-- A part of a run. -/
abbrev Run (α : Type) :=
  ExceptT Failure (StateM RunState) α

namespace Run

/-- Adds records to the log. -/
def record (records : List LogRecord) : Run Unit :=
  modify fun s => { s with log := s.log ++ records }

/-- Ends the run if a block cannot be written. -/
def orBreak {α : Type} : Except Breakdown α → Run α
  | .ok a => pure a
  | .error fault => throw (.breakdown fault)

/-- Writes blocks one after the other. -/
def print (terminal : Terminal) (blocks : List Block) : Run Unit :=
  blocks.forM fun block => do
    let lines ← orBreak (terminal.write block)
    modify fun s => { s with lines := s.lines ++ lines }

end Run

/-! ## Settings -/

/-- The settings of a run: those of the file with the given fields replaced. The platform must be
one of the catalogue. -/
def Environment.settings (env : Environment) (config : Option String) (overrides : Overrides) :
    Run Settings := do
  let named := config.map fun s => Path.ofText s
  let (loaded, source) ← env.files.loadSettings named env.configVariable
  Run.record [source.record]
  match loaded.override overrides with
  | .invalid ps => refuse (.optionInvalid ps)
  | .valid settings =>
    let catalogue ← env.files.catalogueAt settings.catalogue
    if settings.catalogue.isNone then Run.record [bundledRecord env.bundledPlace]
    let known := catalogue.platformNames
    if known.contains settings.platform then return settings
    else refuse (.unknownPlatform settings.platform (Text.join ", " known))

/-- Refuses a platform that is not in the catalogue. -/
def Catalogue.refusePlatform {α : Type} (c : Catalogue) (platform : Text) : Outcome α :=
  let known := Text.join ", " c.platformNames
  refuse (.unknownPlatform platform (if known.isEmpty then "none" else known))

/-- The sets for a platform that must be in the catalogue. -/
def Catalogue.requireSets (c : Catalogue) (declared : List String) (platform : Text)
    (extra : List Text) : Outcome (List KnownNames) :=
  match c.setsFor? declared platform extra with
  | some sets => .ok sets
  | none => c.refusePlatform platform

/-- Audits a script with the catalogue that the settings name. -/
def FileTree.auditScript (t : FileTree) (s : Script) (settings : Settings)
    (options : ScanOptions) : Outcome ScriptReport := do
  let catalogue ← t.catalogueAt settings.catalogue
  match s.audit? catalogue settings options with
  | some report => .ok report
  | none => catalogue.refusePlatform settings.platform

/-! ## Scanning -/

/-- Whether a run shows its progress and results as lines. -/
def ScanCommand.isInteractive (c : ScanCommand) : Bool :=
  !c.quiet && !c.json

/-- The log records that a run shows. -/
def ScanCommand.threshold (c : ScanCommand) : LogLevel :=
  if c.quiet then .error else if c.verbose then .debug else .warning

/-- Audits a loaded script and logs the audit. -/
def ScanCommand.auditLoaded (c : ScanCommand) (env : Environment) (settings : Settings)
    (script : Script) : Run ScriptReport := do
  let options := settings.scanOptions c.window c.trace
  let report ← env.files.auditScript script settings options
  Run.record (report.records script options)
  return report

/-- Scans the scripts found below a directory; a script that cannot be loaded is skipped. -/
def ScanCommand.scanFound (c : ScanCommand) (env : Environment) (settings : Settings)
    (target : Path) : List Path → Run (List ScriptReport)
  | [] => return []
  | path :: rest => do
    match env.files.loadScript (target.join path) settings path.toString with
    | .error (.input e) =>
      Run.record [skippedRecord e]
      c.scanFound env settings target rest
    | .error failure => throw failure
    | .ok script =>
      let report ← c.auditLoaded env settings script
      if c.isInteractive && c.verbose then
        Run.print env.terminal (report.detailBlocks settings.platform)
      return report :: (← c.scanFound env settings target rest)

/-- Scans a directory. -/
def ScanCommand.scanDirectory (c : ScanCommand) (env : Environment) (settings : Settings)
    (target : Path) : Run (List ScriptReport) := do
  let found ← env.files.discover target
  Run.record [discoveryRecord found.length (env.files.resolve target)]
  c.scanFound env settings target found

/-- Scans a single script. -/
def ScanCommand.scanFile (c : ScanCommand) (env : Environment) (settings : Settings)
    (target : Path) : Run ScriptReport := do
  let script ← env.files.loadScript target settings target.toString
  if c.isInteractive then
    Run.print env.terminal [startBlock]
    Run.orBreak (env.terminal.showProgress script.name)
  let report ← c.auditLoaded env settings script
  if c.isInteractive then
    if c.verbose then Run.print env.terminal report.declarationBlocks
    Run.print env.terminal (report.detailBlocks settings.platform)
  return report

/-- Saves a report to a file. The file is left empty if the report cannot be written. -/
def saveReport (report : Report) (path : Path) : Run Unit := do
  let state ← get
  let text := if report.isEncodable then report.toJson.canonical else ""
  let files ← ofFile (state.files.save path (encodeUtf8 text.toList))
  set { state with files, saved := some (path, text) }
  if report.isEncodable then Run.record [savedRecord report.scripts.length path]
  else throw (.breakdown .notEncodable)

/-- Writes a report to the standard output. -/
def printReport (report : Report) : Run Unit :=
  if report.isEncodable then modify fun s => { s with json := some report.toJson.canonical }
  else throw (.breakdown .notEncodable)

/-- Runs the command `scan` and returns its report. -/
def ScanCommand.run (c : ScanCommand) (env : Environment) : Run Report := do
  let settings ← env.settings c.config c.overrides
  let target := Path.ofText c.target
  let empty : Report :=
    { target := target.toString
      timestamp := env.timestamp
      platform := settings.platform
      escapeMode := settings.escapeMode }
  let report ←
    if (← ofFile (env.files.node? target)).any (·.isDirectory) then do
      let report := { empty with scripts := ← c.scanDirectory env settings target }
      if c.isInteractive then Run.print env.terminal report.summaryBlocks
      pure report
    else
      pure { empty with scripts := [← c.scanFile env settings target] }
  if let some output := c.output then saveReport report (.ofText output)
  if c.json then printReport report
  return report

/-- Runs the command `sets`. -/
def SetsCommand.run (c : SetsCommand) (env : Environment) : Run Unit := do
  let settings ← env.settings c.config { platform := c.platform }
  let catalogue ← env.files.catalogueAt settings.catalogue
  let sets ← catalogue.requireSets [] settings.platform settings.extraNames
  Run.print env.terminal [setsBlock sets]

/-! ## Results -/

/-- The result of a command. -/
structure RunResult where
  /-- The exit code. -/
  exitCode : Nat
  /-- The files after the run. -/
  files : FileTree
  /-- The lines written. -/
  lines : List String := []
  /-- The report written to the standard output. -/
  json : Option String := none
  /-- The file the report was saved to, with its text. -/
  saved : Option (Path × String) := none
  /-- The log records shown. -/
  log : List LogRecord := []
  /-- The fault that ended the run at once. -/
  breakdown : Option Breakdown := none

/-- The result of a run that is over. A problem of the input is written as a line. -/
def RunResult.ofRun {α : Type} (env : Environment) (threshold : LogLevel) (run : Run α)
    (exitCode : α → Nat) : RunResult :=
  let (outcome, state) := run.run { files := env.files }
  let base : RunResult :=
    { exitCode := 1
      files := state.files
      lines := state.lines
      json := state.json
      saved := state.saved
      log := shownRecords threshold state.log }
  match outcome with
  | .ok a => { base with exitCode := exitCode a }
  | .error (.breakdown fault) => { base with breakdown := some fault }
  | .error (.input e) =>
    match env.terminal.write (errorBlock e) with
    | .ok lines => { base with lines := base.lines ++ lines }
    | .error fault => { base with breakdown := some fault }

/-- How the program is used. -/
def usageLines : List String :=
  ["Usage: cmdscan [OPTIONS] COMMAND [ARGS]...",
    "scan PATH: report commands a script uses that are not built in or standard",
    "sets: show the reference sets a scan consults, in order"]

/-- Runs a command. -/
def Command.run (env : Environment) : Command → RunResult
  | .scan c => .ofRun env c.threshold (c.run env) fun report =>
      if c.failOnUnresolved && !report.unresolved.isEmpty then 1 else 0
  | .sets c => .ofRun env .warning (c.run env) fun _ => 0
  | .help => { exitCode := 0, files := env.files, lines := usageLines }

end CommandAudit
