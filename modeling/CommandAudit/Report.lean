import CommandAudit.Classification
import CommandAudit.Declaration
import CommandAudit.Json
import CommandAudit.Scan
import CommandAudit.Settings
import CommandAudit.Terms

/-!
# Reports

The audit of a script collects its declarations, its tokens and the classification of its terms. A
report holds the audits of one run and is written as canonical JSON.
-/

namespace CommandAudit

/-- The result for one script. -/
structure ScriptReport where
  /-- The name of the script. -/
  script : String
  /-- The number of its lines. -/
  lineCount : Nat
  /-- The names it binds, sorted. -/
  declarations : List String
  /-- The number of its tokens. -/
  tokenCount : Nat
  /-- The classification of its terms. -/
  classification : Classification
  deriving DecidableEq, Repr

/-- Audits a script against a catalogue; there is no result for an unknown platform. -/
def Script.audit? (s : Script) (catalogue : Catalogue) (settings : Settings)
    (options : ScanOptions) : Option ScriptReport :=
  let declared := sortedTexts s.declaredNames
  (catalogue.setsFor? declared settings.platform settings.extraNames).map fun sets =>
    let tokens := s.tokens options
    { script := s.name
      lineCount := s.lineCount
      declarations := declared
      tokenCount := tokens.length
      classification := classify (sortedTerms (tokens.map Token.text)) sets }

/-- The version of the program that is named in reports. -/
def reportVersion : String :=
  "0.1.0"

/-- The results of one run. -/
structure Report where
  /-- What was scanned. -/
  target : String
  /-- When it was scanned. -/
  timestamp : String
  /-- The platform whose names counted as known. -/
  platform : Text := "macos"
  /-- How quotes were escaped. -/
  escapeMode : EscapeMode := .legacy
  /-- The results of the scripts. -/
  scripts : List ScriptReport := []
  deriving DecidableEq, Repr

/-- The elements of a list, each at its first occurrence. -/
def firstOccurrences (xs : List String) : List String :=
  (xs.foldl (fun seen x => if seen.contains x then seen else x :: seen) []).reverse

/-- The unresolved names of all scripts, each at its first occurrence. -/
def Report.unresolved (r : Report) : List String :=
  firstOccurrences (r.scripts.flatMap fun s => s.classification.remainder)

/-- Whether all texts of a report can be written. -/
def Report.isEncodable (r : Report) : Bool :=
  r.platform.isEncodable && r.scripts.all fun s =>
    s.classification.stages.all fun stage => stage.name.isEncodable && stage.label.isEncodable

/-! ## Reports as data -/

/-- A list of texts as data. -/
def textArray (xs : List String) : JsonValue :=
  .array (xs.map .text)

/-- A stage as data. -/
def Stage.toJson (s : Stage) : JsonValue :=
  .object [("name", .text s.name.lossy), ("label", .text s.label.lossy),
    ("before", textArray s.before), ("removed", textArray s.removed),
    ("remaining", textArray s.remaining)]

/-- A classification as data. -/
def Classification.toJson (c : Classification) : JsonValue :=
  .object [("status", .text c.status.label), ("terms", textArray c.terms),
    ("stages", .array (c.stages.map Stage.toJson)), ("remainder", textArray c.remainder)]

/-- The result for a script as data. -/
def ScriptReport.toJson (r : ScriptReport) : JsonValue :=
  .object [("script", .text r.script), ("line_count", .int r.lineCount),
    ("declarations", textArray r.declarations), ("token_count", .int r.tokenCount),
    ("classification", r.classification.toJson)]

/-- A report as data. -/
def Report.toJson (r : Report) : JsonValue :=
  .object [("cmdscan_version", .text reportVersion), ("scan_target", .text r.target),
    ("scan_timestamp", .text r.timestamp), ("platform", .text r.platform.lossy),
    ("escape_mode", .text r.escapeMode.label),
    ("scripts", .array (r.scripts.map ScriptReport.toJson))]

end CommandAudit
