import CommandAudit.Calendar
import CommandAudit.Catalogue
import CommandAudit.Catalogue.Bundled
import CommandAudit.Classification
import CommandAudit.Command.Arguments
import CommandAudit.Command.Invocation
import CommandAudit.Command.Run
import CommandAudit.Console
import CommandAudit.Declaration
import CommandAudit.Discovery
import CommandAudit.Failure
import CommandAudit.FileTree
import CommandAudit.Heredoc
import CommandAudit.Json
import CommandAudit.LineRange
import CommandAudit.Loading
import CommandAudit.Log
import CommandAudit.Main
import CommandAudit.Number.Binary64
import CommandAudit.Path
import CommandAudit.Record.Catalogue
import CommandAudit.Record.Mention
import CommandAudit.Record.ScanOptions
import CommandAudit.Report
import CommandAudit.Scan
import CommandAudit.Scan.Decision
import CommandAudit.Scan.Options
import CommandAudit.Scan.State
import CommandAudit.Script
import CommandAudit.Settings
import CommandAudit.Terms
import CommandAudit.Text
import CommandAudit.Text.Alphanumeric
import CommandAudit.Text.Blank
import CommandAudit.Text.DecimalDigit
import CommandAudit.Text.Emoji
import CommandAudit.Text.Integer
import CommandAudit.Text.LineEnd
import CommandAudit.Text.Lowercase
import CommandAudit.Text.Markup
import CommandAudit.Text.Printable
import CommandAudit.Text.Quoted
import CommandAudit.Text.Search
import CommandAudit.Text.Sorted
import CommandAudit.Text.Style
import CommandAudit.Text.Uppercase
import CommandAudit.Text.Utf8
import CommandAudit.Text.Word
import CommandAudit.Validation
import CommandAudit.Value
import CommandAudit.Yaml.Cursor
import CommandAudit.Yaml.Data
import CommandAudit.Yaml.Error
import CommandAudit.Yaml.Merge
import CommandAudit.Yaml.Node
import CommandAudit.Yaml.Number
import CommandAudit.Yaml.Scalar
import CommandAudit.Yaml.Source
import CommandAudit.Yaml.Tag
import CommandAudit.Yaml.Token
import CommandAudit.Proofs.LineScan
import CommandAudit.Proofs.ScriptScan
import CommandAudit.Proofs.Region
import CommandAudit.Proofs.HeredocBody
import CommandAudit.Proofs.StringContent
import CommandAudit.Proofs.CommandPosition
import CommandAudit.Proofs.CommandWord
import CommandAudit.Proofs.ScriptLines
import CommandAudit.Proofs.Continuation
import CommandAudit.Proofs.LineWindow
import CommandAudit.Proofs.TokenPosition
import CommandAudit.Proofs.Remainder
import CommandAudit.Proofs.TermOrder
import CommandAudit.Proofs.Audit
import CommandAudit.Proofs.EscapeModes
import CommandAudit.Proofs.LineRest
import CommandAudit.Proofs.LocalNames
import CommandAudit.Proofs.ShellQuoting
import CommandAudit.Proofs.FirstLine
import CommandAudit.Proofs.CanonicalJson
import CommandAudit.Proofs.CasePattern
import CommandAudit.Proofs.HeredocOperator
import CommandAudit.Proofs.Resolution
import CommandAudit.Proofs.RunOutcome
import CommandAudit.Proofs.DirectoryScan
import CommandAudit.Proofs.PathLength
import CommandAudit.Proofs.ReportSummary
import CommandAudit.Proofs.NeutralText
import CommandAudit.Proofs.StageLedger
import CommandAudit.Proofs.Observation
import CommandAudit.Proofs.LineWords
import CommandAudit.Proofs.LoopVariables
import CommandAudit.Proofs.DeclaredNames
import CommandAudit.Proofs.Utf8Decoding
import CommandAudit.Proofs.LineEnds
import CommandAudit.Proofs.FoundScripts
import CommandAudit.Proofs.ConfigReading
import CommandAudit.Proofs.LineIndex
import CommandAudit.Proofs.IntegerText
import CommandAudit.Proofs.LineRanges
import CommandAudit.Proofs.Overrides
