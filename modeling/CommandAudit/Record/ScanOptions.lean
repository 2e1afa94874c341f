import CommandAudit.Settings

/-!
# Scan options from records

The options of a scan as a caller gives them: an escape mode by its name and line ranges as pairs of
integers. A further field may hold a function that follows the progress; data never holds one, so
only its absence is valid.
-/

namespace CommandAudit

/-- A line range given as a pair of integers. -/
def Check.lineRange (v : Value) : Checked LineRange :=
  (Check.integerPair v).map fun (first, last) => ⟨first, last⟩

/-- Nothing, where a function would be expected. -/
def Check.noFunction : Value → Checked Unit
  | .null => .valid ()
  | _ => .fail .notFunction

/-- The options given by the entries of a record. -/
def ScanOptions.ofRecord (entries : List (Value × Value)) : Checked ScanOptions :=
  (fun mode window trace (_ : Unit) => ScanOptions.mk mode window trace)
    <$> Check.fieldOr entries "escape_mode" .legacy Check.escapeMode
    <*> Check.fieldOr entries "line_window" none (Check.optional Check.lineRange)
    <*> Check.fieldOr entries "trace_lines" none (Check.optional Check.lineRange)
    <*> Check.fieldOr entries "progress" () Check.noFunction

end CommandAudit
