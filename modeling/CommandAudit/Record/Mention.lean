import CommandAudit.Terms
import CommandAudit.Validation

/-!
# Mentions from records

A mention of a word as a caller gives it: the bare word, or a record with the word, a line and a
column. The line and the column must be integers, but they need not be a place in any script, so
only the word is kept.
-/

namespace CommandAudit

/-- The mention given by a word or by a record. -/
def Mention.ofValue : Value → Checked Mention
  | .mapping entries =>
    (fun word (_ _ : Int) => Mention.text word.lossy)
      <$> Check.requiredField entries "text" Check.text
      <*> Check.requiredField entries "line" Check.integer
      <*> Check.requiredField entries "column" Check.integer
  | v => (Check.text v).map fun word => .text word.lossy

end CommandAudit
