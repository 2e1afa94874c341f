/-!
# Errors of YAML documents

Why a text is no usable document. Most causes are errors of the document as such. The others are
values that have the form of a number, a time or a character but are none; they are told apart,
because they are not reported as errors of the document.
-/

namespace CommandAudit.Yaml

/-- Why a text is no usable YAML document. -/
inductive YamlError
  /-- A character that may not occur in a document. -/
  | forbiddenCharacter
  /-- Bytes that are no text. -/
  | notUtf8
  /-- Characters that make no token. -/
  | badToken
  /-- Tokens that make no document. -/
  | badStructure
  /-- An anchor that is unknown or given twice. -/
  | badAnchor
  /-- A tag that is unknown or does not fit its value. -/
  | badTag
  /-- A value that cannot be a key. -/
  | badKey
  /-- More than one document. -/
  | severalDocuments
  /-- Collections, or references, that are nested too deeply. -/
  | tooDeep
  /-- A number, date or character code that is out of range. -/
  | outOfRange
  /-- A number that is too large to be handled at all. -/
  | overflow
  /-- A word that is no truth value. -/
  | unknownWord
  /-- A number without any character. -/
  | emptyNumber
  /-- A text that has not the form of a time. -/
  | malformedTime
  /-- A collection where a time is expected. -/
  | timeOfCollection
  deriving DecidableEq, Repr

/-- Whether the cause is an error of the document as such. -/
def YamlError.isOfDocument : YamlError → Bool
  | .forbiddenCharacter | .badToken | .badStructure | .badAnchor | .badTag | .badKey
  | .severalDocuments => true
  | _ => false

end CommandAudit.Yaml
