import CommandAudit.Scan.Decision
import CommandAudit.Text.Sorted
import CommandAudit.Text.Uppercase

/-!
# Terms

The distinct words of a script in alphabetical order. Words are compared by their upper-case forms
and, where these are equal, by the words themselves, so that words which differ in case stay apart.
-/

namespace CommandAudit

/-- Something that mentions a word: a token of a script or the bare word. -/
inductive Mention
  | token (token : Token)
  | text (text : String)
  deriving DecidableEq, Repr

/-- The mentioned word. -/
def Mention.word : Mention → String
  | .token t => t.text
  | .text s => s

/-- What words are ordered by. -/
def sortKey (word : String) : String × String :=
  (uppercase word, word)

/-- The order of keys: by the first part, and by the second if the first parts are equal. -/
def keyLE (a b : String × String) : Bool :=
  a.1 < b.1 || (a.1 == b.1 && a.2 ≤ b.2)

/-- The distinct words in alphabetical order. -/
def sortedTerms (words : List String) : List String :=
  (sortDistinct keyLE (words.map sortKey)).map Prod.snd

/-- The distinct mentioned words in alphabetical order. -/
def termsOf (mentions : List Mention) : List String :=
  sortedTerms (mentions.map Mention.word)

end CommandAudit
